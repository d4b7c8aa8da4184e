import NoteBoard.Text.Blank

/-!
Lists written in one text, with commas between the entries, and texts put together from parts.
-/

namespace NoteBoard.Text

/-- The pieces between the characters of a class; there is one more of them than separators. -/
def splitWhere (p : Char → Bool) : List Char → List (List Char)
  | [] => [[]]
  | c :: rest =>
    if p c then [] :: splitWhere p rest
    else match splitWhere p rest with
      | [] => [[c]]
      | piece :: pieces => (c :: piece) :: pieces

/-- The parts one after another with a separator between each two. -/
def join (separator : String) (parts : List String) : String :=
  String.ofList (separator.toList.intercalate (parts.map String.toList))

/-- The pieces between commas, cleaned, without the empty ones. -/
def entriesWith (clean : List Char → List Char) (text : String) : List String :=
  let pieces := (splitWhere (· == ',') text.toList).map (clean ∘ strip isBlank)
  (pieces.filter fun piece => !piece.isEmpty).map String.ofList

/-- The entries of a comma list: trimmed, and without empty ones. -/
def entries (text : String) : List String :=
  entriesWith id text

theorem splitWhere_ne_nil (p : Char → Bool) (text : List Char) : splitWhere p text ≠ [] := by
  cases text with
  | nil => simp [splitWhere]
  | cons c rest =>
    simp only [splitWhere]
    split
    · simp
    · split <;> simp

end NoteBoard.Text
