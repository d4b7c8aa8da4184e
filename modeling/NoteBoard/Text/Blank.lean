/-!
Blank characters of all scripts, and texts without them at their ends.
-/

namespace NoteBoard.Text

/-- Whether a character is white space: the blanks of all scripts, tabs, and the breaks of lines
and pages. -/
def isBlank (c : Char) : Bool :=
  let n := c.toNat
  9 ≤ n && n ≤ 13 || n == 0x20 || n == 0x85 || n == 0xA0 || n == 0x1680 ||
    0x2000 ≤ n && n ≤ 0x200A || n == 0x2028 || n == 0x2029 || n == 0x202F || n == 0x205F ||
    n == 0x3000

/-- Without the characters of a class at the start. -/
def dropStart (p : Char → Bool) (text : List Char) : List Char :=
  text.dropWhile p

/-- Without the characters of a class at the end. -/
def dropEnd (p : Char → Bool) (text : List Char) : List Char :=
  (text.reverse.dropWhile p).reverse

/-- Without the characters of a class at both ends. -/
def strip (p : Char → Bool) (text : List Char) : List Char :=
  dropEnd p (dropStart p text)

/-- Without white space at both ends. -/
def trim (text : String) : String :=
  String.ofList (strip isBlank text.toList)

theorem mem_dropStart {p : Char → Bool} {text : List Char} {c : Char} (hMem : c ∈ text)
    (hc : p c = false) : c ∈ dropStart p text := by
  induction text with
  | nil => exact hMem
  | cons d rest ih =>
    simp only [dropStart, List.dropWhile_cons] at ih ⊢
    split
    · next hd =>
      rcases List.mem_cons.1 hMem with rfl | h
      · simp [hc] at hd
      · exact ih h
    · exact hMem

/-- A character outside the class stays. -/
theorem mem_strip {p : Char → Bool} {text : List Char} {c : Char} (hMem : c ∈ text)
    (hc : p c = false) : c ∈ strip p text := by
  have hStart := List.mem_reverse.2 (mem_dropStart hMem hc)
  exact List.mem_reverse.2 (mem_dropStart hStart hc)

theorem trim_ne_of_mem {text : String} {c : Char} (hMem : c ∈ text.toList)
    (hc : isBlank c = false) : trim text ≠ "" := by
  intro h
  have hEmpty := congrArg String.toList h
  simp only [trim, String.toList_ofList] at hEmpty
  exact List.not_mem_nil (hEmpty ▸ mem_strip hMem hc)

end NoteBoard.Text
