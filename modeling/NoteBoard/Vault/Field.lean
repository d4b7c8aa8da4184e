import NoteBoard.Calendar.Notation
import NoteBoard.Calendar.Reading
import NoteBoard.Json.Decode
import NoteBoard.Table

/-!
Field values in the front matter of notes, and the texts they count as.
-/

namespace NoteBoard

/-- A value in the front matter of a note. Texts in the form of a date or an instant are read as
such, so that they count as the same whichever way they are written. -/
inductive FieldValue (K : Type) where
  | null
  | bool (value : Bool)
  | integer (value : Int)
  | real (value : K)
  | instant (value : Instant)
  | date (value : Date)
  | text (value : String)
  | list (items : List (FieldValue K))
  | map (entries : List (String × FieldValue K))

/-- The fields of a note, in the order in which they are written. -/
abbrev Frontmatter (K : Type) := Table (FieldValue K)

namespace FieldValue

variable {K : Type}

mutual

/-- The texts a value counts as. A list counts as all its items, a map as nothing. -/
def texts [Numeral K] : FieldValue K → List String
  | .null => []
  | .bool value => [if value then "true" else "false"]
  | .integer value => [toString value]
  | .real value => [Numeral.plain value]
  | .instant value => [value.text]
  | .date value => [value.text]
  | .text value => [Text.trim value]
  | .list items => textsOfItems items
  | .map _ => []

def textsOfItems [Numeral K] : List (FieldValue K) → List String
  | [] => []
  | item :: rest => item.texts ++ textsOfItems rest

end

mutual

/-- Whether a value is as good as missing. -/
def isBlank : FieldValue K → Bool
  | .null => true
  | .text value => (Text.trim value).isEmpty
  | .list items => itemsBlank items
  | .map entries => entries.isEmpty
  | _ => false

def itemsBlank : List (FieldValue K) → Bool
  | [] => true
  | item :: rest => item.isBlank && itemsBlank rest

end

mutual

def toJson : FieldValue K → Json K
  | .null => .null
  | .bool value => .bool value
  | .integer value => .integer value
  | .real value => .real value
  | .instant value => .text value.text
  | .date value => .text value.text
  | .text value => .text value
  | .list items => .array (itemsToJson items)
  | .map entries => .object (entriesToJson entries)

def itemsToJson : List (FieldValue K) → List (Json K)
  | [] => []
  | item :: rest => item.toJson :: itemsToJson rest

def entriesToJson : List (String × FieldValue K) → List (String × Json K)
  | [] => []
  | (key, value) :: rest => (key, value.toJson) :: entriesToJson rest

end

/-- A text as a field value. -/
def ofText (text : String) : FieldValue K :=
  match Calendar.fieldInstant? text with
  | some t => .instant t
  | none => match Calendar.fieldDate? text with
    | some d => .date d
    | none => .text text

end FieldValue

namespace FieldValue

variable {K : Type} [Number K]

mutual

/-- Reads a field value. Whole numbers beyond 64 bits become real ones. -/
def ofJson? : Json K → Option (FieldValue K)
  | .null => some .null
  | .bool value => some (.bool value)
  | .integer value =>
    some (if fitsSigned64 value then .integer value
      else .real (Number.ofInt value))
  | .real value => some (.real value)
  | .text value => some (ofText value)
  | .array items => (itemsOfJson? items).map .list
  | .object members => (entriesOfJson? members []).map .map
  | .unusable => none

def itemsOfJson? : List (Json K) → Option (List (FieldValue K))
  | [] => some []
  | item :: rest => do
    let value ← ofJson? item
    return value :: (← itemsOfJson? rest)

/-- Entries after those already read. Of entries with one key the last counts, in the place of
the first. -/
def entriesOfJson? :
    List (String × Json K) → Frontmatter K → Option (Frontmatter K)
  | [], read => some read
  | (key, value) :: rest, read => do
    let value ← ofJson? value
    entriesOfJson? rest (Table.set read key value)

end

end FieldValue

namespace Frontmatter

variable {K : Type}

/-- Equal but for the case of ASCII letters. -/
def sameLetters (a b : String) : Bool :=
  a.toList.map Char.toLower == b.toList.map Char.toLower

/-- The field with exactly this key, else the first whose key differs only in case. -/
def find? (fields : Frontmatter K) (key : String) : Option (FieldValue K) :=
  (fields.lookup key).or ((List.find? (fun f => sameLetters f.1 key) fields).map Prod.snd)

def toJson (fields : Frontmatter K) : Json K :=
  (FieldValue.map fields).toJson

def ofJson? [Number K] : Json K → Option (Frontmatter K)
  | .object members => FieldValue.entriesOfJson? members []
  | _ => none

end Frontmatter
end NoteBoard
