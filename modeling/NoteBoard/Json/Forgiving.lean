import NoteBoard.Json.Decode
import NoteBoard.Number.Numeral
import NoteBoard.Text.Blank

/-!
Numbers of documents that were written by other programs. A number may stand in a text, and what
is no number at all is read as "not a number" for the layout to repair, not refused.
-/

namespace NoteBoard.Json

variable {K : Type} [Numeral K]

/-- What a value counts as where a number is wanted. -/
def lenient (value : Json K) : K :=
  match value with
  | .integer n => Number.ofInt n
  | .real x => x
  | .text written => (Numeral.read? (Text.trim written)).getD (0 / 0)
  | _ => 0 / 0

/-- A number where one is wanted, whatever is written there. -/
def lenientNumber? (value : Json K) : Option K :=
  if value.usable then some value.lenient else none

/-- The whole part of a number, at most the largest of 32 bits, and zero for what is less than
one or not finite. -/
def wholePart (x : K) : Nat :=
  match Numeral.size? x with
  | some (num, den) => if 1 ≤ x then min (num / den) (twoTo 32 - 1) else 0
  | none => 0

/-- A count where one is wanted, whatever is written there. -/
def lenientCount? (value : Json K) : Option Nat :=
  value.lenientNumber?.map wholePart

end NoteBoard.Json
