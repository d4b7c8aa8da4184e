import NoteBoard.Json.Basic
import NoteBoard.Number.Basic
import NoteBoard.Number.Power

/-!
Reading typed values out of JSON. A structure is read from an object by the names of its members,
or from an array by their positions; a name that is not known is passed over, a known name that is
repeated is refused.
-/

namespace NoteBoard.Json

variable {K : Type}

def text? : Json K → Option String
  | .text value => some value
  | _ => none

def bool? : Json K → Option Bool
  | .bool value => some value
  | _ => none

/-- A whole number between two bounds; numbers with a fraction part are refused, even if it is
zero. -/
def integer? (low high : Int) : Json K → Option Int
  | .integer value => if low ≤ value ∧ value ≤ high then some value else none
  | _ => none

/-- A whole number that fits in 32 bits. -/
def nat32? (value : Json K) : Option Nat :=
  (value.integer? 0 (twoTo 32 - 1)).map Int.toNat

/-- A whole number that fits in 64 bits. -/
def nat64? (value : Json K) : Option Nat :=
  (value.integer? 0 (twoTo 64 - 1)).map Int.toNat

/-- A whole number that fits in 64 bits with a sign. -/
def int64? (value : Json K) : Option Int :=
  value.integer? (-twoTo 63) (twoTo 63 - 1)

def number? [Number K] : Json K → Option K
  | .integer value => some (Number.ofInt value)
  | .real value => some value
  | _ => none

/-- A list of values of one kind. -/
def list? {α : Type} (item? : Json K → Option α) : Json K → Option (List α)
  | .array items => items.mapM item?
  | _ => none

/-- A value that may be null. -/
def nullable? {α : Type} (value? : Json K → Option α) : Json K → Option (Option α)
  | .null => some none
  | value => (value? value).map some

/-- Null. -/
def isNull : Json K → Bool
  | .null => true
  | _ => false

/-- Null or an empty object. -/
def isNothing : Json K → Bool
  | .null => true
  | .object [] => true
  | _ => false

/-- One of several names, written as a text, or as an object whose one member has the name and
holds `nothing`. -/
def choice? {α : Type} (isNothing : Json K → Bool) (names : List (String × α)) :
    Json K → Option α
  | .text name => names.lookup name
  | .object [(name, value)] => if isNothing value then names.lookup name else none
  | _ => none

/-- The tag of a variant: one of several names, or the position of one. -/
def tag? {α : Type} (names : List (String × α)) : Json K → Option α
  | .text name => names.lookup name
  | .integer (.ofNat n) => names[n]?.map Prod.snd
  | _ => none

/-- The members of a structure that is being read, found by name or by position. -/
structure Record (K : Type) where
  byName : Bool
  parts : List (String × Json K)

/-- Members by name; a repeated one is refused. -/
def Record.ofMembers? (members : List (String × Json K)) : Option (Record K) :=
  if (members.map Prod.fst).Nodup then some ⟨true, members⟩ else none

/-- The record of the members with known names. -/
def record? (names : List String) : Json K → Option (Record K)
  | .object members => Record.ofMembers? (members.filter fun m => names.contains m.1)
  | .array items => if items.length ≤ names.length then some ⟨false, names.zip items⟩ else none
  | _ => none

/-- The record of the members with known names, and the other members, which must all be
usable. -/
def recordAndRest? (names : List String) (members : List (String × Json K)) :
    Option (Record K × List (String × Json K)) := do
  let rest := members.filter fun m => !names.contains m.1
  let own ← Record.ofMembers? (members.filter fun m => names.contains m.1)
  if membersUsable rest then return (own, rest) else none

/-- The tag among members and the other members, which must all be usable. -/
def tagged? {α : Type} (name : String) (tag? : Json K → Option α)
    (members : List (String × Json K)) : Option (α × List (String × Json K)) := do
  let (own, rest) ← recordAndRest? [name] members
  return (← tag? (← own.parts.lookup name), rest)

namespace Record

variable {α : Type} (r : Record K)

/-- A member that must be there. -/
def required (name : String) (value? : Json K → Option α) : Option α :=
  (r.parts.lookup name).bind value?

/-- A member with a default. -/
def withDefault (name : String) (default : α) (value? : Json K → Option α) : Option α :=
  match r.parts.lookup name with
  | some value => value? value
  | none => some default

/-- A member that may be null, and in an object may be missing. -/
def nullable (name : String) (value? : Json K → Option α) : Option (Option α) :=
  match r.parts.lookup name with
  | some value => nullable? value? value
  | none => if r.byName then some none else none

/-- A member that may be null or missing. -/
def optional (name : String) (value? : Json K → Option α) : Option (Option α) :=
  r.withDefault name none (nullable? value?)

end Record
end NoteBoard.Json
