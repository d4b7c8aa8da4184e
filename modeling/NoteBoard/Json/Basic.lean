/-!
JSON values over a type of numbers. An object keeps its members as they were written, repetitions
included, so that a reader can decide what a repetition means.
-/

namespace NoteBoard

/-- A JSON value. Whole-number literals are kept apart from the other numbers. -/
inductive Json (K : Type) where
  | null
  | bool (value : Bool)
  | integer (value : Int)
  | real (value : K)
  | text (value : String)
  | array (items : List (Json K))
  | object (members : List (String × Json K))
  /-- A well-formed value that cannot be held: a number out of range, a text with half a
  surrogate pair, or nesting beyond the limit. -/
  | unusable

namespace Json

variable {K : Type}

/-- Containers may be nested this deep. -/
def depthLimit : Nat := 127

mutual

/-- Whether a value can be held as a whole. -/
def usable : Json K → Bool
  | .unusable => false
  | .array items => itemsUsable items
  | .object members => membersUsable members
  | _ => true

def itemsUsable : List (Json K) → Bool
  | [] => true
  | item :: rest => item.usable && itemsUsable rest

def membersUsable : List (String × Json K) → Bool
  | [] => true
  | (_, value) :: rest => value.usable && membersUsable rest

end

/-- Puts a member into a list that is sorted by name, in place of one with the same name. -/
def insertMember (name : String) (value : Json K) :
    List (String × Json K) → List (String × Json K)
  | [] => [(name, value)]
  | (other, known) :: rest =>
    if name < other then (name, value) :: (other, known) :: rest
    else if name = other then (name, value) :: rest
    else (other, known) :: insertMember name value rest

mutual

/-- The value with the members of its objects sorted by name; of members with one name the last
counts. -/
def canonical : Json K → Json K
  | .array items => .array (canonicalItems items)
  | .object members => .object (canonicalMembers members [])
  | value => value

def canonicalItems : List (Json K) → List (Json K)
  | [] => []
  | item :: rest => item.canonical :: canonicalItems rest

def canonicalMembers : List (String × Json K) → List (String × Json K) → List (String × Json K)
  | [], sorted => sorted
  | (name, value) :: rest, sorted =>
    canonicalMembers rest (insertMember name value.canonical sorted)

end

/-- The first member of an object with a name. -/
def member? (name : String) : Json K → Option (Json K)
  | .object members => members.lookup name
  | _ => none

/-- A member that is written only if it is there. -/
def optional (name : String) (value : Option (Json K)) : List (String × Json K) :=
  (value.map (name, ·)).toList

end Json
end NoteBoard
