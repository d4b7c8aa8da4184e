import NoteBoard.Sorting
import NoteBoard.Vault.Page

/-!
Notes counted by a property: their tags, folder, name, or a field.
-/

namespace NoteBoard

/-- A value with a name, as charts show it. -/
structure Amount (K : Type) where
  name : String
  value : K
deriving DecidableEq

/-- The property that notes are grouped by. -/
inductive Grouping where
  | tag
  | folder
  | file
  | field (key : String)
deriving DecidableEq

namespace Amount

variable {K : Type}

def toJson (v : Amount K) : Json K :=
  .object [("name", .text v.name), ("value", .real v.value)]

def ofJson? [Number K] (value : Json K) : Option (Amount K) := do
  let r ← value.record? ["name", "value"]
  return ⟨← r.required "name" Json.text?, ← r.required "value" Json.number?⟩

end Amount

namespace Grouping

/-- The grouping with a name; any name that is not one of a property is the key of a field. -/
def ofText (text : String) : Grouping :=
  let name := Text.trim text
  if name = "" ∨ name = "tag" ∨ name = "tags" then .tag
  else if name = "folder" then .folder
  else if name = "file" then .file
  else .field name

def text : Grouping → String
  | .tag => "tag"
  | .folder => "folder"
  | .file => "file"
  | .field key => key

/-- The group of notes without tags. -/
def untagged : String := "(untagged)"

/-- The group of notes in no folder. -/
def root : String := "(root)"

/-- The group of notes without a value. -/
def empty : String := "(empty)"

/-- The different names that are not empty, or a stand-in if there are none. -/
def namesOr (standIn : String) (names : List String) : List String :=
  match (names.filter fun name => !name.isEmpty).eraseDups with
  | [] => [standIn]
  | names => names

/-- The path up to the last slash, if anything stands before that. -/
def folderOf? (path : String) : Option String :=
  match path.toList.reverse.dropWhile (· != '/') with
  | _ :: above => if above.isEmpty then none else some (String.ofList above.reverse)
  | [] => none

variable {K : Type} [Numeral K]

/-- The groups that a note belongs to, at least one and each once. -/
def groups (g : Grouping) (p : Page K) : List String :=
  match g with
  | .tag => namesOr untagged (p.tags.map fun tag =>
      String.ofList (Text.dropStart (· == '#') (Text.strip Text.isBlank tag.toList)))
  | .folder => [(folderOf? p.path).getD root]
  | .file => [p.shownName]
  | .field key =>
    let value := p.frontmatter.bind fun fields => fields.find? key
    namesOr empty ((value.map FieldValue.texts).getD [])

/-- Counts a name once more, at the end if it is new. -/
def bump (name : String) : List (String × Nat) → List (String × Nat)
  | [] => [(name, 1)]
  | (other, n) :: rest =>
    if other = name then (other, n + 1) :: rest else (other, n) :: bump name rest

/-- The count of notes in each group, in order of first appearance. -/
def counts (g : Grouping) (pages : List (Page K)) : List (String × Nat) :=
  (pages.flatMap g.groups).foldl (fun known name => bump name known) []

/-- The groups by size, the largest first and equal ones in order of first appearance. A limit
that is not zero keeps that many. -/
def ranked (g : Grouping) (pages : List (Page K)) (limit : Option Nat) : List (Amount K) :=
  let sorted := sortBy (fun a b => decide (b.2 ≤ a.2)) (g.counts pages)
  let kept := match limit with
    | some (n + 1) => sorted.take (n + 1)
    | _ => sorted
  kept.map fun (name, n) => ⟨name, Number.ofNat n⟩

end Grouping
end NoteBoard
