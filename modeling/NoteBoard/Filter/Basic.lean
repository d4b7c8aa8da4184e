import NoteBoard.Json.Decode
import NoteBoard.Text.Entries

/-!
Filters: which notes a widget is about, by tags, folders and fields. Every part is a comma list
as a person typed it; a filter without entries takes every note.
-/

namespace NoteBoard

/-- A field of the front matter must have one of the listed values. -/
structure FieldRule where
  key : String
  values : String
deriving DecidableEq

/-- A note must have one of the tags, lie in one of the folders, and pass every rule. -/
structure Filter where
  tags : String
  folders : String
  rules : List FieldRule
deriving DecidableEq

namespace FieldRule

/-- The key without white space around it. -/
def name (r : FieldRule) : String :=
  Text.trim r.key

/-- The values, of which a field must have one. -/
def wanted (r : FieldRule) : List String :=
  Text.entries r.values

/-- Whether the rule has a key and a value. -/
def isComplete (r : FieldRule) : Bool :=
  !r.name.isEmpty && !r.wanted.isEmpty

variable {K : Type}

def toJson (r : FieldRule) : Json K :=
  .object [("key", .text r.key), ("values", .text r.values)]

def ofJson? (value : Json K) : Option FieldRule := do
  let r ← value.record? ["key", "values"]
  return ⟨← r.withDefault "key" "" Json.text?, ← r.withDefault "values" "" Json.text?⟩

end FieldRule

namespace Filter

/-- The filter that takes every note. -/
def everything : Filter := ⟨"", "", []⟩

/-- A tag without the hashes in front of it. -/
def bareTag (entry : List Char) : List Char :=
  Text.strip Text.isBlank (Text.dropStart (· == '#') entry)

/-- A folder without the quotes around it. -/
def bareFolder (entry : List Char) : List Char :=
  Text.strip Text.isBlank (Text.strip (· == '"') entry)

/-- The tags, each once, in order of appearance. -/
def tagNames (f : Filter) : List String :=
  (Text.entriesWith bareTag f.tags).eraseDups

/-- The folders, each once, in order of appearance. -/
def folderNames (f : Filter) : List String :=
  (Text.entriesWith bareFolder f.folders).eraseDups

def hasCompleteRule (f : Filter) : Bool :=
  f.rules.any FieldRule.isComplete

/-- Whether no part of the filter asks for anything. -/
def takesAll (f : Filter) : Bool :=
  f.tagNames.isEmpty && f.folderNames.isEmpty && !f.hasCompleteRule

variable {K : Type}

def toJson (f : Filter) : Json K :=
  .object [("tags", .text f.tags), ("folders", .text f.folders),
    ("yamlFilters", .array (f.rules.map FieldRule.toJson))]

def ofJson? (value : Json K) : Option Filter := do
  let r ← value.record? ["tags", "folders", "yamlFilters"]
  return ⟨← r.withDefault "tags" "" Json.text?, ← r.withDefault "folders" "" Json.text?,
    ← r.withDefault "yamlFilters" [] (Json.list? FieldRule.ofJson?)⟩

end Filter
end NoteBoard
