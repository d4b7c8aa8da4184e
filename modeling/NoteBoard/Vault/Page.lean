import NoteBoard.Vault.Field

/-!
Notes and tasks as a provider reports them.
-/

namespace NoteBoard

/-- A note: its path in the vault, its name, its tags, its fields and its time stamps. -/
structure Page (K : Type) where
  path : String
  name : String
  tags : List String
  frontmatter : Option (Frontmatter K)
  created : Option String
  modified : Option String

/-- A checkbox item of a note; lines count from zero. -/
structure Task where
  path : String
  line : Nat
  text : String
  completed : Bool
  due : Option String
  tags : List String
  heading : Option String
  created : Option String
  modified : Option String
deriving DecidableEq

/-- The last segment of a path, without the extension of notes. -/
def nameOfPath (path : String) : String :=
  let file := (path.toList.reverse.takeWhile (· != '/')).reverse
  let ending := ".md".toList
  String.ofList (if ending.isSuffixOf file then file.take (file.length - ending.length) else file)

namespace Page

variable {K : Type}

/-- A note with a path and the name that follows from it. -/
def ofPath (path : String) : Page K :=
  ⟨path, nameOfPath path, [], none, none, none⟩

/-- With a field set. -/
def setField (p : Page K) (key : String) (value : FieldValue K) : Page K :=
  { p with frontmatter := some (Table.set (p.frontmatter.getD []) key value) }

/-- The name, or the name that follows from the path where there is none. -/
def shownName (p : Page K) : String :=
  if (Text.trim p.name).isEmpty then nameOfPath p.path else p.name

def toJson (p : Page K) : Json K :=
  .object ([("path", .text p.path), ("name", .text p.name),
    ("tags", .array (p.tags.map .text))] ++
    Json.optional "frontmatter" (p.frontmatter.map Frontmatter.toJson) ++
    Json.optional "ctime" (p.created.map .text) ++
    Json.optional "mtime" (p.modified.map .text))

def ofJson? [Number K] (value : Json K) : Option (Page K) := do
  let r ← value.record? ["path", "name", "tags", "frontmatter", "ctime", "mtime"]
  return ⟨← r.required "path" Json.text?, ← r.withDefault "name" "" Json.text?,
    ← r.withDefault "tags" [] (Json.list? Json.text?),
    ← r.optional "frontmatter" Frontmatter.ofJson?,
    ← r.optional "ctime" Json.text?, ← r.optional "mtime" Json.text?⟩

end Page

namespace Task

/-- An open task without tags and time stamps. -/
def ofLine (path : String) (line : Nat) (text : String) : Task :=
  ⟨path, line, text, false, none, [], none, none, none⟩

variable {K : Type}

def toJson (t : Task) : Json K :=
  .object ([("path", .text t.path), ("line", .integer t.line), ("text", .text t.text),
    ("completed", .bool t.completed)] ++
    Json.optional "due" (t.due.map .text) ++
    [("tags", .array (t.tags.map .text))] ++
    Json.optional "section" (t.heading.map .text) ++
    Json.optional "fileCtime" (t.created.map .text) ++
    Json.optional "fileMtime" (t.modified.map .text))

def ofJson? (value : Json K) : Option Task := do
  let r ← value.record? ["path", "line", "text", "completed", "due", "tags", "section",
    "fileCtime", "fileMtime"]
  return ⟨← r.required "path" Json.text?, ← r.required "line" Json.nat32?,
    ← r.withDefault "text" "" Json.text?, ← r.withDefault "completed" false Json.bool?,
    ← r.optional "due" Json.text?, ← r.withDefault "tags" [] (Json.list? Json.text?),
    ← r.optional "section" Json.text?, ← r.optional "fileCtime" Json.text?,
    ← r.optional "fileMtime" Json.text?⟩

end Task
end NoteBoard
