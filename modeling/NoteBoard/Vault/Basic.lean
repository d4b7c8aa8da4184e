import NoteBoard.Text.Entries
import NoteBoard.Vault.Checkbox
import NoteBoard.Vault.Provider

/-!
A vault held in memory. A task has the tags of the note at its path besides its own; the contents
of files are kept only to flip checkboxes in them.
-/

namespace NoteBoard

/-- Notes, tasks, and the contents of some files by path. -/
structure Vault (K : Type) where
  notes : List (Page K)
  items : List Task
  files : Table String

namespace Vault

variable {K : Type}

/-- With the content of a file set. -/
def setFile (v : Vault K) (path content : String) : Vault K :=
  { v with files := v.files.set path content }

def addPage (v : Vault K) (p : Page K) : Vault K :=
  { v with notes := v.notes ++ [p] }

def addTask (v : Vault K) (t : Task) : Vault K :=
  { v with items := v.items ++ [t] }

def file? (v : Vault K) (path : String) : Option String :=
  v.files.lookup path

/-- The tags of the first note at a path. -/
def tagsAt (v : Vault K) (path : String) : List String :=
  ((v.notes.find? (·.path == path)).map (·.tags)).getD []

def parsed (query : String) : Except ProviderError Query.Tree :=
  (Query.Tree.ofText query).mapError (ProviderError.query query)

def pagesOf (v : Vault K) (query : String) : Except ProviderError (List (Page K)) := do
  let e ← parsed query
  return v.notes.filter fun p => e.takes p.tags p.path

def tasksOf (v : Vault K) (query : String) : Except ProviderError (List Task) := do
  let e ← parsed query
  return v.items.filter fun t => e.takes (v.tagsAt t.path ++ t.tags) t.path

/-- The content of a file with the checkbox on a line flipped, and whether the item is done
then. -/
def toggledFile? (content : String) (line : Nat) : Option (String × Bool) := do
  let lines := Text.splitWhere (· == '\n') content.toList
  let box := (← Checkbox.ofLine? (← lines[line]?)).toggle
  return (String.ofList (['\n'].intercalate (lines.set line box.line)), box.isChecked)

/-- Sets the first task on a line of a note done or open. -/
def setCompleted (path : String) (line : Nat) (completed : Bool) : List Task → List Task
  | [] => []
  | t :: rest =>
    if t.path = path ∧ t.line = line then { t with completed := completed } :: rest
    else t :: setCompleted path line completed rest

/-- Flips the checkbox on a line of a file, and the first task there with it. -/
def toggle (v : Vault K) (path : String) (line : Nat) : Bool × Vault K :=
  match (v.file? path).bind fun content => toggledFile? content line with
  | some (content, completed) =>
    (true, { v.setFile path content with items := setCompleted path line completed v.items })
  | none => (false, v)

instance : Provider (Vault K) K where
  isReady _ := true
  pages := pagesOf
  tasks := tasksOf
  toggle := toggle

end Vault
end NoteBoard
