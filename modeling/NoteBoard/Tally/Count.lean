import NoteBoard.Tally.Retrieval
import NoteBoard.Window.Timeframe

/-!
Counts of notes and tasks in a time window.
-/

namespace NoteBoard

/-- What is counted. -/
inductive Counted where
  | notes
  | tasks
deriving DecidableEq

/-- Which time stamp has to lie in the window. -/
inductive StampKind where
  | created
  | modified
deriving DecidableEq

namespace Counted

/-- Notes are also called files and pages. -/
def names : List (String × Counted) :=
  [("files", .notes), ("pages", .notes), ("tasks", .tasks)]

/-- The name where a target is written. -/
def targetName : Counted → String
  | .notes => "files"
  | .tasks => "tasks"

/-- The name where a series is written. -/
def seriesName : Counted → String
  | .notes => "pages"
  | .tasks => "tasks"

def ofJson? {K : Type} : Json K → Option Counted :=
  Json.choice? Json.isNothing names

end Counted

namespace StampKind

def names : List (String × StampKind) :=
  [("created", .created), ("ctime", .created), ("modified", .modified), ("mtime", .modified)]

def name : StampKind → String
  | .created => "created"
  | .modified => "modified"

def ofJson? {K : Type} : Json K → Option StampKind :=
  Json.choice? Json.isNothing names

def ofPage {K : Type} (kind : StampKind) (p : Page K) : Option String :=
  match kind with
  | .created => p.created
  | .modified => p.modified

def ofTask (kind : StampKind) (t : Task) : Option String :=
  match kind with
  | .created => t.created
  | .modified => t.modified

end StampKind

/-- A count with the days of the window it was taken over. -/
structure Count where
  count : Nat
  days : Option Int
deriving DecidableEq

namespace Count

variable {σ K : Type} [TimeZone] [Provider σ K] [Numeral K]

/-- The count of what any filter selects whose time stamp belongs to the window. -/
def take (s : σ) (counted : Counted) (filters : List Filter) (stamp : StampKind) (w : Window) :
    Count where
  count := match counted with
    | .notes => (Retrieval.pages s filters).countP fun p => w.admits (stamp.ofPage p)
    | .tasks => (Retrieval.tasks s filters).countP fun t => w.admits (stamp.ofTask t)
  days := w.days

@[simp] theorem days_take (s : σ) (counted : Counted) (filters : List Filter) (stamp : StampKind)
    (w : Window) : (take s counted filters stamp w).days = w.days := rfl

end Count
end NoteBoard
