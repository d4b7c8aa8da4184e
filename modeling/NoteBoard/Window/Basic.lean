import NoteBoard.Calendar.Notation
import NoteBoard.Calendar.Reading
import NoteBoard.Json.Decode

/-!
Time windows: intervals of wall-clock time, either side of which may be open, with the count of
days they span where that is known.
-/

namespace NoteBoard

/-- A time window. A missing bound is open. -/
structure Window where
  start : Option Instant
  finish : Option Instant
  days : Option Int
deriving DecidableEq

namespace Window

/-- The window of all time. -/
def always : Window := ⟨none, none, none⟩

/-- Whether both bounds and the count of days are known. -/
def isBounded (w : Window) : Bool :=
  w.start.isSome && w.finish.isSome && w.days.isSome

/-- Whether both sides are open. -/
def isOpen (w : Window) : Bool :=
  w.start.isNone && w.finish.isNone

/-- Whether an instant lies in the window; the bounds do. -/
def contains (w : Window) (t : Instant) : Bool :=
  w.start.all (fun start => decide (start ≤ t)) &&
    w.finish.all (fun finish => decide (t ≤ finish))

/-- The window of equal length just before this one. There is none without both bounds and a
positive count of days, nor where the calendar ends. -/
def previous? (w : Window) : Option Window := do
  let start ← w.start
  let _ ← w.finish
  let days ← w.days
  if days ≤ 0 then none
  else
    let finish ← start.pred?
    let first ← finish.date.shift? (1 - days)
    return ⟨some (Instant.startOf first), some finish, some days⟩

/-- Whether something with a time stamp belongs to the window. A window that is open on both sides
takes everything; any other needs a stamp that can be read. -/
def admits [TimeZone] (w : Window) (stamp : Option String) : Bool :=
  w.isOpen || (stamp.bind Calendar.stamp?).any w.contains

variable {K : Type}

/-- A written instant, or null. -/
def instantJson (t : Option Instant) : Json K :=
  match t with
  | some t => .text t.text
  | none => .null

def instant? (value : Json K) : Option Instant :=
  value.text?.bind Calendar.fieldInstant?

def toJson (w : Window) : Json K :=
  .object [("start", instantJson w.start), ("end", instantJson w.finish),
    ("days", match w.days with
      | some days => .integer days
      | none => .null)]

def ofJson? (value : Json K) : Option Window := do
  let r ← value.record? ["start", "end", "days"]
  return ⟨← r.nullable "start" instant?, ← r.nullable "end" instant?,
    ← r.nullable "days" Json.int64?⟩

end Window
end NoteBoard
