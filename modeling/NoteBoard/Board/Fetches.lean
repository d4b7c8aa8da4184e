import NoteBoard.Table

/-!
Fetches of widget data that are under way. Every fetch has a ticket; a ticket is live until its
fetch is cancelled, and a new fetch for a widget cancels the one before it.
-/

namespace NoteBoard

/-- The ticket of one fetch. Generations count all fetches, from one. -/
structure Ticket where
  widget : String
  generation : Nat
deriving DecidableEq

/-- The fetches of a board. In the place of the tokens of a `Registry` they keep which generations
have been cancelled; both agree on every history. -/
structure Fetches where
  /-- The generation of the last ticket. -/
  issued : Nat
  /-- All tickets up to this generation have been cancelled. -/
  dropped : Nat
  /-- Later generations that have been cancelled one by one. -/
  cancelled : List Nat
  /-- The generation that is under way for each widget. -/
  pending : Table Nat
deriving DecidableEq

namespace Fetches

/-- No fetch yet. -/
def none : Fetches := ⟨0, 0, [], []⟩

/-- Whether a ticket has not been cancelled. -/
def isLive (f : Fetches) (t : Ticket) : Bool :=
  decide (f.dropped < t.generation) && !f.cancelled.contains t.generation

/-- Applies the result of a fetch to a state, unless the ticket has been cancelled, and says whether
it did. -/
def commit {α : Type} (f : Fetches) (t : Ticket) (apply : α → α) (state : α) : Bool × α :=
  if f.isLive t then (true, apply state) else (false, state)

/-- Whether a fetch for a widget is under way. -/
def isUnderWay (f : Fetches) (widget : String) : Bool :=
  (f.pending.lookup widget).isSome

/-- How many widgets have a fetch under way. -/
def countUnderWay (f : Fetches) : Nat :=
  f.pending.length

/-- Starts a fetch for a widget, and cancels the one that is under way. -/
def start (f : Fetches) (widget : String) : Ticket × Fetches :=
  let generation := f.issued + 1
  let stale := (f.pending.lookup widget).toList
  (⟨widget, generation⟩,
    { f with
      issued := generation
      cancelled := stale ++ f.cancelled
      pending := f.pending.set widget generation })

/-- Cancels the fetch of a widget, and says whether one was under way. -/
def cancel (f : Fetches) (widget : String) : Bool × Fetches :=
  match f.pending.lookup widget with
  | some generation =>
    (true, { f with
      cancelled := generation :: f.cancelled
      pending := f.pending.erase widget })
  | .none => (false, f)

/-- Cancels all fetches. -/
def clear (f : Fetches) : Fetches :=
  { f with dropped := f.issued, pending := [] }

/-- Notes that a fetch has ended. Its ticket stays live; a ticket that is not the one under way
for its widget changes nothing. -/
def ended (f : Fetches) (t : Ticket) : Fetches :=
  if f.pending.lookup t.widget = some t.generation then
    { f with pending := f.pending.erase t.widget }
  else f

end Fetches
end NoteBoard
