import NoteBoard.Board.Basic

/-!
The data of widgets: evaluated at once, or fetched while the board goes on.
-/

namespace NoteBoard
namespace Board

variable {K σ τ : Type}

/-- Starts a fetch for a widget, in place of the one under way. -/
def startFetch (b : Board K σ τ) (id : String) : Outcome K σ τ Ticket :=
  match b.widget id with
  | .ok _ =>
    let (ticket, fetches) := b.fetches.start id
    (.ok ticket, { b with fetches := fetches })
  | .error e => (.error e, b)

/-- Takes the result of a fetch, unless its ticket has been cancelled or its widget is gone.
Answers whether it was taken. -/
def applyFetch (b : Board K σ τ) (t : Ticket) (data : WidgetView K) : Bool × Board K σ τ :=
  let b := { b with fetches := b.fetches.ended t }
  if b.layout.contains t.widget then
    b.fetches.commit t (fun b => { b with data := b.data.set t.widget data }) b
  else (false, b)

/-- What a widget showed last. -/
def dataOf (b : Board K σ τ) (id : String) : Option (WidgetView K) :=
  b.data.lookup id

/-- Ends the gesture in progress and all fetches, as a board does when it is closed. -/
def close (b : Board K σ τ) : Board K σ τ :=
  { b.abandonGesture.2 with fetches := b.fetches.clear }

variable [Provider σ K]

/-- Flips the checkbox of a task. If there is one, no widget shows what it showed before. -/
def flipTask (b : Board K σ τ) (path : String) (line : Nat) : Bool × Board K σ τ :=
  match Provider.toggle b.source path line with
  | (true, source) => (true, { b with source := source, data := [] })
  | (false, source) => (false, { b with source := source })

variable [TimeZone] [Numeral K]

/-- Evaluates a widget. -/
def evaluate (b : Board K σ τ) (id : String) (now : Instant) : Outcome K σ τ (WidgetView K) :=
  match b.widget id with
  | .ok w =>
    let data := w.evaluate b.source b.settings.presets now
    (.ok data, { b with data := b.data.set id data })
  | .error e => (.error e, b)

/-- Evaluates all widgets, in the order of the layout. -/
def evaluateEach (b : Board K σ τ) (now : Instant) :
    List (String × WidgetView K) × Board K σ τ :=
  let results := b.layout.widgets.map fun w =>
    (w.id, w.evaluate b.source b.settings.presets now)
  (results, { b with data := results.foldl (fun data entry => data.set entry.1 entry.2) b.data })

end Board
end NoteBoard
