import NoteBoard.Window.Basic
import NoteBoard.Window.Preset

/-!
Time windows as widgets store them: the id of a preset, or bounds of one's own. They become
windows once the presets and the present instant are known.
-/

namespace NoteBoard

/-- A stored choice of a time window. The bounds count only with the id that stands for them. -/
structure Timeframe where
  preset : String
  start : Option String
  finish : Option String
deriving DecidableEq

namespace Timeframe

/-- All time. -/
def always : Timeframe := ⟨Preset.allId, none, none⟩

/-- The window from the first of two dates to the end of the second; a missing date leaves that
side open. -/
def between (first last : Option Date) : Window where
  start := first.map Instant.startOf
  finish := last.map Instant.endOf
  days := do return (← first).daysUntil (← last) + 1

/-- The window of one's own bounds, which may be given in either order. -/
def ofBounds (start finish : Option String) : Window :=
  match start.bind Calendar.typedDate?, finish.bind Calendar.typedDate? with
  | some first, some last =>
    if last.number < first.number then between (some last) (some first)
    else between (some first) (some last)
  | first, last => between first last

/-- The window between two offsets from today, in either order. Where the calendar ends before an
offset, that side is open. -/
def relative (start finish : Int) (today : Date) : Window :=
  between (today.shift? (min start finish)) (today.shift? (max start finish))

/-- The first date of the period that a date lies in. -/
def periodStart? (period : Period) (today : Date) : Option Date :=
  match period with
  | .week => today.startOfWeek?
  | .month => today.startOfMonth?
  | .year => Date.ofCivil? today.year 1 1

/-- The current period, from its first date up to now. -/
def current (period : Period) (now : Instant) : Window :=
  match periodStart? period now.date with
  | some first => ⟨some (Instant.startOf first), some now, some (first.daysUntil now.date + 1)⟩
  | none => Window.always

/-- The first and the last date of the period before the one that a date lies in. -/
def lastPeriod? (period : Period) (today : Date) : Option (Date × Date) :=
  match period with
  | .week => do
    let monday ← today.startOfWeek?
    return (← monday.shift? (-7), ← monday.shift? (-1))
  | .month => do
    let last ← (← today.startOfMonth?).shift? (-1)
    return (← last.startOfMonth?, last)
  | .year => do
    return (← Date.ofCivil? (today.year - 1) 1 1, ← Date.ofCivil? (today.year - 1) 12 31)

/-- The whole period before the current one. -/
def previous (period : Period) (today : Date) : Window :=
  match lastPeriod? period today with
  | some (first, last) => between (some first) (some last)
  | none => Window.always

/-- The window that a preset stands for at an instant. -/
def ofKind (now : Instant) : PresetKind → Window
  | .all => Window.always
  | .relative start finish => relative start finish now.date
  | .calendar true period => current period now
  | .calendar false period => previous period now.date

/-- The window of a stored choice at an instant. An id that is not known means all time. -/
def resolve (f : Timeframe) (presets : List Preset) (now : Instant) : Window :=
  let id := Text.trim f.preset
  if id = Preset.customId then ofBounds f.start f.finish
  else match presets.find? (·.id == id) with
    | some preset => ofKind now preset.kind
    | none => Window.always

variable {K : Type}

def toJson (f : Timeframe) : Json K :=
  .object (("preset", .text f.preset) :: Json.optional "start" (f.start.map .text) ++
    Json.optional "end" (f.finish.map .text))

def ofJson? (value : Json K) : Option Timeframe := do
  let r ← value.record? ["preset", "start", "end"]
  return ⟨← r.withDefault "preset" Preset.allId Json.text?,
    ← r.optional "start" Json.text?, ← r.optional "end" Json.text?⟩

end Timeframe
end NoteBoard
