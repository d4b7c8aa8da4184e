import NoteBoard.Widget.View

/-!
Evaluation of widgets. It never fails: a provider that does not answer leaves widgets empty, and a
comparison that cannot be made says why.
-/

namespace NoteBoard

/-- The first items up to a limit; a limit of zero is none. -/
def takeLimit {α : Type} (limit : Option Nat) (items : List α) : List α :=
  match limit with
  | some (n + 1) => items.take (n + 1)
  | _ => items

/-- Why there is no comparison with the period before a window that may be endless. -/
def noPreviousReason : String := "previous period is undefined on an unbounded time range"

/-- Why there is no comparison per day over a window that may be endless. -/
def noDaysReason : String := "per-day basis is undefined on an unbounded time range"

variable {σ K : Type} [TimeZone] [Provider σ K] [Numeral K]

namespace TaskListSettings

def evaluate (c : TaskListSettings) (source : σ) : WidgetView K :=
  let tasks := Retrieval.tasks source (c.freeText.filtersOr c.filters)
  let shown := if c.showCompleted then tasks else tasks.filter fun t => !t.completed
  .taskList (takeLimit c.limit shown) shown.length

end TaskListSettings

namespace CountSettings

/-- The count that a comparison is made with and its label; or why there is none. -/
def baseline (c : CountSettings) (source : σ) (presets : List Preset) (now : Instant)
    (w : Window) : Except String (Count × String) :=
  let filters := c.freeText.filtersOr c.filters
  let count (filters : List Filter) (w : Window) := Count.take source c.counted filters c.stamp w
  match c.compare.mode with
  | .none => .error ""
  | .previousPeriod => match w.previous? with
    | some previous => .ok (count filters previous, "vs previous period")
    | none => .error noPreviousReason
  | .fixedPeriod =>
    .ok (count filters (c.compare.timeframe.resolve presets now),
      "vs " ++ Preset.labelOf presets c.compare.timeframe.preset)
  | .filter => .ok (count (FreeTextFilter.none.filtersOr c.compare.filters) w, "vs filter")

/-- Whether a comparison is ruled out by the window alone, and why. -/
def obstacle? (c : CompareSettings) (w : Window) : Option String :=
  if w.isBounded then none
  else if c.mode = .previousPeriod then some noPreviousReason
  else if c.basis = .perDay then some noDaysReason
  else none

/-- The label of a comparison: one's own, if it is not blank. -/
def labelOr (c : CompareSettings) (default : String) : String :=
  match c.label.map Text.trim with
  | some label => if label.isEmpty then default else label
  | none => default

/-- The comparison of a count. -/
def comparison (c : CountSettings) (source : σ) (presets : List Preset) (now : Instant)
    (w : Window) (primary : Count) : ComparisonView K :=
  if c.compare.mode = .none then .disabled
  else match obstacle? c.compare w with
    | some reason => .unavailable reason
    | none => match c.baseline source presets now w with
      | .error reason => .unavailable reason
      | .ok (other, label) =>
        let values : Except (Error K) (K × K) := do
          return (← c.compare.basis.apply primary, ← c.compare.basis.apply other)
        match values with
        | .ok (value, baseline) =>
          .available (.of (labelOr c.compare label) value baseline c.compare.display)
        | .error e => .unavailable e.message

def evaluate (c : CountSettings) (source : σ) (presets : List Preset) (now : Instant) :
    WidgetView K :=
  let w := c.timeframe.resolve presets now
  let primary := Count.take source c.counted (c.freeText.filtersOr c.filters) c.stamp w
  .stat primary.count primary.days (c.comparison source presets now w primary)

end CountSettings

namespace ProgressSettings

/-- The part of a target that a count reaches, at most one; zero where there is no target. -/
def ratio (target : K) (count : Nat) : K :=
  if Number.isFinite target && decide (0 < target) then
    Number.clamp 0 1 (Number.ofNat count / target)
  else 0

def evaluate (c : ProgressSettings K) (source : σ) (presets : List Preset) (now : Instant) :
    WidgetView K :=
  let w := c.timeframe.resolve presets now
  let count := Count.take source c.counted (c.freeText.filtersOr c.filters) c.stamp w
  .progress count.count c.target (ratio c.target count.count)

end ProgressSettings

namespace ChartSettings

def evaluate (c : ChartSettings) (source : σ) (presets : List Preset) (now : Instant) :
    WidgetView K :=
  .chart c.mode <| match c.mode with
    | .group => c.grouping.ranked (Retrieval.pages source [c.effectiveFilter]) c.limit
    | .series => Series.counts source presets now c.effectiveSeries

end ChartSettings

/-- What a widget shows. -/
def Widget.evaluate (w : Widget K) (source : σ) (presets : List Preset) (now : Instant) :
    WidgetView K :=
  match w.settings with
  | .taskList c => c.evaluate source
  | .stats c => c.evaluate source presets now
  | .statusBar c => c.evaluate source presets now
  | .pieChart c => c.evaluate source presets now
  | .lineChart c => c.evaluate source presets now

end NoteBoard
