import NoteBoard.Tally.Comparison
import NoteBoard.Tally.Series

/-!
The settings of each type of widget.
-/

namespace NoteBoard

/-- The types of widgets. -/
inductive WidgetType where
  | taskList
  | stats
  | statusBar
  | pieChart
  | lineChart
deriving DecidableEq

/-- A query in free text and a list of tags, as older documents have them in place of filters. -/
structure FreeTextFilter where
  query : Option String
  tagFilter : Option String
deriving DecidableEq

/-- A list of tasks. -/
structure TaskListSettings where
  filters : List Filter
  showCompleted : Bool
  limit : Option Nat
  freeText : FreeTextFilter
deriving DecidableEq

/-- What a count is compared with, and how. -/
structure CompareSettings where
  mode : Baseline
  timeframe : Timeframe
  filters : List Filter
  label : Option String
  display : DeltaForm
  basis : Rate
deriving DecidableEq

/-- A count, with a comparison if wanted. -/
structure CountSettings where
  filters : List Filter
  counted : Counted
  stamp : StampKind
  timeframe : Timeframe
  compare : CompareSettings
  freeText : FreeTextFilter
deriving DecidableEq

/-- A count on the way to a target. -/
structure ProgressSettings (K : Type) where
  filters : List Filter
  counted : Counted
  stamp : StampKind
  timeframe : Timeframe
  target : K
  freeText : FreeTextFilter
deriving DecidableEq, BEq

/-- Whether a chart shows groups of notes or series of counts. -/
inductive ChartContent where
  | group
  | series
deriving DecidableEq

/-- A chart. Both parts are kept, whichever the mode. -/
structure ChartSettings where
  mode : ChartContent
  filter : Filter
  grouping : Grouping
  limit : Option Nat
  series : List Series
  freeText : FreeTextFilter
deriving DecidableEq

/-- The settings of a widget, which decide its type. -/
inductive WidgetSettings (K : Type) where
  | taskList (settings : TaskListSettings)
  | stats (settings : CountSettings)
  | statusBar (settings : ProgressSettings K)
  | pieChart (settings : ChartSettings)
  | lineChart (settings : ChartSettings)
deriving DecidableEq, BEq

def ChartContent.names : List (String × ChartContent) := [("group", .group), ("series", .series)]

def ChartContent.name : ChartContent → String
  | .group => "group"
  | .series => "series"

namespace WidgetType

/-- The written names, in order. -/
def names : List (String × WidgetType) := [("task-list", .taskList), ("stats", .stats),
  ("status-bar", .statusBar), ("pie-chart", .pieChart), ("line-chart", .lineChart)]

def name : WidgetType → String
  | .taskList => "task-list"
  | .stats => "stats"
  | .statusBar => "status-bar"
  | .pieChart => "pie-chart"
  | .lineChart => "line-chart"

/-- The width and height of a new widget, in cells. -/
def newSize : WidgetType → Nat × Nat
  | .taskList => (4, 4)
  | .stats => (3, 2)
  | .statusBar => (4, 1)
  | .pieChart => (4, 4)
  | .lineChart => (6, 4)

/-- The title of a new widget. -/
def newTitle : WidgetType → String
  | .taskList => "Tasks"
  | .stats => "Stats"
  | .statusBar => "Progress"
  | .pieChart => "Breakdown"
  | .lineChart => "Trend"

end WidgetType

namespace FreeTextFilter

def none : FreeTextFilter := ⟨.none, .none⟩

/-- Whether neither part holds anything but white space. -/
def isBlank (l : FreeTextFilter) : Bool :=
  let blank (text : Option String) := text.all fun text => (Text.trim text).isEmpty
  blank l.query && blank l.tagFilter

end FreeTextFilter

def TaskListSettings.new : TaskListSettings := ⟨[], false, none, .none⟩

def CompareSettings.new : CompareSettings := ⟨.none, .always, [], none, .number, .total⟩

def CountSettings.new : CountSettings := ⟨[], .notes, .created, .always, .new, .none⟩

def ProgressSettings.new {K : Type} [Number K] : ProgressSettings K :=
  ⟨[], .notes, .created, .always, 100, .none⟩

def ChartSettings.new (mode : ChartContent) : ChartSettings :=
  ⟨mode, .everything, .tag, none, [], .none⟩

namespace WidgetSettings

variable {K : Type}

def type : WidgetSettings K → WidgetType
  | .taskList _ => .taskList
  | .stats _ => .stats
  | .statusBar _ => .statusBar
  | .pieChart _ => .pieChart
  | .lineChart _ => .lineChart

/-- The settings of a new widget. A line chart starts with series, a pie chart with groups. -/
def new [Number K] : WidgetType → WidgetSettings K
  | .taskList => .taskList .new
  | .stats => .stats .new
  | .statusBar => .statusBar .new
  | .pieChart => .pieChart (.new .group)
  | .lineChart => .lineChart (.new .series)

end WidgetSettings
end NoteBoard
