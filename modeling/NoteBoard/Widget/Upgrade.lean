import NoteBoard.Filter.FreeText
import NoteBoard.Widget.Basic

/-!
Filters out of the fields of older documents. Widgets are evaluated as if those fields had been
turned into filters already; they really are only when a widget is edited.
-/

namespace NoteBoard

namespace FreeTextFilter

/-- The filter of the query with the tags of the list added, if it asks for anything. -/
def toFilter? (l : FreeTextFilter) : Option Filter :=
  let ofQuery := (l.query.map Filter.ofFreeText).getD .everything
  let merged := match l.tagFilter with
    | some text =>
      let tags := ofQuery.tagNames ++ Text.entries (Filter.ofTagShorthand text).tags
      { ofQuery with tags := Text.join ", " tags.eraseDups }
    | .none => ofQuery
  if merged.takesAll then .none else some merged

/-- The filters of a widget: its own, else that of the older fields, else one that takes
everything. -/
def filtersOr (l : FreeTextFilter) (filters : List Filter) : List Filter :=
  if filters.isEmpty then [l.toFilter?.getD .everything] else filters

end FreeTextFilter

namespace ChartSettings

/-- The filter of groups: the chart's own if it asks for anything, else that of the older
fields. -/
def effectiveFilter (c : ChartSettings) : Filter :=
  if c.filter.takesAll then c.freeText.toFilter?.getD c.filter else c.filter

/-- The series of a chart, of which there is at least one. -/
def effectiveSeries (c : ChartSettings) : List Series :=
  if c.series.isEmpty then [.ofFilter "series-1" "" c.effectiveFilter] else c.series

/-- With the part for the mode filled in from the older fields, and those cleared. -/
def upgrade (c : ChartSettings) : ChartSettings :=
  if c.freeText.isBlank then c
  else match c.mode with
    | .group => { c with filter := c.effectiveFilter, freeText := .none }
    | .series => { c with series := c.effectiveSeries, freeText := .none }

end ChartSettings

namespace WidgetSettings

variable {K : Type}

def freeText : WidgetSettings K → FreeTextFilter
  | .taskList c => c.freeText
  | .stats c => c.freeText
  | .statusBar c => c.freeText
  | .pieChart c => c.freeText
  | .lineChart c => c.freeText

/-- With filters in place of the older fields. -/
def upgrade (settings : WidgetSettings K) : WidgetSettings K :=
  if settings.freeText.isBlank then settings
  else match settings with
    | .taskList c =>
      .taskList { c with filters := c.freeText.filtersOr c.filters, freeText := .none }
    | .stats c => .stats { c with filters := c.freeText.filtersOr c.filters, freeText := .none }
    | .statusBar c =>
      .statusBar { c with filters := c.freeText.filtersOr c.filters, freeText := .none }
    | .pieChart c => .pieChart c.upgrade
    | .lineChart c => .lineChart c.upgrade

end WidgetSettings

namespace Widget

variable {K : Type}

/-- Whether the widget still has fields of older documents. -/
def needsUpgrade (w : Widget K) : Bool :=
  !w.settings.freeText.isBlank

/-- With filters in place of the fields of older documents. -/
def upgrade (w : Widget K) : Widget K :=
  { w with settings := w.settings.upgrade }

end Widget
end NoteBoard
