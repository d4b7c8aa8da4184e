import NoteBoard.Json.Forgiving
import NoteBoard.Widget.Basic

/-!
The written form of widgets. The settings stand beside the other members, with the type of the
widget as a tag, and so do the filter fields of older documents.
-/

namespace NoteBoard

variable {K : Type}

namespace FreeTextFilter

def members (l : FreeTextFilter) : List (String × Json K) :=
  Json.optional "query" (l.query.map .text) ++ Json.optional "tagFilter" (l.tagFilter.map .text)

def ofMembers? (members : List (String × Json K)) : Option FreeTextFilter := do
  let r ← (Json.object members).record? ["query", "tagFilter"]
  return ⟨← r.optional "query" Json.text?, ← r.optional "tagFilter" Json.text?⟩

end FreeTextFilter

def filtersJson (filters : List Filter) : Json K :=
  .array (filters.map Filter.toJson)

def limitJson (limit : Option Nat) : List (String × Json K) :=
  Json.optional "limit" (limit.map fun (n : Nat) => .integer n)

namespace TaskListSettings

def members (c : TaskListSettings) : List (String × Json K) :=
  [("filters", filtersJson c.filters), ("showCompleted", .bool c.showCompleted)] ++
    limitJson c.limit ++ c.freeText.members

def ofMembers? (members : List (String × Json K)) : Option TaskListSettings := do
  let (r, rest) ← Json.recordAndRest? ["filters", "showCompleted", "limit"] members
  return ⟨← r.withDefault "filters" [] (Json.list? Filter.ofJson?),
    ← r.withDefault "showCompleted" false Json.bool?, ← r.optional "limit" Json.nat64?,
    ← FreeTextFilter.ofMembers? rest⟩

end TaskListSettings

namespace CompareSettings

def toJson (c : CompareSettings) : Json K :=
  .object ([("mode", .text c.mode.name), ("range", c.timeframe.toJson),
    ("filters", filtersJson c.filters)] ++ Json.optional "label" (c.label.map .text) ++
    [("display", .text c.display.name), ("basis", .text c.basis.name)])

def ofJson? (value : Json K) : Option CompareSettings := do
  let r ← value.record? ["mode", "range", "filters", "label", "display", "basis"]
  return ⟨← r.withDefault "mode" .none (Json.choice? Json.isNothing Baseline.names),
    ← r.withDefault "range" .always Timeframe.ofJson?,
    ← r.withDefault "filters" [] (Json.list? Filter.ofJson?),
    ← r.optional "label" Json.text?,
    ← r.withDefault "display" .number (Json.choice? Json.isNothing DeltaForm.names),
    ← r.withDefault "basis" .total (Json.choice? Json.isNothing Rate.names)⟩

end CompareSettings

namespace CountSettings

def members (c : CountSettings) : List (String × Json K) :=
  [("filters", filtersJson c.filters), ("countTarget", .text c.counted.targetName),
    ("timeField", .text c.stamp.name), ("timeRange", c.timeframe.toJson),
    ("compare", c.compare.toJson)] ++ c.freeText.members

def ofMembers? (members : List (String × Json K)) : Option CountSettings := do
  let (r, rest) ← Json.recordAndRest?
    ["filters", "countTarget", "timeField", "timeRange", "compare"] members
  return ⟨← r.withDefault "filters" [] (Json.list? Filter.ofJson?),
    ← r.withDefault "countTarget" .notes Counted.ofJson?,
    ← r.withDefault "timeField" .created StampKind.ofJson?,
    ← r.withDefault "timeRange" .always Timeframe.ofJson?,
    ← r.withDefault "compare" .new CompareSettings.ofJson?, ← FreeTextFilter.ofMembers? rest⟩

end CountSettings

namespace ProgressSettings

def members (c : ProgressSettings K) : List (String × Json K) :=
  [("filters", filtersJson c.filters), ("countTarget", .text c.counted.targetName),
    ("timeField", .text c.stamp.name), ("timeRange", c.timeframe.toJson),
    ("target", .real c.target)] ++ c.freeText.members

def ofMembers? [Number K] (members : List (String × Json K)) : Option (ProgressSettings K) := do
  let (r, rest) ← Json.recordAndRest?
    ["filters", "countTarget", "timeField", "timeRange", "target"] members
  return ⟨← r.withDefault "filters" [] (Json.list? Filter.ofJson?),
    ← r.withDefault "countTarget" .notes Counted.ofJson?,
    ← r.withDefault "timeField" .created StampKind.ofJson?,
    ← r.withDefault "timeRange" .always Timeframe.ofJson?,
    ← r.withDefault "target" 100 Json.number?, ← FreeTextFilter.ofMembers? rest⟩

end ProgressSettings

namespace ChartSettings

def members (c : ChartSettings) : List (String × Json K) :=
  [("mode", .text c.mode.name), ("filter", c.filter.toJson), ("groupBy", .text c.grouping.text)] ++
    limitJson c.limit ++ [("series", .array (c.series.map Series.toJson))] ++ c.freeText.members

def ofMembers? (members : List (String × Json K)) : Option ChartSettings := do
  let (r, rest) ← Json.recordAndRest? ["mode", "filter", "groupBy", "limit", "series"] members
  return ⟨← r.withDefault "mode" .group (Json.choice? Json.isNothing ChartContent.names),
    ← r.withDefault "filter" .everything Filter.ofJson?,
    ← r.withDefault "groupBy" .tag fun value => value.text?.map Grouping.ofText,
    ← r.optional "limit" Json.nat64?, ← r.withDefault "series" [] (Json.list? Series.ofJson?),
    ← FreeTextFilter.ofMembers? rest⟩

end ChartSettings

namespace WidgetSettings

/-- The settings as members, after the tag. -/
def members (c : WidgetSettings K) : List (String × Json K) :=
  ("type", .text c.type.name) :: match c with
    | .taskList c => c.members
    | .stats c => c.members
    | .statusBar c => c.members
    | .pieChart c => c.members
    | .lineChart c => c.members

def ofMembers? [Number K] (members : List (String × Json K)) : Option (WidgetSettings K) := do
  let (type, rest) ← Json.tagged? "type" (Json.tag? WidgetType.names) members
  match type with
  | .taskList => (TaskListSettings.ofMembers? rest).map .taskList
  | .stats => (CountSettings.ofMembers? rest).map .stats
  | .statusBar => (ProgressSettings.ofMembers? rest).map .statusBar
  | .pieChart => (ChartSettings.ofMembers? rest).map .pieChart
  | .lineChart => (ChartSettings.ofMembers? rest).map .lineChart

end WidgetSettings

namespace TitleSize

def names : List (String × TitleSize) :=
  [("small", .small), ("medium", .medium), ("large", .large)]

def name : TitleSize → String
  | .small => "small"
  | .medium => "medium"
  | .large => "large"

end TitleSize

namespace TitleSide

def names : List (String × TitleSide) :=
  [("left", .left), ("center", .center), ("right", .right)]

def name : TitleSide → String
  | .left => "left"
  | .center => "center"
  | .right => "right"

end TitleSide

namespace Widget

def toJson (w : Widget K) : Json K :=
  .object ([("id", .text w.id), ("x", .real w.x), ("y", .real w.y), ("w", .real w.w),
    ("h", .real w.h)] ++ Json.optional "title" (w.title.map .text) ++
    [("titleSize", .text w.titleSize.name), ("titleSide", .text w.titleSide.name)] ++
    Json.optional "headerIcon" (w.headerIcon.map .text) ++ w.settings.members)

/-- The names of the members besides the settings. -/
def ownNames : List String :=
  ["id", "x", "y", "w", "h", "title", "titleSize", "titleSide", "headerIcon"]

def ofJson? [Numeral K] : Json K → Option (Widget K)
  | .object members => do
    let (r, rest) ← Json.recordAndRest? ownNames members
    let coordinate (name : String) := r.withDefault name (0 / 0) Json.lenientNumber?
    return ⟨← r.withDefault "id" "" Json.text?, ← coordinate "x", ← coordinate "y",
      ← coordinate "w", ← coordinate "h", ← r.optional "title" Json.text?,
      ← r.withDefault "titleSize" .medium (Json.choice? Json.isNull TitleSize.names),
      ← r.withDefault "titleSide" .left (Json.choice? Json.isNull TitleSide.names),
      ← r.optional "headerIcon" Json.text?, ← WidgetSettings.ofMembers? rest⟩
  | _ => none

end Widget
end NoteBoard
