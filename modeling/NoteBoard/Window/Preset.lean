import NoteBoard.Json.Decode

/-!
Named time windows: none at all, days counted from today, or a period of the calendar.
-/

namespace NoteBoard

/-- A week, which starts on Monday, a month or a year. -/
inductive Period where
  | week
  | month
  | year
deriving DecidableEq

/-- What a preset stands for. -/
inductive PresetKind where
  /-- No bounds. -/
  | all
  /-- From one day to another, as offsets from today. -/
  | relative (start finish : Int)
  /-- The current period up to now, or the whole one before it. -/
  | calendar (current : Bool) (period : Period)
deriving DecidableEq

/-- A named time window. -/
structure Preset where
  id : String
  label : String
  kind : PresetKind
deriving DecidableEq

namespace Preset

/-- The id of the preset without bounds. -/
def allId : String := "all"

/-- The id that stands for bounds of one's own. -/
def customId : String := "custom"

/-- The presets of a board without settings. -/
def defaults : List Preset := [
  ⟨allId, "All time", .all⟩,
  ⟨"today", "Today", .relative 0 0⟩,
  ⟨"yesterday", "Yesterday", .relative (-1) (-1)⟩,
  ⟨"last-7-days", "Last 7 days", .relative (-6) 0⟩,
  ⟨"last-30-days", "Last 30 days", .relative (-29) 0⟩,
  ⟨"last-90-days", "Last 90 days", .relative (-89) 0⟩,
  ⟨"this-week", "This week", .calendar true .week⟩,
  ⟨"last-week", "Last week", .calendar false .week⟩,
  ⟨"this-month", "This month", .calendar true .month⟩,
  ⟨"last-month", "Last month", .calendar false .month⟩,
  ⟨"this-year", "This year", .calendar true .year⟩,
  ⟨"last-year", "Last year", .calendar false .year⟩]

/-- The label to show for an id; one that is not known has a placeholder. -/
def labelOf (presets : List Preset) (id : String) : String :=
  if id = customId then "Custom range"
  else match presets.find? (·.id == id) with
    | some preset => preset.label
    | none => "Unknown preset (" ++ id ++ ")"

/-- Whether an id is that of a preset, or stands for bounds of one's own. -/
def isKnown (presets : List Preset) (id : String) : Bool :=
  id == customId || presets.any (·.id == id)

/-- The written names of the calendar periods. -/
def periodNames : List (String × Bool × Period) := [
  ("this-week", true, .week), ("last-week", false, .week), ("this-month", true, .month),
  ("last-month", false, .month), ("this-year", true, .year), ("last-year", false, .year)]

def periodName : Bool → Period → String
  | true, .week => "this-week"
  | false, .week => "last-week"
  | true, .month => "this-month"
  | false, .month => "last-month"
  | true, .year => "this-year"
  | false, .year => "last-year"

variable {K : Type}

def kindMembers : PresetKind → List (String × Json K)
  | .all => [("type", .text "all")]
  | .relative start finish =>
    [("type", .text "relative"), ("startOffsetDays", .integer start),
      ("endOffsetDays", .integer finish)]
  | .calendar current period =>
    [("type", .text "calendar"), ("period", .text (periodName current period))]

def toJson (p : Preset) : Json K :=
  .object (("id", .text p.id) :: ("label", .text p.label) :: kindMembers p.kind)

/-- The kinds of presets as they are tagged. -/
inductive Tag where
  | all
  | relative
  | calendar

def kind? (members : List (String × Json K)) : Option PresetKind := do
  let names := [("all", Tag.all), ("relative", Tag.relative), ("calendar", Tag.calendar)]
  let (tag, rest) ← Json.tagged? "type" (Json.tag? names) members
  match tag with
  | .all => return .all
  | .relative =>
    let r ← (Json.object rest).record? ["startOffsetDays", "endOffsetDays"]
    return .relative (← r.required "startOffsetDays" Json.int64?)
      (← r.required "endOffsetDays" Json.int64?)
  | .calendar =>
    let r ← (Json.object rest).record? ["period"]
    let (current, period) ← r.required "period" (Json.choice? Json.isNothing periodNames)
    return .calendar current period

def ofJson? : Json K → Option Preset
  | .object members => do
    let (own, rest) ← Json.recordAndRest? ["id", "label"] members
    return ⟨← own.required "id" Json.text?, ← own.required "label" Json.text?, ← kind? rest⟩
  | _ => none

end Preset
end NoteBoard
