import NoteBoard.Widget.Codec
import NoteBoard.Widget.Upgrade

/-!
What widgets show: the result of evaluating their settings against a provider.
-/

namespace NoteBoard

/-- The comparison of a count. -/
inductive ComparisonView (K : Type) where
  | disabled
  | available (comparison : Comparison K)
  | unavailable (reason : String)
deriving DecidableEq

/-- What a widget shows. -/
inductive WidgetView (K : Type) where
  /-- Tasks up to a limit, and the count of all. -/
  | taskList (tasks : List Task) (total : Nat)
  | stat (value : Nat) (days : Option Int) (comparison : ComparisonView K)
  /-- A count, its target, and the part of the target that is reached. -/
  | progress (value : Nat) (target ratio : K)
  | chart (mode : ChartContent) (values : List (Amount K))
deriving DecidableEq

variable {K : Type}

namespace ComparisonView

def toJson [Numeral K] : ComparisonView K → Json K
  | .disabled => .object [("status", .text "disabled")]
  | .available c => .object (("status", .text "available") :: c.members)
  | .unavailable reason => .object [("status", .text "unavailable"), ("reason", .text reason)]

/-- The states of a comparison as they are tagged. -/
inductive Tag where
  | disabled
  | available
  | unavailable

def Tag.names : List (String × Tag) :=
  [("disabled", .disabled), ("available", .available), ("unavailable", .unavailable)]

def ofContent? [Numeral K] (tag : Tag) (content : Json K) : Option (ComparisonView K) :=
  match tag with
  | .disabled => some .disabled
  | .available => (Comparison.ofJson? content).map .available
  | .unavailable => do
    let r ← content.record? ["reason"]
    return .unavailable (← r.required "reason" Json.text?)

def ofJson? [Numeral K] : Json K → Option (ComparisonView K)
  | .object members => do
    let (tag, rest) ← Json.tagged? "status" (Json.tag? Tag.names) members
    ofContent? tag (.object rest)
  | .array (tag :: rest) => do ofContent? (← Json.tag? Tag.names tag) (.array rest)
  | _ => none

end ComparisonView

namespace WidgetView

def toJson [Numeral K] : WidgetView K → Json K
  | .taskList tasks total => .object [("type", .text "task-list"),
      ("tasks", .array (tasks.map Task.toJson)), ("total", .integer total)]
  | .stat value days comparison => .object [("type", .text "stat"), ("value", .integer value),
      ("days", match days with
        | some days => .integer days
        | none => .null),
      ("comparison", comparison.toJson)]
  | .progress value target ratio => .object [("type", .text "progress"),
      ("value", .integer value), ("target", .real target), ("ratio", .real ratio)]
  | .chart mode values => .object [("type", .text "chart"), ("mode", .text mode.name),
      ("values", .array (values.map Amount.toJson))]

/-- The kinds of data as they are tagged. -/
inductive Tag where
  | taskList
  | stat
  | progress
  | chart

def tag? (value : Json K) : Option Tag := do
  [("task-list", Tag.taskList), ("stat", .stat), ("progress", .progress),
    ("chart", .chart)].lookup (← value.text?)

def ofContent? [Numeral K] (tag : Tag) (content : Json K) : Option (WidgetView K) := do
  match tag with
  | .taskList =>
    let r ← content.record? ["tasks", "total"]
    return .taskList (← r.required "tasks" (Json.list? Task.ofJson?))
      (← r.required "total" Json.nat64?)
  | .stat =>
    let r ← content.record? ["value", "days", "comparison"]
    return .stat (← r.required "value" Json.nat64?) (← r.nullable "days" Json.int64?)
      (← r.required "comparison" ComparisonView.ofJson?)
  | .progress =>
    let r ← content.record? ["value", "target", "ratio"]
    return .progress (← r.required "value" Json.nat64?) (← r.required "target" Json.number?)
      (← r.required "ratio" Json.number?)
  | .chart =>
    let r ← content.record? ["mode", "values"]
    return .chart (← r.required "mode" (Json.choice? Json.isNothing ChartContent.names))
      (← r.required "values" (Json.list? Amount.ofJson?))

def ofJson? [Numeral K] : Json K → Option (WidgetView K)
  | .object members => do
    let (tag, rest) ← Json.tagged? "type" tag? members
    ofContent? tag (.object rest)
  | .array (tag :: rest) => do
    if Json.itemsUsable rest then ofContent? (← tag? tag) (.array rest) else none
  | _ => none

end WidgetView
end NoteBoard
