import NoteBoard.Error
import NoteBoard.Tally.Count

/-!
A count beside another one: in total or per day, with the difference as a number or in percent.
-/

namespace NoteBoard

/-- What a count is compared with. -/
inductive Baseline where
  | none
  | previousPeriod
  | fixedPeriod
  | filter
deriving DecidableEq

/-- Whether counts are compared as they are or divided by their days. -/
inductive Rate where
  | total
  | perDay
deriving DecidableEq

/-- How the difference is shown. -/
inductive DeltaForm where
  | number
  | percent
deriving DecidableEq

namespace Baseline

def names : List (String × Baseline) := [("none", .none), ("previous-period", .previousPeriod),
  ("fixed-period", .fixedPeriod), ("filter", .filter)]

def name : Baseline → String
  | .none => "none"
  | .previousPeriod => "previous-period"
  | .fixedPeriod => "fixed-period"
  | .filter => "filter"

end Baseline

namespace Rate

def names : List (String × Rate) := [("total", .total), ("per-day", .perDay)]

def name : Rate → String
  | .total => "total"
  | .perDay => "per-day"

variable {K : Type} [Number K]

/-- A count on a basis. Per day needs a positive count of days. -/
def apply (basis : Rate) (c : Count) : Except (Error K) K :=
  let count : K := Number.ofNat c.count
  match basis, c.days with
  | .total, _ => .ok count
  | .perDay, some days =>
    if 0 < days then .ok (count / Number.ofInt days) else .error .unboundedWindow
  | .perDay, none => .error .unboundedWindow

end Rate

namespace DeltaForm

def names : List (String × DeltaForm) := [("number", .number), ("percent", .percent)]

def name : DeltaForm → String
  | .number => "number"
  | .percent => "percent"

end DeltaForm

/-- A value beside the one it is compared with. -/
structure Comparison (K : Type) where
  label : String
  primary : K
  baseline : K
  delta : K
  percent : Option K
  display : DeltaForm
deriving DecidableEq

namespace Comparison

variable {K : Type} [Numeral K]

/-- The difference in percent of the baseline; there is none for a baseline of zero. -/
def percentOf? (primary baseline : K) : Option K :=
  if baseline == 0 || !Number.isFinite baseline || !Number.isFinite primary then none
  else some ((primary - baseline) / baseline * 100)

def of (label : String) (primary baseline : K) (display : DeltaForm) : Comparison K :=
  ⟨label, primary, baseline, primary - baseline, percentOf? primary baseline, display⟩

/-- The difference as it is shown. -/
def text (c : Comparison K) : String :=
  match c.display, c.percent with
  | .number, _ => Numeral.signed c.delta
  | .percent, some percent => Numeral.signedFixed 1 percent ++ "%"
  | .percent, none => "n/a"

def members (c : Comparison K) : List (String × Json K) :=
  [("label", .text c.label), ("primary", .real c.primary), ("compare", .real c.baseline),
    ("delta", .real c.delta),
    ("percent", match c.percent with
      | some percent => .real percent
      | none => .null),
    ("display", .text c.display.name)]

def ofJson? (value : Json K) : Option (Comparison K) := do
  let r ← value.record? ["label", "primary", "compare", "delta", "percent", "display"]
  return ⟨← r.required "label" Json.text?, ← r.required "primary" Json.number?,
    ← r.required "compare" Json.number?, ← r.required "delta" Json.number?,
    ← r.nullable "percent" Json.number?,
    ← r.required "display" (Json.choice? Json.isNothing DeltaForm.names)⟩

end Comparison
end NoteBoard
