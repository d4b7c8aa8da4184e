import NoteBoard.Number.Power

/-!
Decimal numerals `digits · 10 ^ exponent`, the rounding of a quotient to a decimal place, and the
shortest decimal inside an interval of quotients.
-/

namespace NoteBoard

/-- The number `digits · 10 ^ exponent`. -/
structure Decimal where
  digits : Nat
  exponent : Int
deriving Repr, DecidableEq

/-- Where a number goes that lies exactly between two neighbours. -/
inductive Tie where
  | toEven
  | up
deriving Repr, DecidableEq

namespace Decimal

/-- The count of decimal digits; zero has none. -/
def width (n : Nat) : Nat :=
  if n = 0 then 0 else width (n / 10) + 1
termination_by n
decreasing_by omega

/-- `num / den` to the nearest whole number. -/
def roundDiv (tie : Tie) (num den : Nat) : Nat :=
  let down := num / den
  match compare (2 * (num % den)) den, tie with
  | .lt, _ => down
  | .gt, _ => down + 1
  | .eq, .up => down + 1
  | .eq, .toEven => if down % 2 = 0 then down else down + 1

/-- The place of the leading digit of `num / den`: the largest `e` with `10 ^ e ≤ num / den`. -/
def leadingPlace (num den : Nat) : Int :=
  if den ≤ num then (width (num / den) : Int) - 1
  else -(width ((den + num - 1) / num - 1) : Int)

/-- The decimal at place `exponent` nearest to `num / den`. -/
def nearest (tie : Tie) (num den : Nat) (exponent : Int) : Decimal :=
  ⟨roundDiv tie (num * tenTo (-exponent).toNat) (den * tenTo exponent.toNat), exponent⟩

/-- How the decimal compares with `num / den`. -/
def compareDiv (d : Decimal) (num den : Nat) : Ordering :=
  compare (d.digits * tenTo d.exponent.toNat * den) (num * tenTo (-d.exponent).toNat)

/-- The same number without trailing zeros. -/
def strip (d : Decimal) : Decimal :=
  if d.digits ≠ 0 ∧ d.digits % 10 = 0 then strip ⟨d.digits / 10, d.exponent + 1⟩ else d
termination_by d.digits
decreasing_by omega

/-- The quotients from `low / den` to `high / den`, with or without the two ends. -/
structure Interval where
  low : Nat
  high : Nat
  den : Nat
  closed : Bool

/-- Whether a decimal lies in the interval. -/
def Interval.contains (i : Interval) (d : Decimal) : Bool :=
  let below := d.compareDiv i.low i.den
  let above := d.compareDiv i.high i.den
  (below == .gt || i.closed && below == .eq) && (above == .lt || i.closed && above == .eq)

/-- A decimal of the interval next to `num / den` at the given place: the nearer neighbour if it
lies inside, else the other one. -/
def Interval.neighbour? (i : Interval) (tie : Tie) (num den : Nat) (exponent : Int) :
    Option Decimal :=
  let near := nearest tie num den exponent
  let far := if near.compareDiv num den == .gt then ⟨near.digits - 1, exponent⟩
    else ⟨near.digits + 1, exponent⟩
  [near, far].find? i.contains

/-- The decimal of the interval with the fewest digits, and of those the nearest to `num / den`.
Seventeen digits reach every interval around a binary number. -/
def Interval.shortest (i : Interval) (tie : Tie) (num den : Nat) : Decimal :=
  let lead := leadingPlace num den
  let found := (List.range 17).findSome? fun (n : Nat) => i.neighbour? tie num den (lead - n)
  (found.getD (nearest tie num den (lead - 16))).strip

end Decimal
end NoteBoard
