/-!
Numbers as the board measures with them: coordinates, sizes, counts and quotients. A number may
leave the finite range, so every rule about boards is written over a `Number`, once, and holds of
machine numbers and of exact ones alike.
-/

namespace NoteBoard

/-- Arithmetic with values outside the finite range. Comparisons with "not a number" are false,
and so is its comparison with itself. -/
class Number (K : Type) extends Add K, Sub K, Mul K, Div K, Neg K, BEq K, LT K, LE K where
  ofNat : Nat → K
  ofInt : Int → K
  isNaN : K → Bool
  isFinite : K → Bool
  floor : K → K
  /-- The nearest whole number; a half goes away from zero. -/
  round : K → K
  /-- A total order that agrees with `<` where numbers are comparable. -/
  totalOrder : K → K → Ordering
  decidableLT : (a b : K) → Decidable (a < b)
  decidableLE : (a b : K) → Decidable (a ≤ b)

namespace Number

variable {K : Type} [Number K]

instance (priority := low) : DecidableLT K := Number.decidableLT

instance (priority := low) : DecidableLE K := Number.decidableLE

instance (priority := low) {n : Nat} : OfNat K n := ⟨Number.ofNat n⟩

/-- The larger of two numbers; "not a number" loses to any number. -/
def max (a b : K) : K :=
  if isNaN a then b else if a < b then b else a

/-- `x`, but no less than `low`; what is not a number becomes `low`, and so does a zero of either
sign where `low` is zero. -/
def atLeast (low x : K) : K :=
  if low < x then x else low

/-- The nearest point of the interval from `low` to `high`; "not a number" stays as it is. -/
def clamp (low high x : K) : K :=
  if x < low then low else if high < x then high else x

/-- Clamping into an interval, which must not be empty: `none` when `low ≤ high` fails, as it
does when a bound is not a number. -/
def clamp? (low high x : K) : Option K :=
  if low ≤ high then some (clamp low high x) else none

/-- `x` where it is finite, else `fallback`. -/
def finiteElse (fallback x : K) : K :=
  if isFinite x then x else fallback

theorem clamp?_eq_some_iff {low high x y : K} :
    clamp? low high x = some y ↔ low ≤ high ∧ clamp low high x = y := by
  unfold clamp?; split <;> simp_all

theorem finiteElse_of_isFinite {fallback x : K} (h : isFinite x = true) :
    finiteElse fallback x = x := by
  simp [finiteElse, h]

end Number
end NoteBoard
