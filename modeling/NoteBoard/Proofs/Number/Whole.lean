import Mathlib.Data.Rat.Floor
import Mathlib.Tactic.Linarith
import NoteBoard.Number.Exact

/-! Exact numbers that are finite, and of those the whole ones. The operations of boards on them
are the ones of rational numbers and of integers. What is not a number is in no order, so only
finite numbers are known to be comparable. -/
namespace NoteBoard
namespace Exact

@[simp] theorem isFinite_finite (a : Rat) : Number.isFinite (Exact.finite a) = true := rfl

@[simp] theorem isFinite_infinite (n : Bool) : Number.isFinite (Exact.infinite n) = false := rfl

@[simp] theorem isFinite_undefined : Number.isFinite Exact.undefined = false := rfl

theorem exists_finite_of_isFinite {a : Exact} (h : Number.isFinite a = true) :
    ∃ q, a = .finite q := by
  cases a with
  | finite q => exact ⟨q, rfl⟩
  | infinite n => simp at h
  | undefined => simp at h

protected theorem lt_trans {a b c : Exact} (hab : a < b) (hbc : b < c) : a < c := by
  change Exact.lt a b at hab
  change Exact.lt b c at hbc
  change Exact.lt a c
  cases a <;> cases b <;> cases c <;> simp_all only [Exact.lt] <;> grind

protected theorem lt_irrefl (a : Exact) : ¬ a < a := by
  change ¬ Exact.lt a a
  cases a <;> simp [Exact.lt]

protected theorem le_iff {a b : Exact} : a ≤ b ↔ a < b ∨ a.eqv b = true := Iff.rfl

theorem eq_of_eqv {a b : Exact} (h : a.eqv b = true) : a = b := by
  simp only [eqv, Bool.and_eq_true, decide_eq_true_eq] at h
  exact h.2

protected theorem le_of_lt {a b : Exact} (h : a < b) : a ≤ b := Or.inl h

theorem not_lt_of_le {a b : Exact} (h : a ≤ b) : ¬ b < a := by
  intro hLess
  rcases Exact.le_iff.1 h with hLt | hEq
  · exact Exact.lt_irrefl a (Exact.lt_trans hLt hLess)
  · exact Exact.lt_irrefl a (eq_of_eqv hEq ▸ hLess)

theorem le_of_isFinite {a : Exact} (h : Number.isFinite a = true) : a ≤ a := by
  obtain ⟨q, rfl⟩ := exists_finite_of_isFinite h
  exact finite_le.2 le_rfl

/-- An integer as an exact number. -/
def whole (n : Int) : Exact := .finite n

theorem whole_def (n : Int) : whole n = .finite n := rfl

@[simp] theorem isFinite_whole (n : Int) : Number.isFinite (whole n) = true := rfl

@[simp] theorem ofNat_eq_whole (n : Nat) : (Number.ofNat n : Exact) = whole n := by
  change Exact.finite (n : Rat) = Exact.finite ((n : Int) : Rat)
  rw [Int.cast_natCast]

theorem zero_eq_whole : (0 : Exact) = whole 0 := ofNat_eq_whole 0

theorem one_eq_whole : (1 : Exact) = whole 1 := ofNat_eq_whole 1

theorem zero_eq_finite : (0 : Exact) = .finite 0 := by
  rw [zero_eq_whole, whole_def, Int.cast_zero]

theorem one_eq_finite : (1 : Exact) = .finite 1 := by
  rw [one_eq_whole, whole_def, Int.cast_one]

theorem whole_add (m n : Int) : whole m + whole n = whole (m + n) := by
  simp [whole_def]

theorem add_whole_zero (a : Exact) : a + whole 0 = a := by
  cases a with
  | finite q => simp [whole_def]
  | infinite n => rfl
  | undefined => rfl

theorem whole_sub (m n : Int) : whole m - whole n = whole (m - n) := by
  simp [whole_def]

theorem whole_lt {m n : Int} : whole m < whole n ↔ m < n := by
  simp [whole_def]

theorem whole_le {m n : Int} : whole m ≤ whole n ↔ m ≤ n := by
  simp [whole_def]

theorem floor_finite (a : Rat) : Number.floor (Exact.finite a) = whole a.floor := rfl

theorem round_finite (a : Rat) : Number.round (Exact.finite a) = whole (nearestWhole a) := rfl

theorem floor_whole (n : Int) : Number.floor (whole n) = whole n := by
  rw [whole_def, floor_finite, Rat.floor_intCast, whole_def]

theorem atLeast_whole (low n : Int) : Number.atLeast (whole low) (whole n) = whole (max low n) := by
  unfold Number.atLeast
  simp only [whole_lt]
  split
  · next h => rw [max_eq_right h.le]
  · next h => rw [max_eq_left (not_lt.1 h)]

theorem clamp?_whole {low high : Int} (h : low ≤ high) (n : Int) :
    Number.clamp? (whole low) (whole high) (whole n) = some (whole (max low (min high n))) := by
  rw [Number.clamp?_eq_some_iff]
  refine ⟨whole_le.2 h, ?_⟩
  unfold Number.clamp
  simp only [whole_lt]
  split
  · next hLow => rw [max_eq_left ((min_le_right _ _).trans hLow.le)]
  · next hLow =>
    split
    · next hHigh => rw [min_eq_left hHigh.le, max_eq_right h]
    · next hHigh => rw [min_eq_right (not_lt.1 hHigh), max_eq_right (not_lt.1 hLow)]

theorem finiteElse_whole (fallback : Exact) (n : Int) :
    Number.finiteElse fallback (whole n) = whole n :=
  Number.finiteElse_of_isFinite rfl

/-- A number with a finite one in its place where it is not finite is floored to a whole number. -/
theorem exists_floor_finiteElse {fallback : Exact} (h : Number.isFinite fallback = true)
    (a : Exact) : ∃ n, Number.floor (Number.finiteElse fallback a) = whole n := by
  obtain ⟨p, rfl⟩ := exists_finite_of_isFinite h
  cases a with
  | finite q => exact ⟨q.floor, rfl⟩
  | infinite b => exact ⟨p.floor, rfl⟩
  | undefined => exact ⟨p.floor, rfl⟩

theorem isFinite_add {a b : Exact} (ha : Number.isFinite a = true)
    (hb : Number.isFinite b = true) : Number.isFinite (a + b) = true := by
  obtain ⟨p, rfl⟩ := exists_finite_of_isFinite ha
  obtain ⟨q, rfl⟩ := exists_finite_of_isFinite hb
  rfl

theorem isFinite_sub {a b : Exact} (ha : Number.isFinite a = true)
    (hb : Number.isFinite b = true) : Number.isFinite (a - b) = true := by
  obtain ⟨p, rfl⟩ := exists_finite_of_isFinite ha
  obtain ⟨q, rfl⟩ := exists_finite_of_isFinite hb
  rfl

theorem isFinite_mul {a b : Exact} (ha : Number.isFinite a = true)
    (hb : Number.isFinite b = true) : Number.isFinite (a * b) = true := by
  obtain ⟨p, rfl⟩ := exists_finite_of_isFinite ha
  obtain ⟨q, rfl⟩ := exists_finite_of_isFinite hb
  rfl

/-- A difference is finite only if both its parts are. -/
theorem isFinite_of_sub {a b : Exact} (h : Number.isFinite (a - b) = true) :
    Number.isFinite a = true ∧ Number.isFinite b = true := by
  change (a.add b.neg).isFinite = true at h
  cases a with
  | finite p => cases b with
    | finite q => exact ⟨rfl, rfl⟩
    | infinite n => cases h
    | undefined => cases h
  | infinite m => cases b with
    | finite q => cases h
    | infinite n =>
        rw [neg, add] at h
        split at h <;> cases h
    | undefined => cases h
  | undefined => cases h

theorem isFinite_of_div {a b : Exact} (hb : Number.isFinite b = true)
    (h : Number.isFinite (a / b) = true) : Number.isFinite a = true := by
  obtain ⟨q, rfl⟩ := exists_finite_of_isFinite hb
  cases a with
  | finite p => rfl
  | infinite n => cases h
  | undefined => cases h

theorem isFinite_of_mul {p : Rat} {a : Exact}
    (h : Number.isFinite (.finite p * a) = true) : Number.isFinite a = true := by
  change (mul (.finite p) a).isFinite = true at h
  cases a with
  | finite q => rfl
  | infinite n =>
      rw [mul, stretched] at h
      split at h <;> cases h
  | undefined => cases h

end Exact
end NoteBoard
