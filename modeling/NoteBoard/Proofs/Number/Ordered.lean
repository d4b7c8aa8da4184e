import NoteBoard.Proofs.Number.Extended

/-! Numbers in the order of their sizes. All that are numbers are comparable, and sums, differences
and quotients of lengths lie where they should, or are no numbers. -/
namespace NoteBoard
namespace Number

variable {K : Type} [Number K]

/-- What is known of the order, and of sums, differences and quotients of lengths. -/
class Ordered (K : Type) [Number K] : Prop where
  lt_irrefl (a : K) : ¬ a < a
  not_lt {a b : K} : isNaN a = false → isNaN b = false → (¬ a < b ↔ b ≤ a)
  isNaN_of_le {a b : K} : a ≤ b → isNaN a = false ∧ isNaN b = false
  one_le_ofNat {n : Nat} : 0 < n → n < twoTo 32 →
    isFinite (ofNat n : K) = true ∧ (1 : K) ≤ ofNat n
  add_pos {a b : K} : isFinite a = true → isFinite b = true → 0 < a → 0 ≤ b → 0 < a + b
  sub_nonneg {a b : K} : isFinite a = true → isFinite b = true → a ≤ b → 0 ≤ b - a
  isNaN_add {a b : K} : isFinite b = true → isNaN (a + b) = isNaN a
  isNaN_sub {a b : K} : isFinite a = true ∨ isFinite b = true →
    isNaN (a - b) = (isNaN a || isNaN b)
  isNaN_div {a b : K} : 0 < b → isNaN (a / b) = (isNaN a || !isFinite a && !isFinite b)

section Ordered

variable [hK : Ordered K]

theorem le_refl_of_not_isNaN {a : K} (h : isNaN a = false) : a ≤ a :=
  (hK.not_lt h h).1 (hK.lt_irrefl a)

theorem not_lt_of_le {a b : K} (h : a ≤ b) : ¬ b < a := by
  obtain ⟨ha, hb⟩ := hK.isNaN_of_le h
  exact (hK.not_lt hb ha).2 h

end Ordered

variable [hExtended : Extended K] [hK : Ordered K]

theorem pos_of_not_le {a : K} (ha : isFinite a = true) (h : ¬ a ≤ 0) : 0 < a := by
  by_contra hNot
  have hZero : isNaN (0 : K) = false := hExtended.isNaN_of_isFinite hExtended.isFinite_zero
  exact h ((hK.not_lt hZero (hExtended.isNaN_of_isFinite ha)).1 hNot)

variable {low high : K}

/-- Bounds hold of what was brought between them, unless that is not a number. -/
theorem clamp_between_iff (h : low ≤ high) (x : K) :
    low ≤ clamp low high x ∧ clamp low high x ≤ high ↔ isNaN x = false := by
  obtain ⟨hLow, hHigh⟩ := hK.isNaN_of_le h
  constructor
  · rintro ⟨hAbove, -⟩
    rw [← Bool.not_eq_true]
    intro hx
    rw [clamp_of_isNaN low high hx] at hAbove
    simp [(hK.isNaN_of_le hAbove).2] at hx
  · intro hx
    unfold clamp
    split
    · exact ⟨le_refl_of_not_isNaN hLow, h⟩
    next hNotBelow =>
    split
    · exact ⟨h, le_refl_of_not_isNaN hHigh⟩
    · next hNotAbove =>
      exact ⟨(hK.not_lt hx hLow).1 hNotBelow, (hK.not_lt hHigh hx).1 hNotAbove⟩

/-- What lies between finite bounds is finite. -/
theorem isFinite_of_between {x : K} (hLow : isFinite low = true) (hHigh : isFinite high = true)
    (hAbove : low ≤ x) (hBelow : x ≤ high) : isFinite x = true := by
  by_contra hNot
  rw [Bool.not_eq_true] at hNot
  by_cases hOver : IsOver x
  · exact not_lt_of_le hBelow (hExtended.lt_of_isOver hHigh hOver)
  · exact not_lt_of_le hAbove
      (hExtended.lt_of_not_isOver hLow hNot (hK.isNaN_of_le hAbove).2 hOver)

end Number

namespace Exact

theorem isNaN_of_lt {a b : Exact} (h : a < b) : a.isNaN = false ∧ b.isNaN = false := by
  change Exact.lt a b at h
  cases a <;> cases b <;> simp_all [Exact.lt, isNaN]

instance : Number.Ordered Exact where
  lt_irrefl := Exact.lt_irrefl
  not_lt := by
    intro a b ha hb
    refine ⟨fun hNot => ?_, not_lt_of_le⟩
    change a.isNaN = false at ha
    change b.isNaN = false at hb
    change ¬ Exact.lt a b at hNot
    change Exact.lt b a ∨ b.eqv a = true
    cases a <;> cases b <;> simp_all [Exact.lt, eqv, isNaN, le_iff_lt_or_eq]
    grind
  isNaN_of_le := by
    intro a b h
    rcases Exact.le_iff.1 h with hLess | hSame
    · exact isNaN_of_lt hLess
    · cases eq_of_eqv hSame
      have hNumber : a.isNaN = false := by simpa [eqv] using hSame
      exact ⟨hNumber, hNumber⟩
  one_le_ofNat := by
    intro n hPos _
    refine ⟨rfl, ?_⟩
    rw [one_eq_whole, ofNat_eq_whole, whole_le]
    omega
  add_pos := by
    intro a b ha hb hPos hNonneg
    obtain ⟨p, rfl⟩ := exists_finite_of_isFinite ha
    obtain ⟨q, rfl⟩ := exists_finite_of_isFinite hb
    rw [zero_eq_finite, finite_lt] at hPos
    rw [zero_eq_finite, finite_le] at hNonneg
    rw [zero_eq_finite, finite_add, finite_lt]
    linarith
  sub_nonneg := by
    intro a b ha hb h
    obtain ⟨p, rfl⟩ := exists_finite_of_isFinite ha
    obtain ⟨q, rfl⟩ := exists_finite_of_isFinite hb
    rw [finite_le] at h
    rw [zero_eq_finite, finite_sub, finite_le]
    linarith
  isNaN_add := by
    intro a b hb
    obtain ⟨q, rfl⟩ := exists_finite_of_isFinite hb
    cases a <;> rfl
  isNaN_sub := by
    intro a b h
    cases a <;> cases b <;> first | rfl | simp at h
  isNaN_div := by
    intro a b hPos
    rw [zero_eq_finite] at hPos
    cases b with
    | undefined => exact hPos.elim
    | infinite n => cases a <;> rfl
    | finite q =>
        cases a with
        | finite p =>
            rw [finite_div p (finite_lt.1 hPos).ne']
            rfl
        | infinite n => rfl
        | undefined => rfl

end Exact
end NoteBoard
