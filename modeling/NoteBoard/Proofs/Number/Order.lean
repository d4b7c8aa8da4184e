import Mathlib
import NoteBoard.Number.Binary64
import NoteBoard.Proofs.Number.Whole

/-! The order by which widgets are placed. It is total, and no two numbers share a place in it,
machine numbers as little as exact ones: of the machine's zeros the negative one comes first. -/
namespace NoteBoard

/-- Numbers whose total order tells all of them apart. -/
class Number.LawfulOrder (K : Type) [Number K] : Prop where
  transCmp : Std.TransCmp (Number.totalOrder : K → K → Ordering)
  lawfulEqCmp : Std.LawfulEqCmp (Number.totalOrder : K → K → Ordering)

theorem Number.LawfulOrder.eq_swap {K : Type} [Number K] [h : Number.LawfulOrder K] (a b : K) :
    Number.totalOrder a b = (Number.totalOrder b a).swap :=
  h.transCmp.toOrientedCmp.eq_swap

namespace Exact

protected theorem lt_asymm {a b : Exact} (h : a < b) : ¬ b < a :=
  fun hLess => Exact.lt_irrefl a (Exact.lt_trans h hLess)

theorem isLE_totalOrder_iff {a b : Exact} :
    (a.totalOrder b).isLE = true ↔ a < b ∨ ¬ b < a ∧ (a.isNaN = true → b.isNaN = true) := by
  unfold totalOrder
  split
  · next hLess => simp [hLess]
  · next hNotLess =>
    split
    · next hMore => simp [hNotLess, hMore]
    · next hNotMore =>
      cases ha : a.isNaN <;> cases hb : b.isNaN <;> simp [hNotLess, hNotMore] <;> decide

theorem totalOrder_swap (a b : Exact) : a.totalOrder b = (b.totalOrder a).swap := by
  unfold totalOrder
  by_cases hLess : a < b
  · simp [hLess, Exact.lt_asymm hLess]
  · by_cases hMore : b < a
    · simp [hLess, hMore]
    · simp only [hLess, hMore, if_false]
      exact Std.OrientedOrd.eq_swap

theorem isLE_totalOrder_trans {a b c : Exact} (hab : (a.totalOrder b).isLE = true)
    (hbc : (b.totalOrder c).isLE = true) : (a.totalOrder c).isLE = true := by
  rw [isLE_totalOrder_iff] at *
  change Exact.lt a b ∨ ¬ Exact.lt b a ∧ _ at hab
  change Exact.lt b c ∨ ¬ Exact.lt c b ∧ _ at hbc
  change Exact.lt a c ∨ ¬ Exact.lt c a ∧ _
  cases a <;> cases b <;> cases c <;> simp_all only [Exact.lt, isNaN] <;> grind

theorem totalOrder_finite (p q : Rat) : (finite p).totalOrder (finite q) = compare p q := by
  simp only [totalOrder, finite_lt]
  rcases lt_trichotomy p q with hLess | rfl | hMore
  · rw [if_pos hLess, compare_lt_iff_lt.2 hLess]
  · rw [if_neg (lt_irrefl p), if_neg (lt_irrefl p)]
    exact (compare_eq_iff_eq.2 rfl).symm
  · rw [if_neg hMore.asymm, if_pos hMore, compare_gt_iff_gt.2 hMore]

theorem eq_of_totalOrder {a b : Exact} (h : a.totalOrder b = .eq) : a = b := by
  have hab : (a.totalOrder b).isLE = true := by
    rw [h]
    rfl
  have hba : (b.totalOrder a).isLE = true := by
    rw [totalOrder_swap, h]
    rfl
  rw [isLE_totalOrder_iff] at hab hba
  change Exact.lt a b ∨ ¬ Exact.lt b a ∧ _ at hab
  change Exact.lt b a ∨ ¬ Exact.lt a b ∧ _ at hba
  cases a <;> cases b <;> simp_all only [Exact.lt, isNaN] <;> grind

instance : Number.LawfulOrder Exact where
  transCmp := { eq_swap := totalOrder_swap _ _, isLE_trans := isLE_totalOrder_trans }
  lawfulEqCmp := {
    compare_self := by
      intro a
      simp [Number.totalOrder, totalOrder, Exact.lt_irrefl]
    eq_of_compare := eq_of_totalOrder }

end Exact

namespace Binary64

/-- The place of a machine number in the order. -/
def rank (x : Float) : Int :=
  if isNegative x then -(sizeBits x : Int) - 1 else (sizeBits x : Int)

theorem sizeBits_eq (x : Float) : sizeBits x = x.toBits.toNat % 2 ^ 63 := by
  rw [sizeBits, UInt64.toNat_and]
  exact Nat.and_two_pow_sub_one_eq_mod _ 63

theorem isNegative_iff (x : Float) : isNegative x = true ↔ 2 ^ 63 ≤ x.toBits.toNat := by
  have hShift : (x.toBits >>> 63).toNat = x.toBits.toNat / 2 ^ 63 := by
    rw [UInt64.toNat_shiftRight, Nat.shiftRight_eq_div_pow]
    rfl
  have hLt := x.toBits.toNat_lt
  rw [isNegative, beq_iff_eq, ← UInt64.toNat_inj, hShift]
  change _ = 1 ↔ _
  omega

/-- A place in the order is that of one encoding. -/
theorem rank_injective {x y : Float} (h : rank x = rank y) : x = y := by
  rw [← Float.toBits_inj, ← UInt64.toNat_inj]
  have hx := x.toBits.toNat_lt
  have hy := y.toBits.toNat_lt
  have hxNegative := isNegative_iff x
  have hyNegative := isNegative_iff y
  simp only [rank, sizeBits_eq] at h
  split at h <;> split at h <;> simp_all <;> omega

instance : Number.LawfulOrder Float where
  transCmp := {
    eq_swap := Std.OrientedOrd.eq_swap (α := Int)
    isLE_trans := Std.TransOrd.isLE_trans (α := Int) }
  lawfulEqCmp := {
    compare_self := Std.ReflOrd.compare_self (α := Int)
    eq_of_compare := fun h => rank_injective (Std.LawfulEqOrd.eq_of_compare (α := Int) h) }

end Binary64
end NoteBoard
