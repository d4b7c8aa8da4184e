import NoteBoard.Proofs.Number.Order

/-! Numbers that may leave the finite range. What is outside is not a number, or it is larger or
smaller than every finite number; bounds bring back the latter two. -/
namespace NoteBoard
namespace Number

variable {K : Type} [Number K]

/-- Not finite, and larger than zero: larger than every finite number. -/
def IsOver (x : K) : Prop := isFinite x = false ∧ 0 < x

/-- What is known of numbers outside the finite range: their place in the order, and that finite
ones do not bring them back. -/
class Extended (K : Type) [Number K] : Prop where
  isFinite_zero : isFinite (0 : K) = true
  isFinite_one : isFinite (1 : K) = true
  isNaN_of_isFinite {a : K} : isFinite a = true → isNaN a = false
  le_of_lt {a b : K} : a < b → a ≤ b
  le_self {a : K} : isFinite a = true → a ≤ a
  isFinite_of_lt_of_lt {a x b : K} : isFinite a = true → a < x → x < b → isFinite x = true
  not_lt_of_isNaN {x : K} (a : K) : isNaN x = true → ¬ a < x ∧ ¬ x < a
  lt_of_isOver {a x : K} : isFinite a = true → IsOver x → a < x
  not_lt_of_isOver {x : K} (a : K) : IsOver x → ¬ x < a
  lt_of_not_isOver {a x : K} : isFinite a = true → isFinite x = false → isNaN x = false →
    ¬ IsOver x → x < a
  isNaN_add {a : K} (b : K) : isFinite a = true → isNaN (a + b) = isNaN b
  isOver_add {a b : K} : isFinite a = true → IsOver b → IsOver (a + b)
  isFinite_add_zero {a : K} : isFinite a = true → isFinite (a + 0) = true
  isNaN_div {a b : K} : isFinite a = true → isFinite b = true → ¬ b ≤ 0 → isNaN (a / b) = false
  isNaN_round (x : K) : isNaN (round x) = isNaN x
  round_eq_self {x : K} : isFinite x = false → round x = x

theorem not_isOver_of_isFinite {x : K} (hx : isFinite x = true) : ¬ IsOver x :=
  fun hOver => by simp [hOver.1] at hx

variable [hK : Extended K]

theorem clamp_of_isNaN {x : K} (low high : K) (hx : isNaN x = true) : clamp low high x = x := by
  rw [clamp, if_neg (hK.not_lt_of_isNaN low hx).2, if_neg (hK.not_lt_of_isNaN high hx).1]

variable {low : K} (hLow : isFinite low = true)

include hLow

/-- A lower bound brings back what is not a number and what is too small. -/
theorem isFinite_atLeast_iff {x : K} : isFinite (atLeast low x) = true ↔ ¬ IsOver x := by
  unfold atLeast
  split
  · next hAbove =>
    refine ⟨not_isOver_of_isFinite, fun hOver => ?_⟩
    by_contra hx
    rw [Bool.not_eq_true] at hx
    have hNaN : isNaN x = false := by
      rw [← Bool.not_eq_true]
      exact fun hNaN => (hK.not_lt_of_isNaN low hNaN).1 hAbove
    have hBelow := hK.lt_of_not_isOver hLow hx hNaN hOver
    simp [hK.isFinite_of_lt_of_lt hLow hAbove hBelow] at hx
  · next hNot => exact ⟨fun _ hOver => hNot (hK.lt_of_isOver hLow hOver), fun _ => hLow⟩

theorem le_atLeast (x : K) : low ≤ atLeast low x := by
  unfold atLeast
  split
  · next hAbove => exact hK.le_of_lt hAbove
  · exact hK.le_self hLow

/-- Bounds that do not cross always have a nearest point between them. -/
theorem clamp?_atLeast (room x : K) :
    clamp? low (atLeast low room) x = some (clamp low (atLeast low room) x) :=
  clamp?_eq_some_iff.2 ⟨le_atLeast hLow room, rfl⟩

/-- Two bounds bring back everything that is a number, if the upper one is finite where it
applies. -/
theorem isFinite_clamp_iff {room x : K} :
    isFinite (clamp low (atLeast low room) x) = true ↔
      isNaN x = false ∧ (IsOver x → isFinite (atLeast low room) = true) := by
  have hUpper {y : K} (hy : isFinite y = true) (hBelow : atLeast low room < y) :
      isFinite (atLeast low room) = true := by
    refine (isFinite_atLeast_iff hLow).2 fun hOver => ?_
    rw [atLeast, if_pos (hK.lt_of_isOver hLow hOver)] at hBelow
    exact hK.not_lt_of_isOver y hOver hBelow
  unfold clamp
  by_cases hx : isFinite x = true
  · have hEach : isFinite (if x < low then low else if atLeast low room < x then atLeast low room
        else x) = true := by
      split
      · exact hLow
      · split
        · next hBelow => exact hUpper hx hBelow
        · exact hx
    simp [hEach, hK.isNaN_of_isFinite hx, not_isOver_of_isFinite hx]
  rw [Bool.not_eq_true] at hx
  cases hNaN : isNaN x with
  | true =>
      change isFinite (clamp low (atLeast low room) x) = true ↔ _
      rw [clamp_of_isNaN low _ hNaN]
      simp [hx]
  | false =>
      by_cases hOver : IsOver x
      · rw [if_neg (hK.not_lt_of_isOver low hOver)]
        by_cases hFinite : isFinite (atLeast low room) = true
        · simp [hK.lt_of_isOver hFinite hOver, hFinite]
        · split <;> simp [hFinite, hx, hOver]
      · simp [hK.lt_of_not_isOver hLow hx hNaN hOver, hLow, hOver]

end Number

namespace Exact

theorem isOver_iff {x : Exact} : Number.IsOver x ↔ x = .infinite false := by
  rw [Number.IsOver, zero_eq_finite]
  change _ ∧ Exact.lt _ _ ↔ _
  cases x <;> simp [Exact.lt]

instance : Number.Extended Exact where
  isFinite_zero := rfl
  isFinite_one := rfl
  isNaN_of_isFinite := by
    intro a ha
    obtain ⟨p, rfl⟩ := exists_finite_of_isFinite ha
    rfl
  le_of_lt := Exact.le_of_lt
  le_self := le_of_isFinite
  isFinite_of_lt_of_lt := by
    intro a x b ha hax hxb
    obtain ⟨p, rfl⟩ := exists_finite_of_isFinite ha
    change Exact.lt _ _ at hax
    change Exact.lt _ _ at hxb
    cases x <;> cases b <;> simp_all [Exact.lt]
  not_lt_of_isNaN := by
    intro x a hx
    cases x with
    | undefined =>
      constructor
      · change ¬ Exact.lt _ _
        cases a <;> simp [Exact.lt]
      · exact id
    | _ => cases hx
  lt_of_isOver := by
    intro a x ha hx
    obtain ⟨p, rfl⟩ := exists_finite_of_isFinite ha
    rw [isOver_iff.1 hx]
    rfl
  not_lt_of_isOver := by
    intro x a hx
    rw [isOver_iff.1 hx]
    change ¬ Exact.lt _ _
    cases a <;> simp [Exact.lt]
  lt_of_not_isOver := by
    intro a x ha hx hNaN hOver
    obtain ⟨p, rfl⟩ := exists_finite_of_isFinite ha
    rw [isOver_iff] at hOver
    change Exact.lt _ _
    cases x with
    | finite q => cases hx
    | infinite n => simpa [Exact.lt] using hOver
    | undefined => cases hNaN
  isNaN_add := by
    intro a b ha
    obtain ⟨p, rfl⟩ := exists_finite_of_isFinite ha
    cases b <;> rfl
  isOver_add := by
    intro a b ha hb
    obtain ⟨p, rfl⟩ := exists_finite_of_isFinite ha
    rw [isOver_iff.1 hb, isOver_iff]
    rfl
  isFinite_add_zero := fun ha => isFinite_add ha rfl
  isNaN_div := by
    intro a b ha hb hPositive
    obtain ⟨p, rfl⟩ := exists_finite_of_isFinite ha
    obtain ⟨q, rfl⟩ := exists_finite_of_isFinite hb
    rw [zero_eq_finite, finite_le] at hPositive
    rw [finite_div p (by rintro rfl; exact hPositive le_rfl)]
    rfl
  isNaN_round := by
    intro x
    cases x <;> rfl
  round_eq_self := by
    intro x hx
    cases x with
    | finite q => cases hx
    | _ => rfl

end Exact
end NoteBoard
