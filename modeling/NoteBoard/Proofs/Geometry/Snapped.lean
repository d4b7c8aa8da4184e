import NoteBoard.Proofs.Geometry.Fits
import NoteBoard.Proofs.Geometry.Travel

/-! Gestures over pixels with a pointer at a finite place. What they ask for is rounded to whole
pixels and then bounded, and the bounds come from the container and from the least size of widgets,
which need not be whole. -/
namespace NoteBoard

namespace Exact

def IsWhole (a : Exact) : Prop := ∃ n, a = whole n

/-- A whole number between bounds stays whole, unless a bound that it exceeds is not. -/
theorem isWhole_clamp_iff {low high x : Exact} (hx : x.IsWhole) (hBounds : low ≤ high) :
    (Number.clamp low high x).IsWhole ↔
      (x < low → low.IsWhole) ∧ (high < x → high.IsWhole) := by
  unfold Number.clamp
  split
  · next hLow =>
    have hNotHigh : ¬ high < x := fun hHigh =>
      not_lt_of_le hBounds (Exact.lt_trans hHigh hLow)
    simp [hLow, hNotHigh]
  · next hLow =>
    split
    · next hHigh => simp [hLow, hHigh]
    · next hHigh => simp [hLow, hHigh, hx]

theorem le_clamp {low high x : Exact} (hx : x.IsWhole) (hLow : Number.isFinite low = true)
    (hBounds : low ≤ high) : low ≤ Number.clamp low high x := by
  unfold Number.clamp
  split
  · exact le_of_isFinite hLow
  · next hAbove =>
    split
    · exact hBounds
    · obtain ⟨q, rfl⟩ := exists_finite_of_isFinite hLow
      obtain ⟨n, rfl⟩ := hx
      rw [whole_def, finite_lt, not_lt] at hAbove
      exact finite_le.2 hAbove

theorem isWhole_atLeast_iff {low x : Exact} (hx : x.IsWhole)
    (hLow : Number.isFinite low = true) :
    (Number.atLeast low x).IsWhole ↔ (x < low → low.IsWhole) := by
  unfold Number.atLeast
  split
  · next hAbove =>
    have hNotBelow : ¬ x < low := fun hBelow =>
      Exact.lt_irrefl x (Exact.lt_trans hBelow hAbove)
    simp [hNotBelow, hx]
  · next hAbove =>
    by_cases hBelow : x < low
    · simp [hBelow]
    · -- Neither is below the other, so they are the same.
      obtain ⟨q, rfl⟩ := exists_finite_of_isFinite hLow
      obtain ⟨n, rfl⟩ := hx
      rw [whole_def, finite_lt, not_lt] at hAbove hBelow
      have hSame : whole n = .finite q := congrArg Exact.finite (le_antisymm hAbove hBelow)
      simp [← hSame, IsWhole]

end Exact

/-- A point on the plane, wherever that is. -/
def Point.IsFinite {K : Type} [Number K] (p : Point K) : Prop :=
  Number.isFinite p.x = true ∧ Number.isFinite p.y = true

namespace Gesture

variable {g : Gesture Exact} {s : Surface Exact} {p : Point Exact}

/-- With the pointer at a point, no bound applies that is not whole. -/
structure IsSnapped (g : Gesture Exact) (s : Surface Exact) (p : Point Exact) : Prop where
  left : g.sideways s p < g.least s → (g.least s).IsWhole
  right : g.most s < g.sideways s p → (g.most s).IsWhole
  top : g.downwards s p < g.least s → (g.least s).IsWhole

theorem asked_isWhole {start travel : Exact} (hStart : Number.isFinite start = true)
    (hTravel : Number.isFinite travel = true) (cell gap : Exact) :
    (asked .pixels start travel cell gap).IsWhole := by
  obtain ⟨a, rfl⟩ := Exact.exists_finite_of_isFinite hStart
  obtain ⟨d, rfl⟩ := Exact.exists_finite_of_isFinite hTravel
  exact ⟨_, Exact.round_finite (a + d)⟩

/-- The lower bound of a gesture over pixels is not negative, and that of a size is at least one. -/
theorem exists_least (hUnit : s.unit = .pixels) (hLeast : Number.isFinite s.leastPixels = true) :
    ∃ q : Rat, g.least s = .finite q ∧ 0 ≤ q ∧ (g.kind = .resize → 1 ≤ q) := by
  obtain ⟨q, hq⟩ := Exact.exists_finite_of_isFinite (g.isFinite_least hLeast)
  refine ⟨q, hq, ?_⟩
  unfold least at hq
  cases hKind : g.kind with
  | drag =>
      rw [hKind, Exact.zero_eq_finite, Exact.finite.injEq] at hq
      exact ⟨hq.le, nofun⟩
  | resize =>
      have hOne : (1 : Exact) ≤ Number.atLeast 1 s.leastPixels := Number.le_atLeast rfl _
      rw [hKind, hUnit] at hq
      dsimp only at hq
      rw [hq, Exact.one_eq_finite, Exact.finite_le] at hOne
      exact ⟨zero_le_one.trans hOne, fun _ => hOne⟩

/-- A rectangle that fits does so after a gesture within its bounds, if what changes is whole. -/
theorem changed_fits_iff {columns : Nat} (hRect : g.rect.Fits .pixels columns)
    (hUnit : s.unit = .pixels) (hLeast : Number.isFinite s.leastPixels = true) {a b : Exact}
    (ha : g.least s ≤ a) (hb : g.least s ≤ b) :
    (g.changed a b).Fits .pixels columns ↔ a.IsWhole ∧ b.IsWhole := by
  obtain ⟨q, hq, hZero, hOne⟩ := exists_least (g := g) hUnit hLeast
  obtain ⟨x, y, w, h, hFits, hx, hy, hw, hh, -⟩ := hRect
  rw [hq] at ha hb
  have hBound {n : Int} {a : Exact} (ha : .finite q ≤ a) (hn : a = .whole n) : q ≤ n := by
    rwa [hn, Exact.whole_def, Exact.finite_le] at ha
  unfold changed
  constructor
  · rintro ⟨x', y', w', h', hRect', -⟩
    cases hKind : g.kind with
    | drag =>
        rw [hKind] at hRect'
        exact ⟨⟨x', congrArg Rect.x hRect'⟩, ⟨y', congrArg Rect.y hRect'⟩⟩
    | resize =>
        rw [hKind] at hRect'
        exact ⟨⟨w', congrArg Rect.w hRect'⟩, ⟨h', congrArg Rect.h hRect'⟩⟩
  · rintro ⟨⟨m, hm⟩, ⟨n, hn⟩⟩
    have hLeft := hBound ha hm
    have hTop := hBound hb hn
    cases hKind : g.kind with
    | drag =>
        have hm0 : 0 ≤ m := by exact_mod_cast hZero.trans hLeft
        have hn0 : 0 ≤ n := by exact_mod_cast hZero.trans hTop
        exact ⟨m, n, w, h, by simp [hFits, Rect.placed, hm, hn], hm0, hn0, hw, hh, nofun⟩
    | resize =>
        have hm1 : 1 ≤ m := by exact_mod_cast (hOne hKind).trans hLeft
        have hn1 : 1 ≤ n := by exact_mod_cast (hOne hKind).trans hTop
        exact ⟨x, y, m, n, by simp [hFits, Rect.sized, hm, hn], hx, hy, hm1, hn1, nofun⟩

/-- A gesture over pixels goes to a rectangle wherever the pointer is. The rectangle fits exactly
if no bound applies that is not whole. -/
theorem exists_rect_fits_iff {columns : Nat} (hRect : g.rect.Fits .pixels columns)
    (hUnit : s.unit = .pixels) (hLeast : Number.isFinite s.leastPixels = true)
    (hPointer : g.pointer.IsFinite) (hPoint : p.IsFinite) :
    ∃ r, g.rectAt? s p = some r ∧ (r.Fits .pixels columns ↔ g.IsSnapped s p) := by
  have hBound := g.isFinite_least hLeast
  obtain ⟨hLeft, hTop⟩ := isFinite_start hRect.isFinite
  have hAcross : Number.isFinite (g.travel p).x = true := Exact.isFinite_sub hPoint.1 hPointer.1
  have hAlong : Number.isFinite (g.travel p).y = true := Exact.isFinite_sub hPoint.2 hPointer.2
  have hSideways : (g.sideways s p).IsWhole := by
    rw [sideways, hUnit]
    exact asked_isWhole hLeft hAcross _ _
  have hDownwards : (g.downwards s p).IsWhole := by
    rw [downwards, hUnit]
    exact asked_isWhole hTop hAlong _ _
  have hOrder : g.least s ≤ g.most s := Number.le_atLeast hBound _
  have hClamp : Number.clamp? (g.least s) (g.most s) (g.sideways s p) =
      some (Number.clamp (g.least s) (g.most s) (g.sideways s p)) :=
    Number.clamp?_atLeast hBound _ _
  refine ⟨_, by rw [rectAt?_eq, hClamp, Option.map_some], ?_⟩
  rw [changed_fits_iff hRect hUnit hLeast (Exact.le_clamp hSideways hBound hOrder)
    (Number.le_atLeast hBound _),
    Exact.isWhole_clamp_iff hSideways hOrder, Exact.isWhole_atLeast_iff hDownwards hBound]
  exact ⟨fun h => ⟨h.1.1, h.1.2, h.2⟩, fun h => ⟨⟨h.left, h.right⟩, h.top⟩⟩

/-- In a container of whole width, with a whole least size, no bound gets in the way. -/
theorem isSnapped_of_whole {columns : Nat} (hRect : g.rect.Fits .pixels columns)
    (hUnit : s.unit = .pixels) (hWidth : s.container.width.IsWhole)
    (hLeast : s.leastPixels.IsWhole) (p : Point Exact) : g.IsSnapped s p := by
  obtain ⟨width, hWidth⟩ := hWidth
  obtain ⟨pixels, hLeast⟩ := hLeast
  obtain ⟨x, y, w, h, hFits, -⟩ := hRect
  have hLow : (g.least s).IsWhole := by
    unfold least
    rw [hUnit, hLeast]
    cases g.kind with
    | drag => exact ⟨0, Exact.zero_eq_whole⟩
    | resize => exact ⟨max 1 pixels, Exact.atLeast_whole 1 pixels⟩
  have hHigh : (g.most s).IsWhole := by
    obtain ⟨low, hLow⟩ := hLow
    cases hKind : g.kind with
    | drag =>
        refine ⟨max low (width - w), ?_⟩
        simp only [most, hLow, hUnit, hWidth, hFits, hKind, Exact.whole_sub, Exact.atLeast_whole]
    | resize =>
        refine ⟨max low (width - x), ?_⟩
        simp only [most, hLow, hUnit, hWidth, hFits, hKind, Exact.whole_sub, Exact.atLeast_whole]
  exact ⟨fun _ => hLow, fun _ => hHigh, fun _ => hLow⟩

end Gesture
end NoteBoard
