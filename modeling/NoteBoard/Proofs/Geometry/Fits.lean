import NoteBoard.Geometry.Gesture
import NoteBoard.Proofs.Number.Whole

/-! Rectangles in whole units within the columns of a grid, and gestures that keep them so. -/
namespace NoteBoard

namespace Rect

/-- A rectangle in whole units, at least one wide and high, which does not begin above or left of
the origin and, if it counts cells, lies within the columns. -/
def Fits (unit : Coordinates) (columns : Nat) (r : Rect Exact) : Prop :=
  ∃ x y w h : Int, r = ⟨.whole x, .whole y, .whole w, .whole h⟩ ∧
    0 ≤ x ∧ 0 ≤ y ∧ 1 ≤ w ∧ 1 ≤ h ∧ (unit = .cells → x + w ≤ columns)

theorem Fits.isFinite {unit : Coordinates} {columns : Nat} {r : Rect Exact}
    (h : r.Fits unit columns) : r.isFinite = true := by
  obtain ⟨x, y, w, h, rfl, -⟩ := h
  rfl

/-- A rectangle that fits may be moved below another one. -/
theorem Fits.push {unit : Coordinates} {columns : Nat} {r other : Rect Exact}
    (hr : r.Fits unit columns) (hOther : other.Fits unit columns) :
    ({ r with y := other.bottom } : Rect Exact).Fits unit columns := by
  obtain ⟨x, y, w, h, rfl, hx, -, hw, hh, hRight⟩ := hr
  obtain ⟨x', y', w', h', rfl, -, hy', -, hh', -⟩ := hOther
  exact ⟨x, y' + h', w, h, by rw [bottom, Exact.whole_add], hx, by omega, hw, hh, hRight⟩

end Rect

/-- Travel over cells is whole, whatever the pointer does and however large the cells are. -/
theorem exists_wholeCells (travel cell gap : Exact) :
    ∃ n, wholeCells travel cell gap = .whole n := by
  simp only [wholeCells]
  split
  · exact ⟨0, Exact.zero_eq_whole⟩
  · next h =>
    simp only [Bool.or_eq_true, Bool.not_eq_true', decide_eq_true_eq, not_or,
      Bool.not_eq_false] at h
    obtain ⟨⟨hPitch, hPositive⟩, hTravel⟩ := h
    obtain ⟨pitch, hPitch⟩ := Exact.exists_finite_of_isFinite hPitch
    obtain ⟨travel, rfl⟩ := Exact.exists_finite_of_isFinite hTravel
    rw [hPitch, Exact.zero_eq_finite, Exact.finite_le, not_le] at hPositive
    rw [hPitch, Exact.finite_div travel hPositive.ne', Exact.round_finite]
    exact ⟨_, rfl⟩

namespace Gesture

variable {s : Surface Exact} {r r' : Rect Exact} (hRect : r.Fits .cells s.columns)

include hRect

theorem dragCells?_fits {dx dy : Exact} (h : dragCells? s r dx dy = some r') :
    r'.Fits .cells s.columns := by
  obtain ⟨x, y, width, height, rfl, hx, -, hw, hh, hRight⟩ := hRect
  have hWidth : x + width ≤ s.columns := hRight rfl
  obtain ⟨m, hm⟩ := exists_wholeCells dx s.columnWidth s.gap
  obtain ⟨n, hn⟩ := exists_wholeCells dy s.rowHeight s.gap
  simp only [dragCells?, hm, hn, Exact.zero_eq_whole, Exact.ofNat_eq_whole, Exact.whole_sub,
    Exact.whole_add, Exact.atLeast_whole] at h
  rw [Exact.clamp?_whole (le_max_left _ _)] at h
  obtain rfl := Option.some.inj h
  exact ⟨_, _, width, height, rfl, by omega, by omega, hw, hh, fun _ => by omega⟩

theorem resizeCells?_fits {dx dy : Exact} (h : resizeCells? s r dx dy = some r') :
    r'.Fits .cells s.columns := by
  obtain ⟨x, y, width, height, rfl, hx, hy, hw, -, hRight⟩ := hRect
  have hWidth : x + width ≤ s.columns := hRight rfl
  obtain ⟨m, hm⟩ := exists_wholeCells dx s.columnWidth s.gap
  obtain ⟨n, hn⟩ := exists_wholeCells dy s.rowHeight s.gap
  simp only [resizeCells?, hm, hn, Exact.one_eq_whole, Exact.ofNat_eq_whole, Exact.whole_sub,
    Exact.whole_add, Exact.atLeast_whole] at h
  rw [Exact.clamp?_whole (le_max_left _ _)] at h
  obtain rfl := Option.some.inj h
  exact ⟨x, y, _, _, rfl, hx, hy, by omega, by omega, fun _ => by omega⟩

end Gesture

/-- Over cells, a gesture keeps its widget within the columns. -/
theorem Gesture.rectAt?_fits {g : Gesture Exact} {s : Surface Exact} {p : Point Exact}
    {r : Rect Exact} (hUnit : s.unit = .cells) (hRect : g.rect.Fits .cells s.columns)
    (h : g.rectAt? s p = some r) : r.Fits .cells s.columns := by
  unfold rectAt? at h
  rw [hUnit] at h
  cases hKind : g.kind with
  | drag =>
      rw [hKind] at h
      exact dragCells?_fits hRect h
  | resize =>
      rw [hKind] at h
      exact resizeCells?_fits hRect h

end NoteBoard
