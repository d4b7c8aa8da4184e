import Mathlib.Tactic.FieldSimp
import Mathlib.Tactic.Positivity
import Mathlib.Tactic.Ring
import NoteBoard.Proofs.Geometry.Fits

/-! Rectangles of cells in pixels. Where a rectangle begins and how far it goes are rounded each on
its own, so it may reach one pixel into what was next to it, unless there is half a pixel of gap. -/
namespace NoteBoard

namespace Exact

theorem nearestWhole_of_nonneg {a : Rat} (h : 0 ≤ a) : nearestWhole a = (a + 1 / 2).floor :=
  if_neg (not_lt.2 h)

theorem nearestWhole_eq {a : Rat} {n : Int} (ha : 0 ≤ a) (hLow : n - 1 / 2 ≤ a)
    (hHigh : a < n + 1 / 2) : nearestWhole a = n := by
  rw [nearestWhole_of_nonneg ha]
  show ⌊a + 1 / 2⌋ = n
  exact Int.floor_eq_iff.2 ⟨by linarith, by linarith⟩

/-- Two numbers are rounded up by half a unit each at most. -/
theorem nearestWhole_add_le {a b c : Rat} (ha : 0 ≤ a) (hb : 0 ≤ b) (h : a + b + 1 / 2 ≤ c) :
    nearestWhole a + nearestWhole b ≤ nearestWhole c := by
  rw [nearestWhole_of_nonneg ha, nearestWhole_of_nonneg hb, nearestWhole_of_nonneg (by linarith),
    Rat.le_floor_iff]
  have hFirst := Rat.floor_le (a + 1 / 2)
  have hSecond := Rat.floor_le (b + 1 / 2)
  push_cast
  linarith

/-- A number half a unit larger is rounded to the same number or the next. -/
theorem nearestWhole_add_half_le {c : Rat} (hc : 0 ≤ c) :
    nearestWhole (c + 1 / 2) ≤ nearestWhole c + 1 := by
  rw [nearestWhole_of_nonneg hc, nearestWhole_of_nonneg (by linarith), ← Int.lt_add_one_iff,
    Rat.floor_lt_iff]
  have hNext := Rat.lt_floor_add_one (c + 1 / 2)
  push_cast at hNext ⊢
  linarith

end Exact

namespace Grid

/-- The pixel at which a cell begins. -/
def pixelAt (padding pitch : Rat) (cell : Int) : Int :=
  Exact.nearestWhole (padding + cell * pitch)

/-- The pixels that some cells take with the gaps between them. -/
def pixelSpan (size gap : Rat) (count : Int) : Int :=
  Exact.nearestWhole (count * size + (count - 1) * gap)

/-- How far cells reach, in numbers that are not rounded. -/
theorem add_gap_le (padding : Rat) {size gap : Rat} (hSize : 0 < size) (hGap : 0 ≤ gap)
    {first count next : Int} (h : first + count ≤ next) :
    padding + first * (size + gap) + (count * size + (count - 1) * gap) + gap ≤
      padding + next * (size + gap) := by
  have hCells : ((first + count : Int) : Rat) ≤ next := by exact_mod_cast h
  have hPitch : 0 ≤ size + gap := by linarith
  have hMore := mul_le_mul_of_nonneg_right hCells hPitch
  push_cast at hMore
  linarith

/-- How far cells reach into the cells behind them: one pixel at most, and not at all if the gap is
half a pixel or more. -/
theorem pixelAt_add_pixelSpan_le {padding size gap : Rat} (hPadding : 0 ≤ padding)
    (hSize : 0 < size) (hGap : 0 ≤ gap) {first count next : Int} (hFirst : 0 ≤ first)
    (hCount : 1 ≤ count) (h : first + count ≤ next) {slack : Int}
    (hSlack : slack = 1 ∨ slack = 0 ∧ 1 / 2 ≤ gap) :
    pixelAt padding (size + gap) first + pixelSpan size gap count ≤
      pixelAt padding (size + gap) next + slack := by
  have hBegin : (0 : Rat) ≤ first := by exact_mod_cast hFirst
  have hMany : (1 : Rat) ≤ count := by exact_mod_cast hCount
  have hPlace : 0 ≤ padding + first * (size + gap) := by positivity
  have hExtent : 0 ≤ count * size + (count - 1) * gap :=
    add_nonneg (by positivity) (mul_nonneg (by linarith) hGap)
  have hReach := add_gap_le padding hSize hGap h
  have hNext : 0 ≤ padding + next * (size + gap) := by linarith
  unfold pixelAt pixelSpan
  rcases hSlack with rfl | ⟨rfl, hHalf⟩
  · calc
      _ ≤ Exact.nearestWhole (padding + next * (size + gap) + 1 / 2) :=
        Exact.nearestWhole_add_le hPlace hExtent (by linarith)
      _ ≤ _ := Exact.nearestWhole_add_half_le hNext
  · rw [add_zero]
    exact Exact.nearestWhole_add_le hPlace hExtent (by linarith)

/-- The columns of a container share what padding and gaps leave of its width. -/
theorem columnWidth?_of_finite {g : Grid Exact} {padding gap width height size : Rat}
    (hPadding : g.padding = .finite padding) (hGap : g.gap = .finite gap) (hColumns : 0 < g.columns)
    (hWidth : 0 < width) (hHeight : 0 < height) (hSize : 0 < size)
    (hShare : width = 2 * padding + (g.columns - 1) * gap + g.columns * size) :
    g.columnWidth? ⟨.finite width, .finite height⟩ = some (.finite size) := by
  have hCount : (g.columns : Rat) ≠ 0 := by exact_mod_cast hColumns.ne'
  have hValid : (⟨.finite width, .finite height⟩ : Container Exact).isValid = true := by
    simp [Container.isValid, Exact.zero_eq_finite, hWidth, hHeight]
  have hValue : (Exact.finite width - 2 * g.padding - (Number.ofNat g.columns - 1) * g.gap) /
      Number.ofNat g.columns = Exact.finite size := by
    rw [hPadding, hGap]
    show (Exact.finite width - .finite 2 * .finite padding -
      (.finite g.columns - .finite 1) * .finite gap) / .finite g.columns = _
    rw [Exact.finite_mul, Exact.finite_sub, Exact.finite_sub, Exact.finite_mul, Exact.finite_sub,
      Exact.finite_div _ hCount, hShare]
    congr 1
    field_simp
    ring
  simp only [columnWidth?, hValid, hValue]
  simp [hColumns.ne', Exact.zero_eq_finite, hSize]

/-- A column has its share of the width, and only if that is finite and not zero. -/
theorem of_columnWidth? {K : Type} [Number K] {g : Grid K} {c : Container K} {width : K}
    (h : g.columnWidth? c = some width) :
    width = (c.width - 2 * g.padding - (Number.ofNat g.columns - 1) * g.gap) /
        Number.ofNat g.columns ∧
      Number.isFinite width = true ∧ ¬ width ≤ 0 := by
  simp only [columnWidth?] at h
  split at h
  · cases h
  · split at h
    · cases h
    · next hWidth =>
      cases h
      simpa using hWidth

/-- Only inside a finite padding is there room for columns. -/
theorem exists_of_columnWidth? {g : Grid Exact} {c : Container Exact} {width : Exact}
    (h : g.columnWidth? c = some width) (hPadding : 0 ≤ g.padding) :
    ∃ padding size : Rat, (g.padding = .finite padding ∧ 0 ≤ padding) ∧
      width = .finite size ∧ 0 < size := by
  obtain ⟨hShare, hFinite, hPositive⟩ := of_columnWidth? h
  obtain ⟨size, rfl⟩ := Exact.exists_finite_of_isFinite hFinite
  have hInside := (Exact.isFinite_of_sub (Exact.isFinite_of_div rfl (hShare ▸ hFinite))).1
  have hTwice := (Exact.isFinite_of_sub hInside).2
  obtain ⟨p, hp⟩ := Exact.exists_finite_of_isFinite (Exact.isFinite_of_mul hTwice)
  rw [Exact.zero_eq_finite, Exact.finite_le, not_le] at hPositive
  rw [hp, Exact.zero_eq_finite, Exact.finite_le] at hPadding
  exact ⟨p, size, ⟨hp, hPadding⟩, rfl, hPositive⟩

/-- A rectangle of cells in pixels, each of its numbers rounded on its own. -/
theorem toPixels_whole {g : Grid Exact} {padding rowHeight gap width : Rat}
    (hPadding : g.padding = .finite padding) (hHeight : g.rowHeight = .finite rowHeight)
    (hGap : g.gap = .finite gap) (x y : Int) {w h : Int} (hw : 1 ≤ w) (hh : 1 ≤ h) :
    g.toPixels (.finite width) ⟨.whole x, .whole y, .whole w, .whole h⟩ =
      ⟨.whole (pixelAt padding (width + gap) x), .whole (pixelAt padding (rowHeight + gap) y),
        .whole (pixelSpan width gap w), .whole (pixelSpan rowHeight gap h)⟩ := by
  have hExtent (size : Rat) {count : Int} (hCount : 1 ≤ count) :
      g.extent (.finite size) (.whole count) = .whole (pixelSpan size gap count) := by
    rw [extent, hGap, Exact.zero_eq_whole, Exact.one_eq_whole, Exact.whole_sub,
      Exact.atLeast_whole, max_eq_right (by omega), pixelSpan, ← Exact.round_finite]
    simp [Exact.whole_def]
  rw [toPixels, hPadding, hHeight, hGap, hExtent _ hw, hExtent _ hh]
  rfl

end Grid
end NoteBoard
