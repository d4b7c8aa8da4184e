import NoteBoard.Proofs.Geometry.Pixels

/-! Rectangles of whole pixels back in the cells they came from. Each pixel is half of one away from
the place or the extent it was rounded from, which is less than half a cell. -/
namespace NoteBoard

namespace Exact

/-- A number is rounded by half a unit at most. -/
theorem nearestWhole_near {a : Rat} (h : 0 ≤ a) :
    a - 1 / 2 ≤ nearestWhole a ∧ (nearestWhole a : Rat) ≤ a + 1 / 2 := by
  rw [nearestWhole_of_nonneg h]
  have hNext := Rat.lt_floor_add_one (a + 1 / 2)
  push_cast at hNext
  exact ⟨by linarith, Rat.floor_le _⟩

/-- A number is rounded to a whole one that is less than half a unit away, below zero too. -/
theorem nearestWhole_eq_of_near {a : Rat} {n : Int} (hLow : n - 1 / 2 < a)
    (hHigh : a < n + 1 / 2) : nearestWhole a = n := by
  by_cases h : 0 ≤ a
  · exact nearestWhole_eq h hLow.le hHigh
  · have hFloor : ⌊1 / 2 - a⌋ = -n := by
      rw [Int.floor_eq_iff]
      push_cast
      exact ⟨by linarith, by linarith⟩
    rw [nearestWhole, if_pos (not_le.1 h)]
    exact neg_eq_iff_eq_neg.2 hFloor

/-- Half a pixel is less than half a cell. -/
theorem nearestWhole_div_eq {a pitch : Rat} {n : Int} (hPitch : 1 < pitch)
    (hNear : n * pitch - 1 / 2 ≤ a ∧ a ≤ n * pitch + 1 / 2) : nearestWhole (a / pitch) = n := by
  have hPositive : 0 < pitch := by linarith
  apply nearestWhole_eq_of_near
  · rw [lt_div_iff₀ hPositive]
    linarith
  · rw [div_lt_iff₀ hPositive]
    linarith

end Exact

namespace Grid

/-- The cell at whose pixel something begins. -/
theorem nearestWhole_pixelAt {padding pitch : Rat} (hPadding : 0 ≤ padding) (hPitch : 1 < pitch)
    {cell : Int} (hCell : 0 ≤ cell) :
    Exact.nearestWhole ((pixelAt padding pitch cell - padding) / pitch) = cell := by
  have hBegin : (0 : Rat) ≤ cell := by exact_mod_cast hCell
  have hPlace : 0 ≤ padding + cell * pitch :=
    add_nonneg hPadding (mul_nonneg hBegin (by linarith))
  obtain ⟨hLow, hHigh⟩ := Exact.nearestWhole_near hPlace
  refine Exact.nearestWhole_div_eq hPitch ⟨?_, ?_⟩
  · rw [pixelAt]
    linarith
  · rw [pixelAt]
    linarith

/-- The number of cells that take some pixels, once the gap behind the last one is added. -/
theorem nearestWhole_pixelSpan {size gap : Rat} (hSize : 0 ≤ size) (hGap : 0 ≤ gap)
    (hPitch : 1 < size + gap) {count : Int} (hCount : 1 ≤ count) :
    Exact.nearestWhole ((pixelSpan size gap count + gap) / (size + gap)) = count := by
  have hMany : (1 : Rat) ≤ count := by exact_mod_cast hCount
  have hExtent : 0 ≤ count * size + (count - 1) * gap :=
    add_nonneg (mul_nonneg (by linarith) hSize) (mul_nonneg (by linarith) hGap)
  obtain ⟨hLow, hHigh⟩ := Exact.nearestWhole_near hExtent
  refine Exact.nearestWhole_div_eq hPitch ⟨?_, ?_⟩
  · rw [pixelSpan]
    linarith
  · rw [pixelSpan]
    linarith

variable {g : Grid Exact} {padding rowHeight gap width : Rat}

/-- What lies within the columns is found there again after a rectangle of cells has been turned
into pixels. -/
theorem toCells?_toPixels (hPadding : g.padding = .finite padding ∧ 0 ≤ padding)
    (hHeight : g.rowHeight = .finite rowHeight ∧ 0 < rowHeight)
    (hGap : g.gap = .finite gap ∧ 0 ≤ gap) (hWidth : 0 < width) (hColumnPitch : 1 < width + gap)
    (hRowPitch : 1 < rowHeight + gap) {r : Rect Exact} (hr : r.Fits .cells g.columns) :
    g.toCells? (.finite width) (g.toPixels (.finite width) r) = some r := by
  obtain ⟨x, y, w, h, rfl, hx, hy, hw, hh, hRight⟩ := hr
  have hRight : x + w ≤ g.columns := hRight rfl
  -- Divided by a pitch, places and extents are rounded to the cells they came from.
  have hPlace {size : Rat} (hPitch : 1 < size + gap) {cell : Int} (hCell : 0 ≤ cell) :
      Number.round ((Exact.whole (pixelAt padding (size + gap) cell) - .finite padding) /
        (.finite size + .finite gap)) = .whole cell := by
    rw [Exact.whole_def, Exact.finite_sub, Exact.finite_add, Exact.finite_div _ (by linarith),
      Exact.round_finite, nearestWhole_pixelAt hPadding.2 hPitch hCell]
  have hSpan {size : Rat} (hSize : 0 < size) (hPitch : 1 < size + gap) {count : Int}
      (hCount : 1 ≤ count) :
      Number.round ((Exact.whole (pixelSpan size gap count) + .finite gap) /
        (.finite size + .finite gap)) = .whole count := by
    rw [Exact.whole_def, Exact.finite_add, Exact.finite_add, Exact.finite_div _ (by linarith),
      Exact.round_finite, nearestWhole_pixelSpan hSize.le hGap.2 hPitch hCount]
  have hMost : (Number.ofNat (max g.columns 1) : Exact) = .whole g.columns := by
    rw [Exact.ofNat_eq_whole, max_eq_left (by omega)]
  have hNarrow : max 1 (min (g.columns : Int) w) = w := by omega
  have hInside : max 0 (min (g.columns - w : Int) x) = x := by omega
  rw [toPixels_whole hPadding.1 hHeight.1 hGap.1 x y hw hh]
  simp only [toCells?, hMost]
  rw [hPadding.1, hHeight.1, hGap.1, hSpan hWidth hColumnPitch hw, hPlace hColumnPitch hx,
    hPlace hRowPitch hy, hSpan hHeight.2 hRowPitch hh, Exact.one_eq_whole, Exact.zero_eq_whole,
    Exact.clamp?_whole (by omega), hNarrow, Option.bind_eq_bind, Option.bind_some, Exact.whole_sub,
    Exact.clamp?_whole (by omega), hInside, Option.bind_some, Exact.atLeast_whole,
    Exact.atLeast_whole, max_eq_right hy, max_eq_right hh]
  rfl

end Grid
end NoteBoard
