import NoteBoard.Layout.Convert
import NoteBoard.Proofs.Geometry.Pixels
import NoteBoard.Proofs.Layout.Tidy

/-! Tidy layouts turned into pixels. Widgets that were next to each other overlap by one pixel at
most, and whether they can overlap at all depends on the gap. -/
namespace NoteBoard

namespace Rect

/-- Two rectangles that overlap by no more than some pixels in one of the directions. -/
def ApartBut (slack : Int) (a b : Rect Exact) : Prop :=
  a.right ≤ b.x + .whole slack ∨ b.right ≤ a.x + .whole slack ∨
    a.bottom ≤ b.y + .whole slack ∨ b.bottom ≤ a.y + .whole slack

/-- Without slack, rectangles are apart. -/
theorem ApartBut.apart {a b : Rect Exact} (h : a.ApartBut 0 b) : a.Apart b := by
  rintro ⟨hLeft, hRight, hAbove, hBelow⟩
  simp only [ApartBut, Exact.add_whole_zero] at h
  rcases h with h | h | h | h
  · exact Exact.not_lt_of_le h hRight
  · exact Exact.not_lt_of_le h hLeft
  · exact Exact.not_lt_of_le h hBelow
  · exact Exact.not_lt_of_le h hAbove

section Whole

variable {x y w h x' y' w' h' : Int}

theorem apartBut_whole_iff {slack : Int} :
    ApartBut slack ⟨.whole x, .whole y, .whole w, .whole h⟩
        ⟨.whole x', .whole y', .whole w', .whole h'⟩ ↔
      x + w ≤ x' + slack ∨ x' + w' ≤ x + slack ∨ y + h ≤ y' + slack ∨ y' + h' ≤ y + slack := by
  simp only [ApartBut, right, bottom, Exact.whole_add, Exact.whole_le]

theorem apart_whole_iff :
    Apart (⟨.whole x, .whole y, .whole w, .whole h⟩ : Rect Exact)
        ⟨.whole x', .whole y', .whole w', .whole h'⟩ ↔
      x + w ≤ x' ∨ x' + w' ≤ x ∨ y + h ≤ y' ∨ y' + h' ≤ y := by
  simp only [Apart, Overlaps, right, bottom, Exact.whole_add, Exact.whole_lt]
  omega

end Whole

/-- Cells in different places are apart in pixels, but for one pixel if the gap is less than a
half. -/
theorem Fits.toPixels_apartBut {unit : Coordinates} {columns : Nat} {a b : Rect Exact}
    (ha : a.Fits unit columns) (hb : b.Fits unit columns) (hApart : a.Apart b) {g : Grid Exact}
    {padding rowHeight gap width : Rat} (hPadding : g.padding = .finite padding ∧ 0 ≤ padding)
    (hHeight : g.rowHeight = .finite rowHeight ∧ 0 < rowHeight)
    (hGap : g.gap = .finite gap ∧ 0 ≤ gap) (hWidth : 0 < width) {slack : Int}
    (hSlack : slack = 1 ∨ slack = 0 ∧ 1 / 2 ≤ gap) :
    (g.toPixels (.finite width) a).ApartBut slack (g.toPixels (.finite width) b) := by
  obtain ⟨x, y, w, h, rfl, hx, hy, hw, hh, -⟩ := ha
  obtain ⟨x', y', w', h', rfl, hx', hy', hw', hh', -⟩ := hb
  rw [Grid.toPixels_whole hPadding.1 hHeight.1 hGap.1 x y hw hh,
    Grid.toPixels_whole hPadding.1 hHeight.1 hGap.1 x' y' hw' hh', apartBut_whole_iff]
  have hReach {size : Rat} (hSize : 0 < size) {first count next : Int} (hFirst : 0 ≤ first)
      (hCount : 1 ≤ count) (hNext : first + count ≤ next) :=
    Grid.pixelAt_add_pixelSpan_le hPadding.2 hSize hGap.2 hFirst hCount hNext hSlack
  rcases apart_whole_iff.1 hApart with hLeft | hRight | hAbove | hBelow
  · exact .inl (hReach hWidth hx hw hLeft)
  · exact .inr (.inl (hReach hWidth hx' hw' hRight))
  · exact .inr (.inr (.inl (hReach hHeight.2 hy hh hAbove)))
  · exact .inr (.inr (.inr (hReach hHeight.2 hy' hh' hBelow)))

end Rect

namespace Layout

/-- A tidy layout in cells, and a container with room for its columns inside a padding. -/
structure IsMeasured (l : Layout Exact) (padding : Exact) (c : Container Exact) : Prop where
  tidy : l.IsTidy
  cells : l.unit = .cells
  padding_nonneg : 0 ≤ padding
  room : ∃ width, l.columnWidth padding c = .ok width

theorem columnWidth_eq_ok_iff {K : Type} [Number K] {l : Layout K} {padding width : K}
    {c : Container K} :
    l.columnWidth padding c = .ok width ↔ (l.grid padding).columnWidth? c = some width := by
  unfold columnWidth
  split
  · next h => simp [h]
  · next h => simp [h]

theorem toPixels_of_columnWidth {K : Type} [Number K] {l : Layout K} {padding width : K}
    {c : Container K} (hCells : l.unit = .cells) (hWidth : l.columnWidth padding c = .ok width) :
    l.toPixels padding c = .ok { l with
      unit := .pixels
      widgets := l.widgets.map fun w => w.withRect ((l.grid padding).toPixels width w.rect) } := by
  rw [toPixels, hCells, hWidth]
  rfl

/-- The numbers that a repaired layout is turned into pixels by are finite, and none is negative. -/
theorem IsRepaired.exists_finite {l : Layout Exact} (h : l.IsRepaired) {padding width : Exact}
    {c : Container Exact} (hPadding : 0 ≤ padding) (hWidth : l.columnWidth padding c = .ok width) :
    ∃ p rowHeight gap size : Rat,
      (padding = .finite p ∧ 0 ≤ p) ∧ (l.rowHeight = .finite rowHeight ∧ 0 < rowHeight) ∧
        (l.gap = .finite gap ∧ 0 ≤ gap) ∧ width = .finite size ∧ 0 < size := by
  obtain ⟨p, size, hSpace, hSize⟩ :=
    Grid.exists_of_columnWidth? (columnWidth_eq_ok_iff.1 hWidth) hPadding
  obtain ⟨hHeightFinite, hHeight⟩ := h.rowHeight_pos
  obtain ⟨rowHeight, hRow⟩ := Exact.exists_finite_of_isFinite hHeightFinite
  obtain ⟨hGapFinite, hGap⟩ := h.gap_nonneg
  obtain ⟨gap, hBetween⟩ := Exact.exists_finite_of_isFinite hGapFinite
  rw [hRow, Exact.zero_eq_finite, Exact.finite_lt] at hHeight
  rw [hBetween, Exact.zero_eq_finite, Exact.finite_le] at hGap
  exact ⟨p, rowHeight, gap, size, hSpace, ⟨hRow, hHeight⟩, ⟨hBetween, hGap⟩, hSize⟩

/-- In pixels a measured layout has the widgets it had, apart but for the slack there may be. -/
theorem IsMeasured.toPixels_apartBut {l : Layout Exact} {padding : Exact} {c : Container Exact}
    (h : l.IsMeasured padding c) {slack : Int}
    (hSlack : slack = 1 ∨ slack = 0 ∧ .finite (1 / 2) ≤ l.gap) :
    ∃ l', l.toPixels padding c = .ok l' ∧
      (l'.widgets.map Widget.rect).Pairwise (Rect.ApartBut slack) := by
  obtain ⟨columnWidth, hWidth⟩ := h.room
  obtain ⟨p, rowHeight, gap, width, hPadding, hHeight, hGap, rfl, hSize⟩ :=
    h.tidy.exists_finite h.padding_nonneg hWidth
  rw [hGap.1, Exact.finite_le] at hSlack
  refine ⟨_, toPixels_of_columnWidth h.cells hWidth, ?_⟩
  have hApart := overlapping_eq_false_iff.1 h.tidy.apart
  rw [List.map_map, List.pairwise_map]
  refine (List.pairwise_map.1 hApart).imp_of_mem fun {a b} ha hb hAB => ?_
  exact (h.tidy.fits a ha).toPixels_apartBut (h.tidy.fits b hb) hAB hPadding hHeight hGap hSize
    hSlack

/-- Two widgets side by side. -/
def neighbours : List (Widget Exact) :=
  [.of "a" (.new .stats) ⟨0, 0, 1, 1⟩, .of "b" (.new .stats) ⟨1, 0, 1, 1⟩]

/-- Two columns with a widget in each, and a gap between them. -/
def neighboursOver (gap : Rat) : Layout Exact :=
  ⟨2, .finite 80, .finite gap, .cells, neighbours⟩

theorem neighboursOver_isTidy {gap : Rat} (hGap : 0 ≤ gap) : (neighboursOver gap).IsTidy where
  columns_pos := Nat.two_pos
  rowHeight_pos := ⟨rfl, (by decide +kernel : (0 : Exact) < .finite 80)⟩
  gap_nonneg := ⟨rfl, by rwa [neighboursOver, Exact.zero_eq_finite, Exact.finite_le]⟩
  ids_nodup := (by decide : (neighbours.map (·.id)).Nodup)
  ids_nonblank := (by decide : ∀ id ∈ neighbours.map (·.id), Text.trim id ≠ "")
  fits := by
    have hFirst : (⟨0, 0, 1, 1⟩ : Rect Exact).Fits .cells 2 :=
      ⟨0, 0, 1, 1, rfl, by decide, by decide, by decide, by decide, by decide⟩
    have hSecond : (⟨1, 0, 1, 1⟩ : Rect Exact).Fits .cells 2 :=
      ⟨1, 0, 1, 1, rfl, by decide, by decide, by decide, by decide, by decide⟩
    exact List.forall_mem_cons.2 ⟨hFirst, List.forall_mem_singleton.2 hSecond⟩
  apart := (by decide +kernel : overlapping (neighbours.map Widget.rect) = false)

theorem columnWidth_neighboursOver {gap : Rat} (hGap : 0 ≤ gap) :
    (neighboursOver gap).columnWidth (.finite (1 / 2)) ⟨.finite (82 + gap), .finite 80⟩ =
      .ok (.finite (81 / 2)) := by
  rw [columnWidth_eq_ok_iff]
  apply Grid.columnWidth?_of_finite rfl rfl Nat.two_pos (by linarith) (by norm_num) (by norm_num)
  simp only [grid, neighboursOver]
  norm_num
  ring

theorem neighboursOver_isMeasured {gap : Rat} (hGap : 0 ≤ gap) :
    (neighboursOver gap).IsMeasured (.finite (1 / 2)) ⟨.finite (82 + gap), .finite 80⟩ where
  tidy := neighboursOver_isTidy hGap
  cells := rfl
  padding_nonneg := by
    rw [Exact.zero_eq_finite, Exact.finite_le]
    norm_num
  room := ⟨_, columnWidth_neighboursOver hGap⟩

/-- With less than half a pixel between them, the first widget ends where the second one has begun
already. -/
theorem toPixels_neighboursOver {gap : Rat} (hGap : 0 ≤ gap) (hLess : gap < 1 / 2)
    {l' : Layout Exact} (h : (neighboursOver gap).toPixels (.finite (1 / 2))
      ⟨.finite (82 + gap), .finite 80⟩ = .ok l') : l'.widgets.map Widget.rect =
        [⟨.whole 1, .whole 1, .whole 41, .whole 80⟩, ⟨.whole 41, .whole 1, .whole 41, .whole 80⟩] := by
  rw [toPixels_of_columnWidth rfl (columnWidth_neighboursOver hGap)] at h
  cases h
  let g : Grid Exact := (neighboursOver gap).grid (.finite (1 / 2))
  have hFirst : Grid.pixelAt (1 / 2) (81 / 2 + gap) 0 = 1 :=
    Exact.nearestWhole_eq (by norm_num) (by norm_num) (by norm_num)
  have hSecond : Grid.pixelAt (1 / 2) (81 / 2 + gap) 1 = 41 :=
    Exact.nearestWhole_eq (by push_cast; linarith) (by push_cast; linarith) (by push_cast; linarith)
  have hTop : Grid.pixelAt (1 / 2) (80 + gap) 0 = 1 :=
    Exact.nearestWhole_eq (by norm_num) (by norm_num) (by norm_num)
  have hWidth : Grid.pixelSpan (81 / 2) gap 1 = 41 :=
    Exact.nearestWhole_eq (by norm_num) (by norm_num) (by norm_num)
  have hHeight : Grid.pixelSpan 80 gap 1 = 80 :=
    Exact.nearestWhole_eq (by norm_num) (by norm_num) (by norm_num)
  have hCell (x : Int) : g.toPixels (.finite (81 / 2)) ⟨.whole x, .whole 0, .whole 1, .whole 1⟩ =
      ⟨.whole (Grid.pixelAt (1 / 2) (81 / 2 + gap) x), .whole 1, .whole 41, .whole 80⟩ := by
    rw [Grid.toPixels_whole rfl rfl rfl x 0 le_rfl le_rfl, hTop, hWidth, hHeight]
  change [g.toPixels (.finite (81 / 2)) ⟨.whole 0, .whole 0, .whole 1, .whole 1⟩,
    g.toPixels (.finite (81 / 2)) ⟨.whole 1, .whole 0, .whole 1, .whole 1⟩] = _
  rw [hCell, hCell, hFirst, hSecond]

/-- Widgets in cells are apart in pixels too, whatever their places, the padding and the container,
if the gap is half a pixel or more, and only then. With a smaller gap they overlap by one pixel at
most. -/
theorem toPixels_apart_iff {gap : Exact} (hGap : Number.isFinite gap = true ∧ 0 ≤ gap) :
    (∀ l padding c, IsMeasured l padding c → l.gap = gap → ∃ l', l.toPixels padding c = .ok l' ∧
      (l'.widgets.map Widget.rect).Pairwise (Rect.ApartBut 1)) ∧
    ((∀ l padding c, IsMeasured l padding c → l.gap = gap → ∃ l', l.toPixels padding c = .ok l' ∧
      l'.isOverlapping = false) ↔ .finite (1 / 2) ≤ gap) := by
  refine ⟨fun l padding c h _ => h.toPixels_apartBut (.inl rfl), ?_, ?_⟩
  · intro hAll
    obtain ⟨hFinite, hNonneg⟩ := hGap
    obtain ⟨g, rfl⟩ := Exact.exists_finite_of_isFinite hFinite
    rw [Exact.zero_eq_finite, Exact.finite_le] at hNonneg
    obtain ⟨l', hPixels, hApart⟩ := hAll _ _ _ (neighboursOver_isMeasured hNonneg) rfl
    rw [Exact.finite_le]
    by_contra hLess
    rw [isOverlapping, toPixels_neighboursOver hNonneg (not_le.1 hLess) hPixels] at hApart
    revert hApart
    decide +kernel
  · rintro hHalf l padding c h rfl
    obtain ⟨l', hPixels, hApart⟩ := h.toPixels_apartBut (.inr ⟨rfl, hHalf⟩)
    exact ⟨l', hPixels, overlapping_eq_false_iff.2 (hApart.imp Rect.ApartBut.apart)⟩

/-- Without a gap the two widgets share a column of pixels, and with the usual one they do not. -/
theorem neighboursOver_nearly_apart :
    (neighboursOver 0).IsMeasured (.finite (1 / 2)) ⟨.finite 82, .finite 80⟩ ∧
    (∃ l', (neighboursOver 0).toPixels (.finite (1 / 2)) ⟨.finite 82, .finite 80⟩ = .ok l' ∧
      (l'.widgets.map Widget.rect).Pairwise (Rect.ApartBut 1) ∧ l'.isOverlapping = true) ∧
    ∃ l', (neighboursOver 16).toPixels (.finite (1 / 2)) ⟨.finite 98, .finite 80⟩ = .ok l' ∧
      l'.isOverlapping = false := by
  have hNone : Number.isFinite (.finite 0 : Exact) = true ∧ (0 : Exact) ≤ .finite 0 :=
    ⟨rfl, by decide +kernel⟩
  have hUsual : Number.isFinite (.finite 16 : Exact) = true ∧ (0 : Exact) ≤ .finite 16 :=
    ⟨rfl, by decide +kernel⟩
  have hMeasured : (neighboursOver 0).IsMeasured (.finite (1 / 2)) ⟨.finite 82, .finite 80⟩ := by
    simpa using neighboursOver_isMeasured (le_refl (0 : Rat))
  have hMeasured' : (neighboursOver 16).IsMeasured (.finite (1 / 2)) ⟨.finite 98, .finite 80⟩ := by
    have hWider := neighboursOver_isMeasured (show (0 : Rat) ≤ 16 by norm_num)
    norm_num at hWider
    exact hWider
  obtain ⟨l', hPixels, hNearly⟩ := (toPixels_apart_iff hNone).1 _ _ _ hMeasured rfl
  have hRun : (match (neighboursOver 0).toPixels (.finite (1 / 2)) ⟨.finite 82, .finite 80⟩ with
      | .ok l' => l'.isOverlapping
      | .error _ => false) = true := by decide +kernel
  rw [hPixels] at hRun
  exact ⟨hMeasured, ⟨l', hPixels, hNearly, hRun⟩,
    (toPixels_apart_iff hUsual).2.2 (by decide +kernel) _ _ _ hMeasured' rfl⟩

end Layout
end NoteBoard
