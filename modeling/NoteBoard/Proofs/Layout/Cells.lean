import NoteBoard.Proofs.Geometry.Cells
import NoteBoard.Proofs.Layout.Pixels

/-! Layouts in cells turned into pixels and back. Nothing is lost as long as every cell, with the
gap behind it, is larger than a pixel. -/
namespace NoteBoard
namespace Layout

variable {K : Type}

/-- Widgets that were moved are as before once each has its place back. -/
theorem mapM_moved {place : Rect K → Rect K} {back : Rect K → Option (Rect K)}
    {widgets : List (Widget K)} (hBack : ∀ w ∈ widgets, back (place w.rect) = some w.rect) :
    ((widgets.map fun w => w.withRect (place w.rect)).mapM fun w =>
      (back w.rect).map w.withRect) = some widgets := by
  induction widgets with
  | nil => rfl
  | cons w rest ih =>
      obtain ⟨hFirst, hRest⟩ := List.forall_mem_cons.1 hBack
      rw [List.map_cons, List.mapM_cons, ih hRest, Widget.rect_withRect, hFirst]
      rfl

theorem toCells_of_columnWidth [Number K] {l : Layout K} {padding width : K} {c : Container K}
    {widgets : List (Widget K)} (hPixels : l.unit = .pixels)
    (hWidth : l.columnWidth padding c = .ok width)
    (hCells : (l.widgets.mapM fun w => ((l.grid padding).toCells? width w.rect).map w.withRect) =
      some widgets) :
    l.toCells padding c = .ok { l with unit := .cells, widgets := widgets } := by
  simp only [toCells, hPixels, hWidth, bind, Except.bind, hCells]
  rfl

/-- The cells of a layout are whole and within the columns, so each is found again. -/
theorem IsRepaired.exists_toPixels_toCells {l : Layout Exact} (h : l.IsRepaired)
    (hCells : l.unit = .cells) {padding width : Exact} {c : Container Exact} (hPadding : 0 ≤ padding)
    (hWidth : l.columnWidth padding c = .ok width) (hColumnPitch : 1 < width + l.gap)
    (hRowPitch : 1 < l.rowHeight + l.gap) :
    ∃ p, l.toPixels padding c = .ok p ∧ p.unit = .pixels ∧ p.toCells padding c = .ok l := by
  obtain ⟨p, rowHeight, gap, size, hSpace, hHeight, hGap, rfl, hSize⟩ :=
    h.exists_finite hPadding hWidth
  rw [hGap.1, Exact.finite_add, Exact.one_eq_finite, Exact.finite_lt] at hColumnPitch
  rw [hHeight.1, hGap.1, Exact.finite_add, Exact.one_eq_finite, Exact.finite_lt] at hRowPitch
  have hBack : ∀ w ∈ l.widgets, (l.grid padding).toCells? (.finite size)
      ((l.grid padding).toPixels (.finite size) w.rect) = some w.rect := by
    intro w hw
    exact Grid.toCells?_toPixels hSpace hHeight hGap hSize hColumnPitch hRowPitch
      (hCells ▸ h.fits w hw)
  refine ⟨_, toPixels_of_columnWidth hCells hWidth, rfl, ?_⟩
  refine Eq.trans (toCells_of_columnWidth rfl hWidth (mapM_moved hBack)) ?_
  rw [← hCells]

/-- A tidied layout survives the pixels of any container with room for its columns: rectangles,
measures, ids, order and settings are as before. -/
theorem tidied_toPixels_toCells [LabelSource] {raw l : Layout Exact} {limit : Nat}
    {labels labels' : Labels} (hTidy : raw.tidy limit labels = .ok (l, labels'))
    (hCells : l.unit = .cells) {padding width : Exact} {c : Container Exact} (hPadding : 0 ≤ padding)
    (hWidth : l.columnWidth padding c = .ok width) (hColumnPitch : 1 < width + l.gap)
    (hRowPitch : 1 < l.rowHeight + l.gap) :
    ∃ p, l.toPixels padding c = .ok p ∧ p.unit = .pixels ∧ p.toCells padding c = .ok l :=
  (tidy_isRepaired hTidy).exists_toPixels_toCells hCells hPadding hWidth hColumnPitch hRowPitch

/-- Two widgets that overlap in pixels are side by side again in cells. -/
theorem neighboursOver_toPixels_toCells :
    (neighboursOver 0).tidy 1 ⟨0⟩ = .ok (neighboursOver 0, ⟨0⟩) ∧
    ((1 : Exact) < .finite (81 / 2) + .finite 0 ∧ (1 : Exact) < .finite 80 + .finite 0) ∧
    ∃ p, (neighboursOver 0).toPixels (.finite (1 / 2)) ⟨.finite 82, .finite 80⟩ = .ok p ∧
      p.unit = .pixels ∧
      p.toCells (.finite (1 / 2)) ⟨.finite 82, .finite 80⟩ = .ok (neighboursOver 0) := by
  have hTidy := tidy_of_isTidy (neighboursOver_isTidy (le_refl 0)) 1 ⟨0⟩
  have hWidth := columnWidth_neighboursOver (le_refl (0 : Rat))
  rw [add_zero] at hWidth
  have hColumnPitch : (1 : Exact) < .finite (81 / 2) + .finite 0 := by decide +kernel
  have hRowPitch : (1 : Exact) < .finite 80 + .finite 0 := by decide +kernel
  exact ⟨hTidy, ⟨hColumnPitch, hRowPitch⟩,
    tidied_toPixels_toCells hTidy rfl (by decide +kernel) hWidth hColumnPitch hRowPitch⟩

end Layout
end NoteBoard
