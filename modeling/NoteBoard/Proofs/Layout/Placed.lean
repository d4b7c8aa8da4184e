import NoteBoard.Proofs.Layout.Tidied

/-! Where a widget that is added goes: below all others, which stay where they are whatever its
size and its id are. -/
namespace NoteBoard

theorem Exact.max_whole (m n : Int) : Number.max (whole m) (whole n) = whole (max m n) := by
  have hNumber : Number.isNaN (whole m) = false := rfl
  simp only [Number.max, hNumber, whole_lt, Bool.false_eq_true, if_false]
  split
  · next h => rw [max_eq_right h.le]
  · next h => rw [max_eq_left (not_lt.1 h)]

namespace Layout

/-- The largest of whole numbers is whole, and no less than any of them. -/
theorem exists_foldl_max {edges : List Exact} (h : ∀ e ∈ edges, ∃ n, e = .whole n) (start : Int) :
    ∃ n, edges.foldl Number.max (.whole start) = .whole n ∧ start ≤ n ∧
      ∀ e ∈ edges, e ≤ .whole n := by
  induction edges generalizing start with
  | nil => exact ⟨start, rfl, le_rfl, by simp⟩
  | cons e rest ih =>
      obtain ⟨⟨m, rfl⟩, hRest⟩ := List.forall_mem_cons.1 h
      obtain ⟨n, hMax, hStart, hAll⟩ := ih hRest (max start m)
      rw [List.foldl_cons, Exact.max_whole]
      exact ⟨n, hMax, le_of_max_le_left hStart,
        List.forall_mem_cons.2 ⟨Exact.whole_le.2 (le_of_max_le_right hStart), hAll⟩⟩

/-- The first row below all widgets of a repaired layout is a whole one, and they do end there. -/
theorem IsRepaired.exists_nextRow {l : Layout Exact} (h : l.IsRepaired) :
    ∃ n : Int, l.nextRow = .whole n ∧ 0 ≤ n ∧ ∀ w ∈ l.widgets, w.rect.bottom ≤ .whole n := by
  have hBottom : ∀ e ∈ l.widgets.map fun w => w.rect.bottom, ∃ n, e = .whole n := by
    intro e he
    obtain ⟨w, hw, rfl⟩ := List.mem_map.1 he
    obtain ⟨x, y, width, height, hRect, -⟩ := h.fits w hw
    exact ⟨y + height, by rw [hRect, Rect.bottom, Exact.whole_add]⟩
  have hFinite : (l.widgets.map fun w => w.rect.bottom).filter Number.isFinite =
      l.widgets.map fun w => w.rect.bottom := by
    rw [List.filter_eq_self]
    intro e he
    obtain ⟨n, rfl⟩ := hBottom e he
    rfl
  obtain ⟨n, hMax, hStart, hAll⟩ := exists_foldl_max hBottom 0
  refine ⟨n, ?_, hStart, fun w hw => hAll _ (List.mem_map_of_mem hw)⟩
  rw [nextRow, hFinite, Exact.zero_eq_whole, hMax]

namespace IsTidy

variable {l : Layout Exact} (h : l.IsTidy)

include h

/-- What begins at the first row below all widgets overlaps none of them, whatever its width and
height are. -/
theorem append_not_overlapping {w : Widget Exact} (hRow : w.y = l.nextRow) :
    { l with widgets := l.widgets ++ [w] }.isOverlapping = false := by
  obtain ⟨n, hNext, -, hAll⟩ := h.exists_nextRow
  rw [isOverlapping, overlapping_eq_false_iff, List.map_append, List.pairwise_append]
  refine ⟨overlapping_eq_false_iff.1 h.apart, List.pairwise_singleton _ _, ?_⟩
  intro r hr other hOther
  obtain ⟨v, hv, rfl⟩ := List.mem_map.1 hr
  obtain rfl : other = w.rect := by simpa using hOther
  intro hOverlap
  have hBelow : w.y < v.rect.bottom := hOverlap.2.2.2
  rw [hRow, hNext] at hBelow
  exact Exact.not_lt_of_le (hAll v hv) hBelow

/-- So nothing is pushed when a widget is placed, not even if its id is that of another one, which
is then the one that is pinned. -/
theorem place_eq (w : Widget Exact) (limit : Nat) : l.place w limit =
    { l with widgets := l.widgets ++ [{ w with x := 0, y := l.nextRow }] } :=
  settle_of_not_overlapping (h.append_not_overlapping rfl) (some w.id) limit

end IsTidy

/-- A widget at the left of the first row below all others keeps its corner when its rectangle is
tidied, on the grid of a repaired layout. -/
theorem IsRepaired.exists_tidyRect?_nextRow {l : Layout Exact} (h : l.IsRepaired)
    {w : Widget Exact} (hx : w.x = 0) (hy : w.y = l.nextRow) :
    ∃ r, l.tidyRect? w = some r ∧ r.x = 0 ∧ r.y = l.nextRow := by
  obtain ⟨n, hNext, hn, -⟩ := h.exists_nextRow
  obtain ⟨hFirst, hSecond⟩ := isFinite_fallbackSize h.rowHeight_pos.1 h.gap_nonneg.1 w.type
  obtain ⟨width, hWidth⟩ := Exact.exists_floor_finiteElse hFirst w.w
  obtain ⟨height, hHeight⟩ := Exact.exists_floor_finiteElse hSecond w.h
  have hLeft : Number.floor (Number.finiteElse 0 w.x) = .whole 0 := by
    rw [hx, Exact.zero_eq_whole, Exact.finiteElse_whole, Exact.floor_whole]
  have hTop : Number.floor (Number.finiteElse 0 w.y) = .whole n := by
    rw [hy, hNext, Exact.finiteElse_whole, Exact.floor_whole]
  refine ⟨_, tidyRect?_of_floors h.columns_pos hLeft hTop hWidth hHeight, ?_⟩
  rw [Exact.zero_eq_whole, hNext]
  cases l.unit with
  | cells =>
      have hRoom : 0 ≤ (l.columns : Int) - max 1 (min (l.columns : Int) width) := by
        have hColumns := h.columns_pos
        omega
      simp only [wholeRect, min_eq_right hRoom, max_self, max_eq_right hn, and_self]
  | pixels => simp only [wholeRect, max_self, max_eq_right hn, and_self]

section Append

variable [LabelSource]

/-- A single widget gets an id that was not seen before, its own if that is in order. -/
theorem exists_relabel_singleton {K : Type} (labels : Labels) {used seen : List String}
    (hSeen : ∀ id ∈ seen, id ∈ used) (w : Widget K) :
    ∃ id labels', relabel labels used seen [w] = ([{ w with id := id }], labels') ∧ id ∉ seen ∧
      (Text.trim w.id ≠ "" → w.id ∉ seen → id = w.id) := by
  rw [relabel]
  split
  · next hReplaced =>
    simp only [Bool.or_eq_true, String.isEmpty_iff, List.contains_iff_mem] at hReplaced
    have hNew : (labels.fresh used).1 ∉ used := LabelSource.next_notMem labels used
    exact ⟨_, _, rfl, fun hMem => hNew (hSeen _ hMem), fun hBlank hFree =>
      absurd hReplaced (not_or.2 ⟨hBlank, hFree⟩)⟩
  · next hKept =>
    simp only [Bool.or_eq_true, String.isEmpty_iff, List.contains_iff_mem, not_or] at hKept
    exact ⟨w.id, labels, rfl, hKept.2, fun _ _ => rfl⟩

/-- Tidying a tidy layout with one more widget at the first row below all others changes nothing but
the size of that widget, and its id if this is blank or taken. -/
theorem IsTidy.tidy_append {l : Layout Exact} (h : l.IsTidy) {w : Widget Exact} (hx : w.x = 0)
    (hy : w.y = l.nextRow) (limit : Nat) (labels : Labels) :
    ∃ v labels', { l with widgets := l.widgets ++ [w] }.tidy limit labels =
        .ok ({ l with widgets := l.widgets ++ [v] }, labels') ∧
      v.x = 0 ∧ v.y = l.nextRow ∧ v.content = w.content ∧ v.id ∉ l.ids ∧
      (Text.trim w.id ≠ "" → w.id ∉ l.ids → v.id = w.id) := by
  -- The ids before are in order, so only the last widget may get a new label.
  have hUsed : ∀ id ∈ l.ids.reverse, id ∈ (l.widgets ++ [w]).map (·.id) := by
    intro id hId
    rw [List.map_append]
    exact List.mem_append_left _ (List.mem_reverse.1 hId)
  obtain ⟨id, labels', hSingle, hFree, hOwn⟩ := exists_relabel_singleton labels hUsed w
  have hLabels := relabel_append labels ((l.widgets ++ [w]).map (·.id)) h.areNew [w]
  rw [List.append_nil, ← ids, hSingle] at hLabels
  rw [List.mem_reverse] at hFree hOwn
  -- The rectangles before fit, and the last one keeps its corner.
  obtain ⟨r, hRect, hLeft, hTop⟩ := h.exists_tidyRect?_nextRow (w := { w with id := id }) hx hy
  let v : Widget Exact := { w with id := id }.withRect r
  have hResults : ((l.widgets ++ [{ w with id := id }]).mapM fun w =>
      (l.tidyRect? w).map w.withRect) = some (l.widgets ++ [v]) := by
    rw [List.mapM_append, mapM_tidyRect?_of_fits h.columns_pos h.fits]
    simp [hRect, v]
  refine ⟨v, labels', ?_, hLeft, hTop, rfl, hFree, hOwn⟩
  rw [h.tidy_widgets hLabels hResults, settle_of_not_overlapping (h.append_not_overlapping hTop)]

end Append

end Layout
end NoteBoard
