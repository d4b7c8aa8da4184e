import NoteBoard.Layout.Tidy
import NoteBoard.Proofs.Geometry.Fits
import NoteBoard.Proofs.Layout.Settle

/-! Tidy layouts: what tidying makes of a layout, whatever it was, and what tidying leaves alone. -/
namespace NoteBoard

namespace Layout

/-- A layout as it is after everything but its overlaps has been put right. -/
structure IsRepaired (l : Layout Exact) : Prop where
  columns_pos : 0 < l.columns
  rowHeight_pos : Number.isFinite l.rowHeight = true ∧ 0 < l.rowHeight
  gap_nonneg : Number.isFinite l.gap = true ∧ 0 ≤ l.gap
  ids_nodup : l.ids.Nodup
  ids_nonblank : ∀ id ∈ l.ids, Text.trim id ≠ ""
  fits : ∀ w ∈ l.widgets, w.rect.Fits l.unit l.columns

/-- A layout as a board can show it. -/
structure IsTidy (l : Layout Exact) : Prop extends l.IsRepaired where
  apart : l.isOverlapping = false

namespace IsRepaired

variable {l : Layout Exact} (h : l.IsRepaired)

include h

theorem isFinite : ∀ w ∈ l.widgets, w.rect.isFinite = true :=
  fun w hw => (h.fits w hw).isFinite

/-- Settling keeps a layout repaired. -/
theorem settle (pinned : Option String) (limit : Nat) :
    (l.settle pinned limit).IsRepaired where
  columns_pos := h.columns_pos
  rowHeight_pos := h.rowHeight_pos
  gap_nonneg := h.gap_nonneg
  ids_nodup := (l.settle_ids pinned limit).symm ▸ h.ids_nodup
  ids_nonblank := (l.settle_ids pinned limit).symm ▸ h.ids_nonblank
  fits := settle_invariant h.fits (fun _ _ hr hOther => hr.push hOther) pinned limit

/-- With enough tries, settling makes a repaired layout tidy. -/
theorem settle_isTidy (pinned : Option String) {limit : Nat}
    (hLimit : l.widgets.length ≤ limit + 1) : (l.settle pinned limit).IsTidy :=
  { h.settle pinned limit with
    apart := settle_not_overlapping pinned hLimit }

end IsRepaired

theorem tidy_measures {K : Type} [Number K] [LabelSource] {l t : Layout K}
    {limit : Nat} {labels labels' : Labels} (h : l.tidy limit labels = .ok (t, labels')) :
    t.unit = l.unit ∧ t.columns = tidyColumns l.columns ∧ t.gap = tidyGap l.gap := by
  simp only [tidy] at h
  split at h
  · cases h
    exact ⟨rfl, rfl, rfl⟩
  · cases h

theorem tidyColumns_pos (columns : Nat) : 0 < tidyColumns columns := by
  unfold tidyColumns
  split
  · decide
  · omega

theorem tidyColumns_of_pos {columns : Nat} (h : 0 < columns) : tidyColumns columns = columns :=
  if_neg (by omega)

theorem tidyRowHeight_of_pos {height : Exact}
    (h : Number.isFinite height = true ∧ 0 < height) : tidyRowHeight height = height := by
  simp [tidyRowHeight, h]

theorem tidyRowHeight_pos (height : Exact) :
    Number.isFinite (tidyRowHeight height) = true ∧ 0 < tidyRowHeight height := by
  unfold tidyRowHeight
  split
  · next h => simpa using h
  · exact ⟨rfl, by decide +kernel⟩

theorem tidyGap_of_nonneg {gap : Exact} (h : Number.isFinite gap = true ∧ 0 ≤ gap) :
    tidyGap gap = gap := by
  obtain ⟨hFinite, hLe⟩ := h
  obtain ⟨g, rfl⟩ := Exact.exists_finite_of_isFinite hFinite
  rw [Exact.zero_eq_finite, Exact.finite_le] at hLe
  simp only [tidyGap, Exact.isFinite_finite, if_true, Number.atLeast, Exact.zero_eq_finite,
    Exact.finite_lt]
  split
  · rfl
  · next h => rw [le_antisymm hLe (not_lt.1 h)]

theorem tidyGap_nonneg (gap : Exact) :
    Number.isFinite (tidyGap gap) = true ∧ 0 ≤ tidyGap gap := by
  have hStandard : Number.isFinite (standardGap : Exact) = true ∧ (0 : Exact) ≤ standardGap :=
    ⟨rfl, by decide +kernel⟩
  cases gap with
  | finite g =>
      simp only [tidyGap, Exact.isFinite_finite, if_true, Number.atLeast, Exact.zero_eq_finite,
        Exact.finite_lt]
      split
      · next h => exact ⟨rfl, Exact.finite_le.2 h.le⟩
      · exact ⟨rfl, Exact.finite_le.2 le_rfl⟩
  | infinite n => exact hStandard
  | undefined => exact hStandard

/-- The rectangle that tidying makes of one in whole units. -/
def wholeRect (unit : Coordinates) (columns : Nat) (x y w h : Int) : Rect Exact :=
  match unit with
  | .cells =>
      let width : Int := max 1 (min columns w)
      ⟨.whole (max 0 (min (columns - width) x)), .whole (max 0 y), .whole width, .whole (max 1 h)⟩
  | .pixels => ⟨.whole (max 0 x), .whole (max 0 y), .whole (max 1 w), .whole (max 1 h)⟩

theorem wholeRect_fits (unit : Coordinates) {columns : Nat} (hColumns : 0 < columns)
    (x y w h : Int) : (wholeRect unit columns x y w h).Fits unit columns := by
  cases unit with
  | cells => exact ⟨_, _, _, _, rfl, by omega, by omega, by omega, by omega, fun _ => by omega⟩
  | pixels =>
      exact ⟨_, _, _, _, rfl, by omega, by omega, by omega, by omega, fun h => by cases h⟩

theorem wholeRect_of_fits {unit : Coordinates} {columns : Nat} {x y w h : Int} (hx : 0 ≤ x)
    (hy : 0 ≤ y) (hw : 1 ≤ w) (hh : 1 ≤ h) (hRight : unit = .cells → x + w ≤ columns) :
    wholeRect unit columns x y w h = ⟨.whole x, .whole y, .whole w, .whole h⟩ := by
  cases unit with
  | cells =>
      have hWidth : x + w ≤ columns := hRight rfl
      simp only [wholeRect]
      rw [show max 1 (min (columns : Int) w) = w by omega,
        show max 0 (min ((columns : Int) - w) x) = x by omega, max_eq_right hy, max_eq_right hh]
  | pixels =>
      simp only [wholeRect]
      rw [max_eq_right hx, max_eq_right hy, max_eq_right hw, max_eq_right hh]

theorem isFinite_fallbackSize {l : Layout Exact} (hHeight : Number.isFinite l.rowHeight = true)
    (hGap : Number.isFinite l.gap = true) (t : WidgetType) :
    Number.isFinite (l.fallbackSize t).1 = true ∧ Number.isFinite (l.fallbackSize t).2 = true := by
  unfold fallbackSize
  cases l.unit with
  | cells => exact ⟨rfl, rfl⟩
  | pixels =>
      simp only [Exact.ofNat_eq_whole, Exact.one_eq_whole, Exact.whole_sub]
      exact ⟨Exact.isFinite_add (Exact.isFinite_mul rfl hHeight) (Exact.isFinite_mul rfl hGap),
        Exact.isFinite_add (Exact.isFinite_mul rfl hHeight) (Exact.isFinite_mul rfl hGap)⟩

section TidyRect

variable {l : Layout Exact} {w : Widget Exact}

/-- Tidying floors the coordinates and then moves and narrows the rectangle into the grid. -/
theorem tidyRect?_of_floors {x y width height : Int} (hColumns : 0 < l.columns)
    (hx : Number.floor (Number.finiteElse 0 w.x) = .whole x)
    (hy : Number.floor (Number.finiteElse 0 w.y) = .whole y)
    (hWidth : Number.floor (Number.finiteElse (l.fallbackSize w.type).1 w.w) = .whole width)
    (hHeight : Number.floor (Number.finiteElse (l.fallbackSize w.type).2 w.h) = .whole height) :
    l.tidyRect? w = some (wholeRect l.unit l.columns x y width height) := by
  simp only [tidyRect?, hx, hy, hWidth, hHeight]
  have hAtMost : 0 ≤ (l.columns : Int) - max 1 (min (l.columns : Int) width) := by omega
  cases l.unit with
  | cells =>
      simp only [Exact.zero_eq_whole, Exact.one_eq_whole, Exact.ofNat_eq_whole,
        Exact.atLeast_whole, wholeRect]
      rw [Exact.clamp?_whole (by omega), Option.bind_eq_bind, Option.bind_some, Exact.whole_sub,
        Exact.clamp?_whole hAtMost]
      rfl
  | pixels =>
      simp only [Exact.zero_eq_whole, Exact.one_eq_whole, Exact.atLeast_whole, wholeRect]
      rfl

/-- A rectangle that fits is tidy. -/
theorem tidyRect?_of_fits (hColumns : 0 < l.columns) (h : w.rect.Fits l.unit l.columns) :
    l.tidyRect? w = some w.rect := by
  obtain ⟨x, y, width, height, hRect, hx, hy, hw, hh, hRight⟩ := h
  have hFloor (fallback a : Exact) (n : Int) (ha : a = .whole n) :
      Number.floor (Number.finiteElse fallback a) = .whole n := by
    rw [ha, Exact.finiteElse_whole, Exact.floor_whole]
  rw [tidyRect?_of_floors hColumns (hFloor _ _ x (congrArg Rect.x hRect))
    (hFloor _ _ y (congrArg Rect.y hRect)) (hFloor _ _ width (congrArg Rect.w hRect))
    (hFloor _ _ height (congrArg Rect.h hRect)), wholeRect_of_fits hx hy hw hh hRight, hRect]

/-- Whatever the coordinates of a widget are, tidying makes a rectangle of them that fits. -/
theorem exists_tidyRect? (hColumns : 0 < l.columns) (hHeight : Number.isFinite l.rowHeight = true)
    (hGap : Number.isFinite l.gap = true) :
    ∃ r, l.tidyRect? w = some r ∧ r.Fits l.unit l.columns := by
  obtain ⟨hFirst, hSecond⟩ := isFinite_fallbackSize hHeight hGap w.type
  have hZero : Number.isFinite (0 : Exact) = true := rfl
  obtain ⟨x, hx⟩ := Exact.exists_floor_finiteElse hZero w.x
  obtain ⟨y, hy⟩ := Exact.exists_floor_finiteElse hZero w.y
  obtain ⟨width, hw⟩ := Exact.exists_floor_finiteElse hFirst w.w
  obtain ⟨height, hh⟩ := Exact.exists_floor_finiteElse hSecond w.h
  exact ⟨_, tidyRect?_of_floors hColumns hx hy hw hh, wholeRect_fits _ hColumns x y width height⟩

end TidyRect

section Relabel

variable {K : Type}

/-- Widgets with different ids, of which none is blank or among those seen. -/
structure AreNew (seen : List String) (widgets : List (Widget K)) : Prop where
  nodup : (widgets.map (·.id)).Nodup
  nonblank : ∀ w ∈ widgets, Text.trim w.id ≠ ""
  unseen : ∀ w ∈ widgets, w.id ∉ seen

/-- One more widget with a new id goes before those that are new besides it. -/
theorem areNew_cons_iff {seen : List String} {w : Widget K} {rest : List (Widget K)} :
    AreNew seen (w :: rest) ↔
      (Text.trim w.id ≠ "" ∧ w.id ∉ seen) ∧ AreNew (w.id :: seen) rest := by
  constructor
  · intro h
    obtain ⟨hFirst, hNodup⟩ := List.nodup_cons.1 h.nodup
    obtain ⟨hBlank, hNonblank⟩ := List.forall_mem_cons.1 h.nonblank
    obtain ⟨hSeen, hUnseen⟩ := List.forall_mem_cons.1 h.unseen
    refine ⟨⟨hBlank, hSeen⟩, hNodup, hNonblank, ?_⟩
    intro v hv hMem
    rcases List.mem_cons.1 hMem with hSame | hMem
    · exact hFirst (List.mem_map.2 ⟨v, hv, hSame⟩)
    · exact hUnseen v hv hMem
  · rintro ⟨⟨hBlank, hSeen⟩, hNodup, hNonblank, hUnseen⟩
    refine ⟨List.nodup_cons.2 ⟨?_, hNodup⟩, List.forall_mem_cons.2 ⟨hBlank, hNonblank⟩,
      List.forall_mem_cons.2 ⟨hSeen, ?_⟩⟩
    · intro hMem
      obtain ⟨v, hv, hSame⟩ := List.mem_map.1 hMem
      exact hUnseen v hv (hSame ▸ List.mem_cons_self)
    · intro v hv hMem
      exact hUnseen v hv (List.mem_cons_of_mem _ hMem)

variable [LabelSource]

/-- After new ids, the rest is labelled as if these had been seen. -/
theorem relabel_append (labels : Labels) (used : List String) {seen : List String}
    {first : List (Widget K)} (h : AreNew seen first) (rest : List (Widget K)) :
    relabel labels used seen (first ++ rest) =
      let labelled := relabel labels used ((first.map (·.id)).reverse ++ seen) rest
      (first ++ labelled.1, labelled.2) := by
  induction first generalizing seen with
  | nil => rfl
  | cons w first ih =>
      obtain ⟨⟨hBlank, hSeen⟩, hFirst⟩ := areNew_cons_iff.1 h
      simp only [List.cons_append, relabel, ih hFirst]
      rw [if_neg (by simp [hBlank, hSeen])]
      simp

/-- New ids are left alone. -/
theorem relabel_of_areNew (labels : Labels) (used : List String) {seen : List String}
    {widgets : List (Widget K)} (h : AreNew seen widgets) :
    relabel labels used seen widgets = (widgets, labels) := by
  simpa [relabel] using relabel_append labels used h []

/-- All ids become new, provided that those seen and those still to come count as used. -/
theorem relabel_areNew (labels : Labels) {used seen : List String}
    (hSeen : ∀ id ∈ seen, id ∈ used) (widgets : List (Widget K))
    (hUsed : ∀ w ∈ widgets, w.id ∈ used) : AreNew seen (relabel labels used seen widgets).1 := by
  induction widgets generalizing labels used seen with
  | nil => exact ⟨List.nodup_nil, by simp [relabel], by simp [relabel]⟩
  | cons w rest ih =>
      obtain ⟨hFirst, hRest⟩ := List.forall_mem_cons.1 hUsed
      rw [relabel]
      split
      · -- A new label was never used, so it is not among those seen.
        have hNew := LabelSource.next_notMem labels used
        have hBlank := LabelSource.trim_next_ne labels used
        have hSeenNew : ∀ id ∈ (labels.fresh used).1 :: seen,
            id ∈ (labels.fresh used).1 :: used := by
          intro id hId
          rcases List.mem_cons.1 hId with rfl | hId
          · exact List.mem_cons_self
          · exact List.mem_cons_of_mem _ (hSeen id hId)
        have hOthers := ih (labels.fresh used).2 hSeenNew
          fun v hv => List.mem_cons_of_mem _ (hRest v hv)
        exact areNew_cons_iff.2 ⟨⟨hBlank, fun h => hNew (hSeen _ h)⟩, hOthers⟩
      · next hKeep =>
        have hSeenOld : ∀ id ∈ w.id :: seen, id ∈ used := List.forall_mem_cons.2 ⟨hFirst, hSeen⟩
        simp only [Bool.or_eq_true, String.isEmpty_iff, List.contains_iff_mem, not_or] at hKeep
        exact areNew_cons_iff.2 ⟨hKeep, ih labels hSeenOld hRest⟩

theorem length_relabel (labels : Labels) (used seen : List String)
    (widgets : List (Widget K)) :
    (relabel labels used seen widgets).1.length = widgets.length := by
  induction widgets generalizing labels used seen with
  | nil => rfl
  | cons w rest ih =>
      rw [relabel]
      split
      · simp [ih]
      · simp [ih]

end Relabel

/-- A map that may fail succeeds on a list when it does on each item. -/
theorem exists_mapM {α β : Type} {f : α → Option β} {R : α → β → Prop} {items : List α}
    (h : ∀ a ∈ items, ∃ b, f a = some b ∧ R a b) :
    ∃ results, items.mapM f = some results ∧ List.Forall₂ R items results := by
  induction items with
  | nil => exact ⟨[], rfl, .nil⟩
  | cons a rest ih =>
      obtain ⟨⟨b, hb, hR⟩, hRest⟩ := List.forall_mem_cons.1 h
      obtain ⟨results, hResults, hAll⟩ := ih hRest
      exact ⟨b :: results, by simp [hb, hResults], .cons hR hAll⟩

/-- A map that may fail fails on a list when it does on one of the items. -/
theorem mapM_eq_none {α β : Type} {f : α → Option β} {items : List α} {a : α} (ha : a ∈ items)
    (h : f a = none) : items.mapM f = none := by
  induction items with
  | nil => cases ha
  | cons b rest ih =>
      rw [List.mapM_cons]
      rcases List.mem_cons.1 ha with rfl | hRest
      · rw [h]
        rfl
      · rw [ih hRest]
        cases f b <;> rfl

/-- Rectangles that fit are left alone. -/
theorem mapM_tidyRect?_of_fits {l : Layout Exact} (hColumns : 0 < l.columns)
    {widgets : List (Widget Exact)} (h : ∀ w ∈ widgets, w.rect.Fits l.unit l.columns) :
    (widgets.mapM fun w => (l.tidyRect? w).map w.withRect) = some widgets := by
  have hEach : ∀ w ∈ widgets, ∃ v, (l.tidyRect? w).map w.withRect = some v ∧ w = v := by
    intro w hw
    exact ⟨w, by rw [tidyRect?_of_fits hColumns (h w hw), Option.map_some, Widget.withRect_rect],
      rfl⟩
  obtain ⟨results, hResults, hSame⟩ := exists_mapM hEach
  rw [List.forall₂_eq_eq_eq] at hSame
  rw [hResults, hSame]

theorem IsRepaired.areNew {l : Layout Exact} (h : l.IsRepaired) : AreNew [] l.widgets :=
  ⟨h.ids_nodup, fun _ hw => h.ids_nonblank _ (List.mem_map_of_mem hw), by simp⟩

section Tidy

variable [LabelSource]

/-- Every layout can be tidied: it is repaired, with the same number of widgets, and settled. -/
theorem exists_tidy (l : Layout Exact) (limit : Nat) (labels : Labels) :
    ∃ (r : Layout Exact) (labels' : Labels),
      l.tidy limit labels = .ok (r.settle none limit, labels') ∧ r.IsRepaired ∧
        r.unit = l.unit ∧ r.widgets.length = l.widgets.length := by
  have hNoneSeen : ∀ id ∈ ([] : List String), id ∈ l.ids := by simp
  have hNew := relabel_areNew labels hNoneSeen l.widgets fun w hw => List.mem_map_of_mem hw
  have hLength := length_relabel labels l.ids [] l.widgets
  unfold tidy
  generalize relabel labels l.ids [] l.widgets = relabelled at *
  obtain ⟨widgets, labels'⟩ := relabelled
  let grid : Layout Exact :=
    ⟨tidyColumns l.columns, tidyRowHeight l.rowHeight, tidyGap l.gap, l.unit, []⟩
  have hColumns : 0 < grid.columns := tidyColumns_pos l.columns
  have hHeight := tidyRowHeight_pos l.rowHeight
  have hGap := tidyGap_nonneg l.gap
  have hEach : ∀ w ∈ widgets, ∃ v, (grid.tidyRect? w).map w.withRect = some v ∧
      (v.rect.Fits grid.unit grid.columns ∧ v.id = w.id) := by
    intro w _
    obtain ⟨r, hRect, hFits⟩ := exists_tidyRect? (w := w) hColumns hHeight.1 hGap.1
    exact ⟨w.withRect r, by rw [hRect, Option.map_some], hFits, rfl⟩
  obtain ⟨results, hResults, hAll⟩ := exists_mapM hEach
  obtain ⟨hFits, hSame⟩ := (List.forall₂_and_left _ _).1 hAll.flip
  have hSameIds : results.map (·.id) = widgets.map (·.id) := by
    rwa [← List.forall₂_eq_eq_eq, List.forall₂_map_left_iff, List.forall₂_map_right_iff]
  refine ⟨{ grid with widgets := results }, labels', ?_, ?_, rfl, ?_⟩
  · simp only [grid] at hResults
    simp only [hResults, grid]
  · have hResultIds : ({ grid with widgets := results } : Layout Exact).ids =
        widgets.map (·.id) := hSameIds
    refine ⟨hColumns, hHeight, hGap, hResultIds ▸ hNew.nodup, ?_, hFits⟩
    intro id hId
    rw [hResultIds] at hId
    obtain ⟨w, hw, rfl⟩ := List.mem_map.1 hId
    exact hNew.nonblank w hw
  · rw [← hAll.length_eq, hLength]

/-- What tidying answers is a repaired layout that has been settled. -/
theorem exists_settle_of_tidy {l t : Layout Exact} {limit : Nat} {labels labels' : Labels}
    (h : l.tidy limit labels = .ok (t, labels')) :
    ∃ r : Layout Exact, t = r.settle none limit ∧ r.IsRepaired ∧ r.unit = l.unit := by
  obtain ⟨r, labels'', hTidy, hRepaired, hUnit, -⟩ := l.exists_tidy limit labels
  rw [hTidy, Except.ok.injEq, Prod.mk.injEq] at h
  exact ⟨r, h.1.symm, hRepaired, hUnit⟩

/-- Whether tidying leaves a layout alone can be seen without its labels. -/
theorem exists_labels_of_tidy {l t : Layout Exact} {limit : Nat} {labels : Labels}
    (h : (l.tidy limit labels).toOption.map Prod.fst = some t) :
    ∃ labels', l.tidy limit labels = .ok (t, labels') := by
  cases hTidy : l.tidy limit labels with
  | error e => simp [hTidy, Except.toOption] at h
  | ok tidied =>
      rw [hTidy] at h
      cases h
      exact ⟨tidied.2, rfl⟩

/-- It is repaired even where widgets were not pushed often enough to be apart. -/
theorem tidy_isRepaired {l t : Layout Exact} {limit : Nat} {labels labels' : Labels}
    (h : l.tidy limit labels = .ok (t, labels')) : t.IsRepaired := by
  obtain ⟨r, rfl, hRepaired, -⟩ := exists_settle_of_tidy h
  exact hRepaired.settle none limit

/-- What tidying answers is tidy if each widget may be pushed down often enough. -/
theorem tidy_isTidy {l t : Layout Exact} {limit : Nat} {labels labels' : Labels}
    (h : l.tidy limit labels = .ok (t, labels')) (hLimit : t.widgets.length ≤ limit) :
    t.IsTidy ∧ t.unit = l.unit := by
  obtain ⟨r, rfl, hRepaired, hUnit⟩ := exists_settle_of_tidy h
  rw [length_settle_widgets] at hLimit
  exact ⟨hRepaired.settle_isTidy none (by omega), hUnit⟩

/-- On the grid of a repaired layout, tidying other widgets gives them labels, tidies their
rectangles and settles them. -/
theorem IsRepaired.tidy_widgets {l : Layout Exact} (h : l.IsRepaired) {limit : Nat}
    {labels labels' : Labels} {widgets labelled results : List (Widget Exact)}
    (hLabels : relabel labels (widgets.map (·.id)) [] widgets = (labelled, labels'))
    (hResults : (labelled.mapM fun w => (l.tidyRect? w).map w.withRect) = some results) :
    { l with widgets := widgets }.tidy limit labels =
      .ok ({ l with widgets := results }.settle none limit, labels') := by
  have hGrid (w : Widget Exact) :
      (⟨l.columns, l.rowHeight, l.gap, l.unit, []⟩ : Layout Exact).tidyRect? w = l.tidyRect? w :=
    rfl
  simp only [tidy, ids, hLabels, tidyColumns_of_pos h.columns_pos,
    tidyRowHeight_of_pos h.rowHeight_pos, tidyGap_of_nonneg h.gap_nonneg, hGrid, hResults]

/-- A tidy layout is left alone. -/
theorem tidy_of_isTidy {l : Layout Exact} (h : l.IsTidy) (limit : Nat) (labels : Labels) :
    l.tidy limit labels = .ok (l, labels) := by
  have hLabels := relabel_of_areNew labels l.ids h.areNew
  have hRects := mapM_tidyRect?_of_fits h.columns_pos h.fits
  have hTidy : { l with widgets := l.widgets }.tidy limit labels = _ :=
    h.tidy_widgets hLabels hRects
  rw [hTidy, settle_of_not_overlapping h.apart]

end Tidy

end Layout
end NoteBoard
