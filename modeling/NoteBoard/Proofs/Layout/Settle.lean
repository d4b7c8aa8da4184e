import Mathlib.Data.List.Forall2
import Mathlib.Data.List.Permutation
import NoteBoard.Proofs.Layout.Drop

/-! What settling does to a layout: nothing overlaps any more, the pinned widget stays, and the
others only move down. -/
namespace NoteBoard

/-- The same widget, moved down or not at all. -/
def Widget.Lowered (w v : Widget Exact) : Prop := v = { w with y := v.y } ∧ w.y ≤ v.y

/-- The same widget, strictly further down or as it was, even where its place is not a number. -/
def Widget.Sunk (w v : Widget Exact) : Prop := v = w ∨ v = { w with y := v.y } ∧ w.y < v.y

theorem Widget.Sunk.id_eq {w v : Widget Exact} (h : w.Sunk v) : v.id = w.id := by
  rcases h with rfl | ⟨hSame, -⟩
  · rfl
  · rw [hSame]

theorem Widget.Lowered.id_eq {w v : Widget Exact} (h : w.Lowered v) : v.id = w.id := by
  rw [h.1]

theorem Widget.Sunk.lowered {w v : Widget Exact} (h : w.Sunk v) (hFinite : w.rect.isFinite = true) :
    w.Lowered v := by
  rcases h with rfl | ⟨hSame, hDown⟩
  · simp only [Rect.isFinite, Bool.and_eq_true] at hFinite
    exact ⟨rfl, Exact.le_of_isFinite hFinite.1.1.2⟩
  · exact ⟨hSame, Exact.le_of_lt hDown⟩

namespace Layout

section Positions

variable {α : Type}

theorem lookup_zip (values : List α) {keys : List Nat} (hKeys : keys.Nodup)
    (hLength : keys.length = values.length) :
    keys.map (fun key => (keys.zip values).lookup key) = values.map some := by
  induction keys generalizing values with
  | nil => simp [List.eq_nil_of_length_eq_zero hLength.symm]
  | cons key keys ih =>
      cases values with
      | nil => simp at hLength
      | cons value values =>
          obtain ⟨hKey, hRest⟩ := List.nodup_cons.1 hKeys
          have hOthers : keys.map (fun other => ((key, value) :: keys.zip values).lookup other) =
              keys.map fun other => (keys.zip values).lookup other := by
            apply List.map_congr_left
            intro other hOther
            have hNe : other ≠ key := fun e => hKey (e ▸ hOther)
            rw [List.lookup_cons, beq_eq_false_iff_ne.2 hNe]
          rw [List.zip_cons_cons, List.map_cons, List.lookup_cons_self, hOthers,
            ih _ hRest (by simpa using hLength), List.map_cons]

theorem lookup_zip_eq_none {values : List α} {keys : List Nat} {key : Nat} (h : key ∉ keys) :
    (keys.zip values).lookup key = none := by
  rw [List.lookup_eq_none_iff]
  rintro ⟨other, value⟩ hMem
  have hOther := (List.of_mem_zip hMem).1
  exact bne_iff_ne.2 fun (e : key = other) => h (e ▸ hOther)

theorem zipIdx_filter_index (items : List α) (start index : Nat) :
    (items.zipIdx start).filter (fun entry => start + index = entry.2) =
      (items[index]?).toList.map fun a => (a, start + index) := by
  induction items generalizing start index with
  | nil => simp
  | cons a rest ih =>
      cases index with
      | zero =>
          have hRest : (rest.zipIdx (start + 1)).filter (fun entry => start = entry.2) = [] := by
            rw [List.filter_eq_nil_iff]
            rintro ⟨b, i⟩ hMem
            have := List.le_snd_of_mem_zipIdx hMem
            rw [decide_eq_true_eq]
            omega
          simp only [Nat.add_zero] at hRest ⊢
          simp [List.zipIdx_cons, hRest]
      | succ index =>
          have hTail := ih (start + 1) index
          rw [show start + 1 + index = start + (index + 1) by omega] at hTail
          simp only [List.zipIdx_cons, List.filter_cons, hTail]
          simp

end Positions

variable {K : Type} [Number K]

theorem overlapping_eq_false_iff {rects : List (Rect K)} :
    overlapping rects = false ↔ rects.Pairwise Rect.Apart := by
  induction rects with
  | nil => simp [overlapping]
  | cons r rest ih => simp [overlapping, ih, Rect.Apart]

/-- The rectangle of the widget that is pinned, which is placed before all others. -/
def fixedRects (l : Layout K) (pinned : Option Nat) : List (Rect K) :=
  ((pinned.bind fun index => l.widgets[index]?).map Widget.rect).toList

/-- The rectangles of the widgets that are not pinned, as they end up, in the order in which they
are placed. -/
def droppedRects (l : Layout K) (pinned : Option Nat) (limit : Nat) : List (Rect K) :=
  Rect.drops limit (l.fixedRects pinned) ((l.queue pinned).map (·.1.rect))

theorem settledRects_eq (l : Layout K) (pinned : Option Nat) (limit : Nat) :
    l.settledRects pinned limit =
      ((l.queue pinned).map Prod.snd).zip (l.droppedRects pinned limit) := by
  have hLength : (l.queue pinned).length = (l.droppedRects pinned limit).reverse.length := by
    simp [droppedRects]
  unfold settledRects
  simp only [Rect.dropAll_eq_reverse_drops]
  rw [hLength]
  exact congrArg _ (by rw [← fixedRects, ← droppedRects, List.take_left, List.reverse_reverse])

theorem mem_queue {l : Layout K} {pinned : Option Nat} {entry : Widget K × Nat} :
    entry ∈ l.queue pinned ↔ entry ∈ l.widgets.zipIdx ∧ pinned ≠ some entry.2 := by
  rw [queue, (sortBy_perm _ _).mem_iff, List.mem_filter, decide_eq_true_iff]

theorem nodup_queue (l : Layout K) (pinned : Option Nat) :
    ((l.queue pinned).map Prod.snd).Nodup := by
  have hPerm := (sortBy_perm (fun a b : Widget K × Nat => a.1.rect.placedBefore b.1.rect)
    (l.widgets.zipIdx.filter fun entry => pinned ≠ some entry.2)).map Prod.snd
  have hAll : (l.widgets.zipIdx.map Prod.snd).Nodup := by
    rw [List.zipIdx_map_snd]
    exact List.nodup_range'
  exact hPerm.nodup_iff.2 (hAll.sublist (List.filter_sublist.map Prod.snd))

/-- The rectangle that a widget and its position in the layout end up with. -/
def settledRect (l : Layout K) (pinned : Option Nat) (limit : Nat) (entry : Widget K × Nat) :
    Rect K :=
  ((l.settledRects pinned limit).lookup entry.2).getD entry.1.rect

theorem map_settledRect_queue (l : Layout K) (pinned : Option Nat) (limit : Nat) :
    (l.queue pinned).map (l.settledRect pinned limit) = l.droppedRects pinned limit := by
  have hLookup := lookup_zip (l.droppedRects pinned limit) (l.nodup_queue pinned)
    (by simp [droppedRects])
  have hSome : (l.queue pinned).map (fun entry => (l.settledRects pinned limit).lookup entry.2) =
      (l.droppedRects pinned limit).map some := by
    rw [← hLookup, List.map_map, settledRects_eq]
    rfl
  apply List.map_injective_iff.2 (Option.some_injective _)
  rw [← hSome, List.map_map]
  apply List.map_congr_left
  intro entry hEntry
  have hMem : (l.settledRects pinned limit).lookup entry.2 ∈
      (l.droppedRects pinned limit).map some := hSome ▸ List.mem_map_of_mem hEntry
  obtain ⟨r, -, hr⟩ := List.mem_map.1 hMem
  simp [settledRect, ← hr]

theorem settledRect_of_pinned (l : Layout K) (limit : Nat) (entry : Widget K × Nat) :
    l.settledRect (some entry.2) limit entry = entry.1.rect := by
  have hKey : entry.2 ∉ (l.queue (some entry.2)).map Prod.snd := by
    intro h
    obtain ⟨other, hOther, hSame⟩ := List.mem_map.1 h
    exact (mem_queue.1 hOther).2 (congrArg some hSame.symm)
  rw [settledRect, settledRects_eq, lookup_zip_eq_none hKey, Option.getD_none]

/-- The position of the first widget with the pinned id. -/
def pinnedIndex (l : Layout K) (pinned : Option String) : Option Nat :=
  pinned.bind fun id => l.widgets.findIdx? (·.id == id)

theorem settle_widgets (l : Layout K) (pinned : Option String) (limit : Nat) :
    (l.settle pinned limit).widgets =
      l.widgets.zipIdx.map fun entry =>
        entry.1.withRect (l.settledRect (l.pinnedIndex pinned) limit entry) := by
  rw [settle, List.mapIdx_eq_zipIdx_map]
  apply List.map_congr_left
  rintro ⟨w, i⟩ -
  simp only [settledRect, pinnedIndex]
  cases (l.settledRects (pinned.bind fun id => l.widgets.findIdx? (·.id == id)) limit).lookup i with
  | none => exact w.withRect_rect.symm
  | some r => rfl

/-- Before the order of the layout is restored, the settled widgets are those of the queue, where
they were dropped, and the pinned one. -/
theorem settle_widgets_perm (l : Layout K) (pinned : Option String) (limit : Nat) :
    (l.settle pinned limit).widgets.Perm
      ((l.queue (l.pinnedIndex pinned)).map (fun entry =>
          entry.1.withRect (l.settledRect (l.pinnedIndex pinned) limit entry)) ++
        ((l.pinnedIndex pinned).bind fun index => l.widgets[index]?).toList) := by
  rw [settle_widgets]
  generalize l.pinnedIndex pinned = index
  have hSplit := (List.filter_append_perm (fun entry : Widget K × Nat => index ≠ some entry.2)
    l.widgets.zipIdx).symm.map fun entry => entry.1.withRect (l.settledRect index limit entry)
  have hQueue := (sortBy_perm (fun a b : Widget K × Nat => a.1.rect.placedBefore b.1.rect)
    (l.widgets.zipIdx.filter fun entry => index ≠ some entry.2)).map fun entry =>
      entry.1.withRect (l.settledRect index limit entry)
  have hFixed : (l.widgets.zipIdx.filter fun entry => !decide (index ≠ some entry.2)).map
      (fun entry => entry.1.withRect (l.settledRect index limit entry)) =
        (index.bind fun index => l.widgets[index]?).toList := by
    cases index with
    | none => simp
    | some index =>
        have hOne := zipIdx_filter_index l.widgets 0 index
        simp only [Nat.zero_add] at hOne
        simp only [ne_eq, decide_not, Bool.not_not, Option.some.injEq, hOne, Option.bind_some]
        cases l.widgets[index]? with
        | none => rfl
        | some w =>
            have hStays := l.settledRect_of_pinned limit (w, index)
            simp [hStays]
  rw [List.map_append, hFixed] at hSplit
  exact hSplit.trans (hQueue.symm.append_right _)

/-- So the settled rectangles are those that were dropped around the fixed one. -/
theorem settle_rects_perm (l : Layout K) (pinned : Option String) (limit : Nat) :
    ((l.settle pinned limit).widgets.map Widget.rect).Perm
      (Rect.dropAll limit (l.fixedRects (l.pinnedIndex pinned))
        ((l.queue (l.pinnedIndex pinned)).map (·.1.rect))) := by
  have hRects := (l.settle_widgets_perm pinned limit).map Widget.rect
  rw [List.map_append, List.map_map] at hRects
  generalize l.pinnedIndex pinned = index at *
  have hDropped : (l.queue index).map
      (Widget.rect ∘ fun entry => entry.1.withRect (l.settledRect index limit entry)) =
        l.droppedRects index limit := l.map_settledRect_queue index limit
  have hFixed : (index.bind fun index => l.widgets[index]?).toList.map Widget.rect =
      l.fixedRects index := by
    rw [fixedRects]
    cases index.bind fun index => l.widgets[index]? <;> rfl
  rw [hDropped, hFixed] at hRects
  rw [Rect.dropAll_eq_reverse_drops]
  exact hRects.trans ((List.reverse_perm _).symm.append_right _)

theorem settle_metrics (l : Layout K) (pinned : Option String) (limit : Nat) :
    l.settle pinned limit = { l with widgets := (l.settle pinned limit).widgets } := rfl

/-- Whatever does not depend on the places of widgets stays. -/
theorem settle_map {α : Type} {f : Widget K → α} (hf : ∀ w r, f (w.withRect r) = f w)
    (l : Layout K) (pinned : Option String) (limit : Nat) :
    (l.settle pinned limit).widgets.map f = l.widgets.map f := by
  have hEach : l.widgets.zipIdx.map (fun entry => f entry.1) = l.widgets.map f := by
    conv_rhs => rw [← List.zipIdx_map_fst 0 l.widgets, List.map_map]
    rfl
  rw [settle_widgets, List.map_map, ← hEach]
  exact List.map_congr_left fun _ _ => hf _ _

theorem settle_ids (l : Layout K) (pinned : Option String) (limit : Nat) :
    (l.settle pinned limit).ids = l.ids :=
  settle_map Widget.id_withRect l pinned limit

@[simp] theorem length_settle_widgets (l : Layout K) (pinned : Option String) (limit : Nat) :
    (l.settle pinned limit).widgets.length = l.widgets.length := by
  rw [settle_widgets, List.length_map, List.length_zipIdx]

/-- The first widget with the pinned id is left as it was. -/
theorem settle_find?_pinned (l : Layout K) (id : String) (limit : Nat) :
    (l.settle (some id) limit).find? id = l.find? id := by
  have hIndex (ws : List (Widget K)) :
      ws.findIdx? (·.id == id) = (ws.map (·.id)).findIdx? (· == id) := by
    rw [List.findIdx?_map]
    rfl
  have hSame : (l.settle (some id) limit).widgets.map (·.id) = l.widgets.map (·.id) :=
    l.settle_ids (some id) limit
  rw [find?, find?, List.find?_eq_bind_findIdx?_getElem?, List.find?_eq_bind_findIdx?_getElem?,
    hIndex (l.settle (some id) limit).widgets, hSame, ← hIndex]
  cases hFound : l.widgets.findIdx? (·.id == id) with
  | none => rfl
  | some index =>
      have hPinned : l.pinnedIndex (some id) = some index := hFound
      rw [Option.bind_some, Option.bind_some, settle_widgets, hPinned, List.getElem?_map,
        List.getElem?_zipIdx]
      cases l.widgets[index]? with
      | none => rfl
      | some w =>
          have hRect := l.settledRect_of_pinned limit (w, 0 + index)
          rw [Nat.zero_add] at hRect
          simp [hRect]

section Invariant

variable {P : Rect Exact → Prop} {l : Layout Exact} (h : ∀ w ∈ l.widgets, P w.rect)

include h

theorem forall_mem_queue (pinned : Option Nat) : ∀ r ∈ (l.queue pinned).map (·.1.rect), P r := by
  intro r hr
  obtain ⟨entry, hEntry, rfl⟩ := List.mem_map.1 hr
  exact h _ (List.fst_mem_of_mem_zipIdx (mem_queue.1 hEntry).1)

theorem forall_mem_fixedRects (pinned : Option Nat) : ∀ r ∈ l.fixedRects pinned, P r := by
  intro r hr
  cases pinned with
  | none => simp [fixedRects] at hr
  | some index =>
      simp only [fixedRects, Option.bind_some, Option.mem_toList, Option.map_eq_some_iff] at hr
      obtain ⟨w, hw, rfl⟩ := hr
      exact h w (List.mem_of_getElem? hw)

/-- What a push to the edge of another rectangle keeps, settling keeps. -/
theorem settle_invariant (hPush : ∀ r other, P r → P other → P { r with y := other.bottom })
    (pinned : Option String) (limit : Nat) : ∀ w ∈ (l.settle pinned limit).widgets, P w.rect := by
  intro w hw
  have hMem := (l.settle_rects_perm pinned limit).mem_iff.1 (List.mem_map_of_mem hw)
  exact Rect.dropAll_invariant hPush limit (forall_mem_fixedRects h _)
    (forall_mem_queue h _) _ hMem

end Invariant

/-- Settling changes nothing where every rectangle is dropped on the spot. -/
theorem settle_of_droppedRects {l : Layout K} {pinned : Option String} {limit : Nat}
    (h : l.droppedRects (l.pinnedIndex pinned) limit =
      (l.queue (l.pinnedIndex pinned)).map (·.1.rect)) : l.settle pinned limit = l := by
  have hSame : (l.settle pinned limit).widgets = l.widgets := by
    rw [settle_widgets]
    conv_rhs => rw [← List.zipIdx_map_fst 0 l.widgets]
    apply List.map_congr_left
    intro entry hEntry
    have hRect : l.settledRect (l.pinnedIndex pinned) limit entry = entry.1.rect := by
      by_cases hPinned : l.pinnedIndex pinned = some entry.2
      · rw [hPinned, settledRect_of_pinned]
      · rw [← map_settledRect_queue] at h
        exact List.map_inj_left.1 h entry (mem_queue.2 ⟨hEntry, hPinned⟩)
    rw [hRect, Widget.withRect_rect]
  rw [settle_metrics, hSame]

/-- Without a single try, nothing is pushed. -/
theorem settle_zero (l : Layout K) (pinned : Option String) : l.settle pinned 0 = l :=
  settle_of_droppedRects (Rect.drops_zero _ _)

/-- A layout without overlaps is settled, whichever widget is pinned. -/
theorem settle_of_not_overlapping {l : Layout K} (h : l.isOverlapping = false)
    (pinned : Option String) (limit : Nat) : l.settle pinned limit = l := by
  -- The rectangles that are dropped, and the fixed one, are those of the layout.
  have hPerm := l.settle_rects_perm pinned 0
  rw [settle_zero, Rect.dropAll_eq_reverse_drops, Rect.drops_zero] at hPerm
  have hApart := (hPerm.pairwise_iff Rect.Apart.symm).1 (overlapping_eq_false_iff.1 h)
  obtain ⟨hQueue, -, hFixed⟩ := List.pairwise_append.1 hApart
  apply settle_of_droppedRects
  apply Rect.drops_of_apart limit
  · intro r hr other hOther
    exact (hFixed r (List.mem_reverse.2 hr) other hOther).symm
  · exact (List.pairwise_reverse.1 hQueue).imp Rect.Apart.symm

theorem length_fixed_add_queue (l : Layout K) (pinned : Option String) :
    (l.fixedRects (l.pinnedIndex pinned)).length + (l.queue (l.pinnedIndex pinned)).length =
      l.widgets.length := by
  have hLength := (l.settle_rects_perm pinned 0).length_eq
  simp only [settle_widgets, Rect.dropAll_eq_reverse_drops, List.length_map, List.length_append,
    List.length_reverse, List.length_zipIdx, Rect.length_drops] at hLength
  omega

/-- With a try for each of the other widgets, no two widgets overlap in the end. -/
theorem settle_not_overlapping {l : Layout Exact} (pinned : Option String) {limit : Nat}
    (hLimit : l.widgets.length ≤ limit + 1) :
    (l.settle pinned limit).isOverlapping = false := by
  rw [isOverlapping, overlapping_eq_false_iff,
    (l.settle_rects_perm pinned limit).pairwise_iff Rect.Apart.symm]
  apply Rect.pairwise_apart_dropAll
  · unfold fixedRects
    cases (l.pinnedIndex pinned).bind fun index => l.widgets[index]? <;> simp
  · rw [List.length_map, length_fixed_add_queue]
    exact hLimit

/-- Every widget is moved down or stays, and the order of widgets is kept. -/
theorem settle_sunk (l : Layout Exact) (pinned : Option String) (limit : Nat) :
    List.Forall₂ Widget.Sunk l.widgets (l.settle pinned limit).widgets := by
  have hQueue := Rect.drops_sunk limit (l.fixedRects (l.pinnedIndex pinned))
    ((l.queue (l.pinnedIndex pinned)).map (·.1.rect))
  rw [← droppedRects, ← map_settledRect_queue, List.forall₂_map_left_iff,
    List.forall₂_map_right_iff, List.forall₂_same] at hQueue
  rw [settle_widgets, List.forall₂_map_right_iff]
  nth_rewrite 1 [← List.zipIdx_map_fst 0 l.widgets]
  rw [List.forall₂_map_left_iff, List.forall₂_same]
  intro entry hEntry
  by_cases hPinned : l.pinnedIndex pinned = some entry.2
  · rw [hPinned, settledRect_of_pinned]
    exact .inl rfl
  · rcases hQueue entry (mem_queue.2 ⟨hEntry, hPinned⟩) with hStays | ⟨hSame, hDown⟩
    · rw [hStays]
      exact .inl rfl
    · refine .inr ⟨?_, hDown⟩
      rw [hSame]
      rfl

theorem settle_lowered {l : Layout Exact} (pinned : Option String) (limit : Nat)
    (hFinite : ∀ w ∈ l.widgets, w.rect.isFinite = true) :
    List.Forall₂ Widget.Lowered l.widgets (l.settle pinned limit).widgets := by
  have hBoth := (List.forall₂_and_left _ _).2 ⟨hFinite, l.settle_sunk pinned limit⟩
  exact hBoth.imp fun _ _ h => h.2.lowered h.1

/-- What settling promises: no widgets overlap, the first widget with the pinned id is as it was,
every widget is where it was or further down and otherwise the same, in the same order, and the
measures of the grid are the same. -/
structure Settled (l : Layout Exact) (pinned : Option String) (s : Layout Exact) : Prop where
  apart : s.isOverlapping = false
  pinned_stays : ∀ id ∈ pinned, s.find? id = l.find? id
  lowered : List.Forall₂ Widget.Lowered l.widgets s.widgets
  metrics : s = { l with widgets := s.widgets }

/-- Settling keeps its promise for every layout of finite rectangles, whatever their sizes, when
each widget may be pushed once for each of the others. -/
theorem settle_settled (l : Layout Exact) (pinned : Option String) (limit : Nat)
    (hFinite : ∀ w ∈ l.widgets, w.rect.isFinite = true)
    (hLimit : l.widgets.length - 1 ≤ limit) : l.Settled pinned (l.settle pinned limit) where
  apart := settle_not_overlapping pinned (by omega)
  pinned_stays := by
    rintro id rfl
    exact l.settle_find?_pinned id limit
  lowered := settle_lowered pinned limit hFinite
  metrics := l.settle_metrics pinned limit

/-- Two widgets in one place. -/
def twoAtOrigin : Layout Exact where
  columns := 4
  rowHeight := 80
  gap := 16
  unit := .cells
  widgets := [.of "a" (.new .stats) ⟨0, 0, 2, 3⟩, .of "b" (.new .taskList) ⟨0, 0, 2, 3⟩]

theorem twoAtOrigin_settled :
    twoAtOrigin.isOverlapping = true ∧ (∀ w ∈ twoAtOrigin.widgets, w.rect.isFinite = true) ∧
      twoAtOrigin.widgets.length - 1 ≤ 1 ∧
      twoAtOrigin.Settled (some "b") (twoAtOrigin.settle (some "b") 1) := by
  have hFinite : ∀ w ∈ twoAtOrigin.widgets, w.rect.isFinite = true := by decide +kernel
  have hSettled := settle_settled twoAtOrigin (some "b") 1 hFinite (by decide)
  exact ⟨by decide +kernel, hFinite, by decide, hSettled⟩

/-- The pinned widget comes first, whatever its place in the list. -/
example : (twoAtOrigin.settle (some "b") 1).widgets.map Widget.y = [3, 0] := by decide +kernel

end Layout
end NoteBoard
