import Mathlib.Data.List.Find
import NoteBoard.Proofs.Layout.Queue

/-! Settling a layout whose widgets are listed in another order. Only the places of widgets decide
where they end up, as long as no two of those that are not pinned share one. -/
namespace NoteBoard
namespace Layout

variable {K : Type}

section Ids

variable {l : Layout K} (hIds : l.ids.Nodup)

include hIds

/-- With distinct ids, the order of the list does not matter for what is found in it. -/
theorem find?_eq_of_perm {l' : Layout K} (hPerm : l.widgets.Perm l'.widgets) (id : String) :
    l.find? id = l'.find? id := by
  refine List.find?_eq_find?_of_perm hPerm ?_
  rintro v ⟨hv, hvId⟩ w ⟨hw, hwId⟩
  have hSame : v.id = w.id := (eq_of_beq hvId).trans (eq_of_beq hwId).symm
  exact List.inj_on_of_nodup_map hIds hv hw hSame

/-- The pinned position is that of the widget with the pinned id. -/
theorem pinnedIndex_eq_some_iff (pinned : Option String) {w : Widget K} {i : Nat}
    (hw : l.widgets[i]? = some w) : l.pinnedIndex pinned = some i ↔ pinned = some w.id := by
  obtain ⟨hi, rfl⟩ := List.getElem?_eq_some_iff.1 hw
  cases pinned with
  | none => simp [pinnedIndex]
  | some id =>
      rw [pinnedIndex, Option.bind_some, List.findIdx?_eq_some_iff_getElem, Option.some.injEq]
      constructor
      · rintro ⟨_, hFound, -⟩
        exact (eq_of_beq hFound).symm
      · rintro rfl
        refine ⟨hi, beq_self_eq_true _, fun j hj hOther => hj.ne ?_⟩
        have hSame : l.ids[i]? = l.ids[j]? := by
          have hLength : j < l.widgets.length := hj.trans hi
          simpa [ids, hi, hLength] using (eq_of_beq hOther).symm
        exact ((List.getElem?_inj (by rwa [ids, List.length_map]) hIds).1 hSame).symm

/-- The widgets of the queue are those without the pinned id. -/
theorem queue_fst_perm [Number K] (pinned : Option String) :
    ((l.queue (l.pinnedIndex pinned)).map Prod.fst).Perm
      (l.widgets.filter fun w => pinned ≠ some w.id) := by
  have hQueue := (sortBy_perm (fun a b : Widget K × Nat => a.1.rect.placedBefore b.1.rect)
    (l.widgets.zipIdx.filter fun entry => l.pinnedIndex pinned ≠ some entry.2)).map Prod.fst
  have hFree : (l.widgets.zipIdx.filter fun entry => l.pinnedIndex pinned ≠ some entry.2) =
      l.widgets.zipIdx.filter ((fun w => decide (pinned ≠ some w.id)) ∘ Prod.fst) := by
    refine List.filter_congr fun entry hEntry => ?_
    have hPinned := pinnedIndex_eq_some_iff hIds pinned (List.mem_zipIdx_iff_getElem?.1 hEntry)
    simp [hPinned]
  rw [hFree, ← List.filter_map, List.zipIdx_map_fst] at hQueue
  rw [queue, hFree]
  exact hQueue

end Ids

variable [Number K]

/-- The widgets of a queue where they are dropped around a fixed one, and that one. -/
def settledWidgets (limit : Nat) (queue : List (Widget K)) (fixed : Option (Widget K)) :
    List (Widget K) :=
  List.zipWith Widget.withRect queue
    (Rect.drops limit (fixed.map Widget.rect).toList (queue.map Widget.rect)) ++ fixed.toList

/-- But for their order, settled widgets depend only on the widgets of the queue and the pinned
one. -/
theorem settle_perm_settledWidgets (l : Layout K) (pinned : Option String) (limit : Nat) :
    (l.settle pinned limit).widgets.Perm (settledWidgets limit
      ((l.queue (l.pinnedIndex pinned)).map Prod.fst) (pinned.bind l.find?)) := by
  have hFixed : (l.pinnedIndex pinned).bind (fun index => l.widgets[index]?) =
      pinned.bind l.find? := by
    cases pinned with
    | none => rfl
    | some id => exact List.find?_eq_bind_findIdx?_getElem?.symm
  have hRects := l.map_settledRect_queue (l.pinnedIndex pinned) limit
  rw [droppedRects, fixedRects, hFixed] at hRects
  have hPerm := l.settle_widgets_perm pinned limit
  rw [hFixed] at hPerm
  rw [settledWidgets, List.map_map]
  change List.Perm _ (List.zipWith _ _ (Rect.drops limit _ ((l.queue _).map (·.1.rect))) ++ _)
  rwa [← hRects, List.zipWith_map, List.zipWith_self]

variable [Number.LawfulOrder K]

section Listed

variable {l l' : Layout K} (hPerm : l'.widgets.Perm l.widgets) (hIds : l.ids.Nodup)
  {pinned : Option String} (hPlaces : ∀ v ∈ l.widgets, ∀ w ∈ l.widgets,
    pinned ≠ some v.id → pinned ≠ some w.id → v.y = w.y → v.x = w.x → v = w)

include hPerm hIds hPlaces

/-- Places decide which widget comes next, so the order of the list leaves the queue as it is. -/
theorem queue_fst_eq_of_perm : (l'.queue (l'.pinnedIndex pinned)).map Prod.fst =
    (l.queue (l.pinnedIndex pinned)).map Prod.fst := by
  have hIds' : l'.ids.Nodup := (hPerm.map Widget.id).nodup_iff.2 hIds
  have hSame := (queue_fst_perm hIds' pinned).trans
    ((hPerm.filter _).trans (queue_fst_perm hIds pinned).symm)
  have hOrder (l : Layout K) (index : Option Nat) : ((l.queue index).map Prod.fst).Pairwise
      fun v w => v.rect.placedBefore w.rect = true :=
    List.pairwise_map.2 ((l.pairwise_queue index).imp fun h => h.1)
  have hMem {v : Widget K} (hv : v ∈ (l.queue (l.pinnedIndex pinned)).map Prod.fst) :
      v ∈ l.widgets ∧ pinned ≠ some v.id := by
    simpa using (queue_fst_perm hIds pinned).mem_iff.1 hv
  refine List.Perm.eq_of_pairwise (fun v w hv hw hvw hwv => ?_) (hOrder _ _) (hOrder _ _) hSame
  obtain ⟨hvMem, hvFree⟩ := hMem (hSame.mem_iff.1 hv)
  obtain ⟨hwMem, hwFree⟩ := hMem hw
  obtain ⟨hy, hx⟩ := Rect.eq_of_placedBefore hvw hwv
  exact hPlaces v hvMem w hwMem hvFree hwFree hy hx

/-- However its widgets are listed, a layout settles in the same way, if ids are distinct and no two
widgets that are not pinned share a place. -/
theorem settle_reordered (limit : Nat) :
    (l'.settle pinned limit).widgets.Perm (l.settle pinned limit).widgets ∧
      ∀ id, (l'.settle pinned limit).find? id = (l.settle pinned limit).find? id := by
  have hIds' : l'.ids.Nodup := (hPerm.map Widget.id).nodup_iff.2 hIds
  have hFixed : pinned.bind l'.find? = pinned.bind l.find? := by
    cases pinned with
    | none => rfl
    | some id => exact find?_eq_of_perm hIds' hPerm id
  have hSettled := l'.settle_perm_settledWidgets pinned limit
  rw [queue_fst_eq_of_perm hPerm hIds hPlaces, hFixed] at hSettled
  have hSame := hSettled.trans (l.settle_perm_settledWidgets pinned limit).symm
  exact ⟨hSame, find?_eq_of_perm (by rwa [settle_ids]) hSame⟩

end Listed

/-- Three widgets in machine numbers, each over the next, in two orders. -/
def crowded (ids : List String) : Layout Float where
  columns := 4
  rowHeight := 80
  gap := 16
  unit := .cells
  widgets := ids.map fun id =>
    .of id (.new .stats) (if id = "a" then ⟨0, 0, 2, 2⟩ else if id = "b" then ⟨1, 0, 2, 2⟩
      else ⟨0, 1, 2, 2⟩)

theorem crowded_reordered :
    (crowded ["c", "a", "b"]).widgets.Perm (crowded ["a", "b", "c"]).widgets ∧
      (crowded ["a", "b", "c"]).ids.Nodup ∧
      (∀ v ∈ (crowded ["a", "b", "c"]).widgets, ∀ w ∈ (crowded ["a", "b", "c"]).widgets,
        some "c" ≠ some v.id → some "c" ≠ some w.id → v.y = w.y → v.x = w.x → v = w) ∧
      ∀ id, ((crowded ["c", "a", "b"]).settle (some "c") 2).find? id =
        ((crowded ["a", "b", "c"]).settle (some "c") 2).find? id := by
  have hPerm : (crowded ["c", "a", "b"]).widgets.Perm (crowded ["a", "b", "c"]).widgets :=
    List.Perm.map _ (by decide)
  have hIds : (crowded ["a", "b", "c"]).ids.Nodup := by decide
  have hPlaces : ∀ v ∈ (crowded ["a", "b", "c"]).widgets, ∀ w ∈ (crowded ["a", "b", "c"]).widgets,
      some "c" ≠ some v.id → some "c" ≠ some w.id → v.y = w.y → v.x = w.x → v = w := by
    decide +kernel
  exact ⟨hPerm, hIds, hPlaces, (settle_reordered hPerm hIds hPlaces 2).2⟩

/-- The pinned widget stays, and the other two are dropped below it. -/
example : ((crowded ["c", "a", "b"]).settle (some "c") 2).widgets.map Widget.y = [1, 3, 5] := by
  decide +kernel

end Layout
end NoteBoard
