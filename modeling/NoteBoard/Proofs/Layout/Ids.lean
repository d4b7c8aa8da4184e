import NoteBoard.Layout.Place
import NoteBoard.Proofs.Layout.Edit

/-! The ids of a layout, through all that is done to it. Whatever its numbers are, a layout that
has been tidied has different ids of which none is blank, and no id that was in order is lost. -/
namespace NoteBoard
namespace Layout

variable {K : Type}

/-- Different ids, none of them blank. -/
structure IsLabelled (l : Layout K) : Prop where
  nodup : l.ids.Nodup
  nonblank : ∀ id ∈ l.ids, Text.trim id ≠ ""

theorem IsLabelled.congr {l l' : Layout K} (h : l.IsLabelled) (hIds : l'.ids = l.ids) :
    l'.IsLabelled :=
  ⟨hIds ▸ h.nodup, hIds ▸ h.nonblank⟩

theorem contains_iff (l : Layout K) (id : String) : l.contains id = true ↔ id ∈ l.ids := by
  simp [contains, find?, ids]

theorem mem_ids_of_find? {l : Layout K} {id : String} {w : Widget K} (h : l.find? id = some w) :
    id ∈ l.ids := by
  obtain ⟨hMem, rfl⟩ := mem_of_find? h
  exact List.mem_map_of_mem hMem

theorem IsLabelled.remove {l : Layout K} (h : l.IsLabelled) (id : String) :
    (l.remove id).IsLabelled := by
  have hIds : (l.remove id).ids.Sublist l.ids := List.eraseP_sublist.map _
  exact ⟨h.nodup.sublist hIds, fun other hOther => h.nonblank other (hIds.subset hOther)⟩

/-- The other ids stay when a widget is removed. -/
theorem mem_ids_remove {l : Layout K} {id other : String} (hOther : other ≠ id)
    (h : other ∈ l.ids) : other ∈ (l.remove id).ids := by
  obtain ⟨w, hw, rfl⟩ := List.mem_map.1 h
  refine List.mem_map_of_mem ?_
  rw [remove, List.mem_eraseP_of_neg (by simpa using hOther)]
  exact hw

/-- Where all widgets are given rectangles, whatever does not depend on their places stays. -/
theorem map_of_mapM_withRect {α : Type} {f : Widget K → α} (hf : ∀ w r, f (w.withRect r) = f w)
    {rect? : Widget K → Option (Rect K)} {widgets results : List (Widget K)}
    (h : (widgets.mapM fun w => (rect? w).map w.withRect) = some results) :
    results.map f = widgets.map f := by
  induction widgets generalizing results with
  | nil =>
      cases h
      rfl
  | cons w rest ih =>
      rw [List.mapM_cons] at h
      obtain ⟨first, hFirst, hMore⟩ := Option.bind_eq_some_iff.1 h
      obtain ⟨others, hOthers, hResults⟩ := Option.bind_eq_some_iff.1 hMore
      obtain ⟨r, -, rfl⟩ := Option.map_eq_some_iff.1 hFirst
      cases hResults
      rw [List.map_cons, List.map_cons, ih hOthers, hf]

section Relabel

variable [LabelSource]

/-- An id that is not blank is still there after new labels have been given, unless it was seen
before. -/
theorem mem_relabel (labels : Labels) (used seen : List String) {widgets : List (Widget K)}
    {id : String} (hId : id ∈ widgets.map (·.id)) (hBlank : Text.trim id ≠ "") :
    id ∈ seen ∨ id ∈ (relabel labels used seen widgets).1.map (·.id) := by
  induction widgets generalizing labels used seen with
  | nil => cases hId
  | cons w rest ih =>
      -- What is seen from here on is the id that the first widget ends up with.
      have hNext (first : String) (labels : Labels) (used : List String)
          (hRest : id ∈ rest.map (·.id)) : id ∈ seen ∨
            id ∈ first :: (relabel labels used (first :: seen) rest).1.map (·.id) := by
        rcases ih labels used (first :: seen) hRest with hSeen | hLater
        · rcases List.mem_cons.1 hSeen with rfl | hSeen
          · exact Or.inr List.mem_cons_self
          · exact Or.inl hSeen
        · exact Or.inr (List.mem_cons_of_mem first hLater)
      rw [relabel]
      split
      · next hReplaced =>
        simp only [Bool.or_eq_true, String.isEmpty_iff, List.contains_iff_mem] at hReplaced
        rcases List.mem_cons.1 hId with rfl | hRest
        · exact Or.inl (hReplaced.resolve_left hBlank)
        · exact hNext _ _ _ hRest
      · rcases List.mem_cons.1 hId with rfl | hRest
        · exact Or.inr List.mem_cons_self
        · exact hNext _ _ _ hRest

end Relabel

section Number

variable [Number K]

theorem place_ids (l : Layout K) (w : Widget K) (limit : Nat) :
    (l.place w limit).ids = l.ids ++ [w.id] := by
  rw [place, settle_ids, ids, ids, List.map_append, List.map_cons, List.map_nil]

theorem toPixels_ids {l l' : Layout K} {padding : K} {c : Container K}
    (h : l.toPixels padding c = .ok l') : l'.ids = l.ids := by
  cases hUnit : l.unit with
  | pixels =>
      simp only [toPixels, hUnit] at h
      obtain rfl := Except.ok.inj h
      rfl
  | cells =>
      cases hWidth : l.columnWidth padding c with
      | error e =>
          simp only [toPixels, hUnit, hWidth] at h
          cases h
      | ok width =>
          simp only [toPixels, hUnit, hWidth] at h
          cases h
          simp [ids, Function.comp_def]

/-- Tidying gives new labels and then nothing but places to widgets. -/
theorem tidy_map [LabelSource] {l t : Layout K} {limit : Nat} {labels labels' : Labels}
    (h : l.tidy limit labels = .ok (t, labels')) {α : Type} {f : Widget K → α}
    (hf : ∀ w r, f (w.withRect r) = f w) :
    t.widgets.map f = (relabel labels l.ids [] l.widgets).1.map f := by
  simp only [tidy] at h
  split at h
  · next widgets hWidgets =>
    cases h
    rw [settle_map hf, map_of_mapM_withRect hf hWidgets]
  · cases h

/-- A layout that has been tidied is labelled, with the ids it had as far as they were not
blank. -/
theorem tidy_isLabelled [LabelSource] {l t : Layout K} {limit : Nat} {labels labels' : Labels}
    (h : l.tidy limit labels = .ok (t, labels')) :
    t.IsLabelled ∧ ∀ id ∈ l.ids, Text.trim id ≠ "" → id ∈ t.ids := by
  have hNew : AreNew [] (relabel labels l.ids [] l.widgets).1 :=
    relabel_areNew labels (by simp) l.widgets fun _ hw => List.mem_map_of_mem hw
  have hIds : t.ids = (relabel labels l.ids [] l.widgets).1.map (·.id) :=
    tidy_map h Widget.id_withRect
  refine ⟨⟨hIds ▸ hNew.nodup, fun id hId => ?_⟩, fun id hId hBlank => ?_⟩
  · rw [hIds] at hId
    obtain ⟨w, hw, rfl⟩ := List.mem_map.1 hId
    exact hNew.nonblank w hw
  · rw [hIds]
    exact (mem_relabel labels l.ids [] hId hBlank).resolve_left List.not_mem_nil

end Number

end Layout
end NoteBoard
