import NoteBoard.Proofs.Layout.Ids

/-! What tidying promises: a tidy layout for any layout at all, with the same widgets but for their
places and for ids that were blank or taken. It has nothing to do on its own results. -/
namespace NoteBoard

/-- All of a widget but its id and its place. -/
def Widget.content {K : Type} (w : Widget K) :
    Option String × TitleSize × TitleSide × Option String × WidgetSettings K :=
  (w.title, w.titleSize, w.titleSide, w.headerIcon, w.settings)

namespace Layout

section Relabel

variable {K : Type} [LabelSource]

theorem relabel_content (labels : Labels) (used seen : List String) (widgets : List (Widget K)) :
    (relabel labels used seen widgets).1.map Widget.content = widgets.map Widget.content := by
  induction widgets generalizing labels used seen with
  | nil => rfl
  | cons w rest ih =>
      rw [relabel]
      split
      · simp only [List.map_cons, ih]
        rfl
      · simp only [List.map_cons, ih]

/-- New labels are given to others than the first widget with an id, if the id is not blank and was
not seen before. -/
theorem idxOf_relabel (labels : Labels) {used seen : List String} {id : String}
    (hBlank : Text.trim id ≠ "") (hUsed : id ∈ used) (hSeen : id ∉ seen)
    (widgets : List (Widget K)) :
    ((relabel labels used seen widgets).1.map (·.id)).idxOf id =
      (widgets.map (·.id)).idxOf id := by
  induction widgets generalizing labels used seen with
  | nil => rfl
  | cons w rest ih =>
      rw [relabel]
      split
      · next hReplaced =>
        simp only [Bool.or_eq_true, String.isEmpty_iff, List.contains_iff_mem] at hReplaced
        have hOld : w.id ≠ id := by
          rintro rfl
          exact hReplaced.elim hBlank hSeen
        -- The new label is another one because the id is in use.
        have hNew : (labels.fresh used).1 ≠ id := fun hSame =>
          LabelSource.next_notMem labels used (hSame ▸ hUsed : (labels.fresh used).1 ∈ used)
        have hUsedNew : id ∈ (labels.fresh used).1 :: used := List.mem_cons_of_mem _ hUsed
        have hSeenNew : id ∉ (labels.fresh used).1 :: seen :=
          List.not_mem_cons_of_ne_of_not_mem hNew.symm hSeen
        simp only [List.map_cons]
        rw [List.idxOf_cons_ne _ hNew, List.idxOf_cons_ne _ hOld, ih _ hUsedNew hSeenNew]
      · by_cases hFirst : w.id = id
        · simp only [List.map_cons, hFirst, List.idxOf_cons_self]
        · have hSeenOld : id ∉ w.id :: seen :=
            List.not_mem_cons_of_ne_of_not_mem (Ne.symm hFirst) hSeen
          simp only [List.map_cons]
          rw [List.idxOf_cons_ne _ hFirst, List.idxOf_cons_ne _ hFirst, ih labels hUsed hSeenOld]

end Relabel

/-- Only ids and places are tidied. -/
theorem tidy_content {K : Type} [Number K] [LabelSource] {l t : Layout K} {limit : Nat}
    {labels labels' : Labels} (h : l.tidy limit labels = .ok (t, labels')) :
    t.widgets.map Widget.content = l.widgets.map Widget.content := by
  rw [tidy_map h fun _ _ => rfl, relabel_content]

/-- What tidying makes of a layout: a tidy layout in the same unit, with the same widgets in the
same order but for places and ids, where the first widget with an id that is not blank keeps it. -/
structure Tidied (l t : Layout Exact) : Prop where
  tidy : t.IsTidy
  unit : t.unit = l.unit
  content : t.widgets.map Widget.content = l.widgets.map Widget.content
  first_kept : ∀ id ∈ l.ids, Text.trim id ≠ "" → t.ids.idxOf id = l.ids.idxOf id

/-- The result is tidy if each widget may be pushed once for each of the others. -/
theorem exists_isTidy [LabelSource] (l : Layout Exact) {limit : Nat}
    (hLimit : l.widgets.length ≤ limit + 1) (labels : Labels) :
    ∃ t labels', l.tidy limit labels = .ok (t, labels') ∧ t.IsTidy ∧ t.unit = l.unit := by
  obtain ⟨r, labels', hTidy, hRepaired, hUnit, hLength⟩ := l.exists_tidy limit labels
  exact ⟨_, labels', hTidy, hRepaired.settle_isTidy none (hLength ▸ hLimit), hUnit⟩

/-- Any layout can be tidied, whatever its measures, ids and places are. -/
theorem exists_tidied [LabelSource] (l : Layout Exact) {limit : Nat}
    (hLimit : l.widgets.length ≤ limit + 1) (labels : Labels) :
    ∃ t labels', l.tidy limit labels = .ok (t, labels') ∧ l.Tidied t := by
  obtain ⟨t, labels', hTidy, hResult, hUnit⟩ := l.exists_isTidy hLimit labels
  refine ⟨t, labels', hTidy, hResult, hUnit, tidy_content hTidy, fun id hId hBlank => ?_⟩
  rw [ids, tidy_map hTidy Widget.id_withRect]
  exact idxOf_relabel labels hBlank hId List.not_mem_nil l.widgets

/-- Measures out of range, ids that are blank or taken, and places that are none. -/
def litter : Layout Exact where
  columns := 0
  rowHeight := .infinite false
  gap := .finite (-3)
  unit := .cells
  widgets := [.of "" (.new .stats) ⟨.undefined, .finite (-7 / 2), .finite (5 / 2), .infinite true⟩,
    .of "a" (.new .taskList) ⟨.finite (1 / 2), 0, 40, 0⟩,
    .of "a" (.new .pieChart) ⟨11, 0, 3, .undefined⟩, .of " " (.new .stats) ⟨-4, 9, 0, 1⟩]

theorem litter_tidied : litter.widgets.length ≤ 3 + 1 ∧
    ∃ t labels, litter.tidy 3 ⟨0⟩ = .ok (t, labels) ∧ litter.Tidied t ∧ t.ids.idxOf "a" = 1 := by
  have hRoom : litter.widgets.length ≤ 3 + 1 := by decide
  obtain ⟨t, labels, hTidy, hTidied⟩ := exists_tidied litter hRoom ⟨0⟩
  have hFirst : t.ids.idxOf "a" = litter.ids.idxOf "a" :=
    hTidied.first_kept "a" (by decide) (by decide)
  exact ⟨hRoom, t, labels, hTidy, hTidied, hFirst.trans (by decide)⟩

/-- What lay left of the grid, or was wider than it, is moved or cut; what has no size gets one. -/
example : (match litter.tidy 3 ⟨0⟩ with
    | .ok (t, _) => t.widgets.map Widget.rect
    | .error _ => []) = [⟨0, 0, 2, 2⟩, ⟨0, 2, 12, 1⟩, ⟨9, 3, 3, 4⟩, ⟨0, 9, 1, 1⟩] := by
  decide +kernel

/-- Whatever a layout was, tidying it once more changes nothing and gives no new label. -/
theorem exists_tidy_again [LabelSource] (l : Layout Exact) {limit : Nat}
    (hLimit : l.widgets.length ≤ limit + 1) (labels : Labels) :
    ∃ t labels', l.tidy limit labels = .ok (t, labels') ∧
      ∀ limit' labels'', t.tidy limit' labels'' = .ok (t, labels'') := by
  obtain ⟨t, labels', hTidy, hResult, -⟩ := l.exists_isTidy hLimit labels
  exact ⟨t, labels', hTidy, fun limit' labels'' => tidy_of_isTidy hResult limit' labels''⟩

theorem litter_tidy_again : litter.widgets.length ≤ 3 + 1 ∧
    ∃ t labels, { litter with unit := .pixels }.tidy 3 ⟨0⟩ = .ok (t, labels) ∧
      ∀ limit' labels'', t.tidy limit' labels'' = .ok (t, labels'') := by
  have hRoom : litter.widgets.length ≤ 3 + 1 := by decide
  exact ⟨hRoom, exists_tidy_again { litter with unit := .pixels } hRoom ⟨0⟩⟩

end Layout
end NoteBoard
