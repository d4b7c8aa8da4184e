import NoteBoard.Layout.Convert
import NoteBoard.Proofs.Layout.Tidy

/-! What changes of single widgets and conversions of units do to a layout. -/
namespace NoteBoard

/-- Of related lists the first items with some property are related, if related items have it
together. -/
theorem exists_find?_of_forall₂ {α : Type} {R : α → α → Prop} {p : α → Bool}
    (hSame : ∀ a b, R a b → p b = p a) {as bs : List α} (h : List.Forall₂ R as bs) {a : α}
    (hFind : as.find? p = some a) : ∃ b, bs.find? p = some b ∧ R a b := by
  induction h with
  | nil => cases hFind
  | @cons first second as bs hFirst hRest ih =>
      cases hp : p first with
      | true =>
          rw [List.find?_cons_of_pos hp] at hFind
          cases hFind
          exact ⟨second, List.find?_cons_of_pos ((hSame _ _ hFirst).trans hp), hFirst⟩
      | false =>
          rw [List.find?_cons_of_neg (by simp [hp])] at hFind
          rw [List.find?_cons_of_neg (by simp [hSame _ _ hFirst, hp])]
          exact ih hFind

/-- Lists that are related stay so without the first item of each with some property, if related
items have it together. -/
theorem forall₂_eraseP {α : Type} {R : α → α → Prop} {p : α → Bool}
    (hSame : ∀ a b, R a b → p b = p a) {as bs : List α} (h : List.Forall₂ R as bs) :
    List.Forall₂ R (as.eraseP p) (bs.eraseP p) := by
  induction h with
  | nil => exact .nil
  | @cons a b as bs hFirst hRest ih =>
      cases hp : p a with
      | true =>
          rwa [List.eraseP_cons_of_pos hp, List.eraseP_cons_of_pos ((hSame a b hFirst).trans hp)]
      | false =>
          rw [List.eraseP_cons_of_neg (by simp [hp]),
            List.eraseP_cons_of_neg (by simp [hSame a b hFirst, hp])]
          exact .cons hFirst ih

namespace Layout

section Modify

variable {K : Type}

theorem mem_of_find? {l : Layout K} {id : String} {w : Widget K} (h : l.find? id = some w) :
    w ∈ l.widgets ∧ w.id = id :=
  ⟨List.mem_of_find?_eq_some h, by simpa using List.find?_some h⟩

theorem map_id_modifyFirst {id : String} {f : Widget K → Widget K}
    (hId : ∀ w, w.id = id → (f w).id = id) (widgets : List (Widget K)) :
    (modifyFirst id f widgets).map (·.id) = widgets.map (·.id) := by
  induction widgets with
  | nil => rfl
  | cons w rest ih =>
      rw [modifyFirst]
      split
      · next hSame => rw [List.map_cons, List.map_cons, hId w hSame, hSame]
      · rw [List.map_cons, List.map_cons, ih]

@[simp] theorem length_modifyFirst (id : String) (f : Widget K → Widget K)
    (widgets : List (Widget K)) : (modifyFirst id f widgets).length = widgets.length := by
  induction widgets with
  | nil => rfl
  | cons w rest ih =>
      rw [modifyFirst]
      split
      · rfl
      · rw [List.length_cons, List.length_cons, ih]

/-- A change that leaves the id of the widget alone leaves all ids alone. -/
theorem modify_ids (l : Layout K) {id : String} {f : Widget K → Widget K}
    (hId : ∀ w, w.id = id → (f w).id = id) : (l.modify id f).ids = l.ids :=
  map_id_modifyFirst hId l.widgets

/-- What holds of all widgets, and of what becomes of those that are changed, holds in the end. -/
theorem forall_mem_modifyFirst {P : Widget K → Prop} (id : String) {f : Widget K → Widget K}
    (hChanged : ∀ w, P w → P (f w)) {widgets : List (Widget K)} (h : ∀ w ∈ widgets, P w) :
    ∀ w ∈ modifyFirst id f widgets, P w := by
  induction widgets with
  | nil => exact h
  | cons w rest ih =>
      obtain ⟨hFirst, hRest⟩ := List.forall_mem_cons.1 h
      rw [modifyFirst]
      split
      · exact List.forall_mem_cons.2 ⟨hChanged w hFirst, hRest⟩
      · exact List.forall_mem_cons.2 ⟨hFirst, ih hRest⟩

/-- To move the widget with an id where it is already is no change. -/
theorem modifyFirst_withRect_self {id : String} {w : Widget K} {widgets : List (Widget K)}
    (h : widgets.find? (·.id == id) = some w) :
    modifyFirst id (fun v => v.withRect w.rect) widgets = widgets := by
  induction widgets with
  | nil => rfl
  | cons v rest ih =>
      rw [modifyFirst]
      split
      · next hId =>
        rw [List.find?_cons_of_pos (by simpa using hId)] at h
        cases h
        rw [Widget.withRect_rect]
      · next hId =>
        rw [List.find?_cons_of_neg (by simpa using hId)] at h
        rw [ih h]

/-- Of two moves of the same widget the second counts. -/
theorem modifyFirst_withRect_twice (id : String) (r r' : Rect K) (widgets : List (Widget K)) :
    modifyFirst id (fun w => w.withRect r') (modifyFirst id (fun w => w.withRect r) widgets) =
      modifyFirst id (fun w => w.withRect r') widgets := by
  induction widgets with
  | nil => rfl
  | cons w rest ih =>
      by_cases hId : w.id = id
      · simp [modifyFirst, hId, Widget.withRect]
      · simp [modifyFirst, hId, ih]

/-- The widget that is changed is found as it has become, if it keeps its id. -/
theorem find?_modifyFirst {id : String} {f : Widget K → Widget K} {w : Widget K}
    {widgets : List (Widget K)} (h : widgets.find? (·.id == id) = some w)
    (hId : (f w).id = id) :
    (modifyFirst id f widgets).find? (·.id == id) = some (f w) := by
  induction widgets with
  | nil => cases h
  | cons v rest ih =>
      rw [modifyFirst]
      split
      · next hFirst =>
        rw [List.find?_cons_of_pos (by simpa using hFirst)] at h
        cases h
        rw [List.find?_cons_of_pos (by simpa using hId)]
      · next hFirst =>
        rw [List.find?_cons_of_neg (by simpa using hFirst)] at h ⊢
        exact ih h

/-- Without the widget that was changed, the others are left. -/
theorem eraseP_modifyFirst {id : String} {f : Widget K → Widget K}
    (hId : ∀ w, w.id = id → (f w).id = id) (widgets : List (Widget K)) :
    (modifyFirst id f widgets).eraseP (·.id == id) = widgets.eraseP (·.id == id) := by
  induction widgets with
  | nil => rfl
  | cons w rest ih =>
      rw [modifyFirst]
      split
      · next hFirst =>
        rw [List.eraseP_cons_of_pos (by simpa using hId w hFirst),
          List.eraseP_cons_of_pos (by simpa using hFirst)]
      · next hFirst =>
        rw [List.eraseP_cons_of_neg (by simpa using hFirst),
          List.eraseP_cons_of_neg (by simpa using hFirst), ih]

end Modify

/-- A widget of a repaired layout may be given any rectangle that fits. -/
theorem IsRepaired.modify_withRect {l : Layout Exact} (h : l.IsRepaired) (id : String)
    {r : Rect Exact} (hRect : r.Fits l.unit l.columns) :
    (l.modify id fun w => w.withRect r).IsRepaired where
  columns_pos := h.columns_pos
  rowHeight_pos := h.rowHeight_pos
  gap_nonneg := h.gap_nonneg
  ids_nodup := by
    rw [modify_ids l fun w hSame => (w.id_withRect r).trans hSame]
    exact h.ids_nodup
  ids_nonblank := by
    rw [modify_ids l fun w hSame => (w.id_withRect r).trans hSame]
    exact h.ids_nonblank
  fits := forall_mem_modifyFirst id (fun _ _ => hRect) h.fits

/-- A tidy layout is tidy without one of its widgets. -/
theorem IsTidy.remove {l : Layout Exact} (h : l.IsTidy) (id : String) : (l.remove id).IsTidy := by
  have hSublist : (l.remove id).widgets.Sublist l.widgets := List.eraseP_sublist
  have hIds : (l.remove id).ids.Sublist l.ids := hSublist.map _
  refine { columns_pos := h.columns_pos, rowHeight_pos := h.rowHeight_pos,
           gap_nonneg := h.gap_nonneg, ids_nodup := h.ids_nodup.sublist hIds,
           ids_nonblank := fun other hOther => h.ids_nonblank other (hIds.subset hOther),
           fits := fun w hw => h.fits w (hSublist.subset hw), apart := ?_ }
  have hApart := h.apart
  rw [isOverlapping, overlapping_eq_false_iff] at hApart ⊢
  exact hApart.sublist (hSublist.map _)

section Convert

variable {K : Type} [Number K]

/-- What is turned into pixels is in pixels, and the measures of its grid stay. -/
theorem toPixels_measures {l l' : Layout K} {padding : K} {c : Container K}
    (h : l.toPixels padding c = .ok l') :
    l'.unit = .pixels ∧ l'.columns = l.columns ∧ l'.gap = l.gap := by
  cases hUnit : l.unit with
  | pixels =>
      simp only [toPixels, hUnit] at h
      obtain rfl := Except.ok.inj h
      exact ⟨hUnit, rfl, rfl⟩
  | cells =>
      simp only [toPixels, hUnit] at h
      cases hWidth : l.columnWidth padding c with
      | error e =>
          rw [hWidth] at h
          cases h
      | ok width =>
          rw [hWidth] at h
          cases h
          exact ⟨rfl, rfl, rfl⟩

theorem toPixels_unit {l l' : Layout K} {padding : K} {c : Container K}
    (h : l.toPixels padding c = .ok l') : l'.unit = .pixels :=
  (toPixels_measures h).1

end Convert

end Layout
end NoteBoard
