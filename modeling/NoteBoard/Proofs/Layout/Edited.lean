import NoteBoard.Proofs.Layout.Tidied

/-! What becomes of a tidy layout in which one widget is changed to anything but another id. -/
namespace NoteBoard

namespace Layout

/-- What a change of one widget leaves of a layout: the widgets in their order with their ids, the
one that was changed with its new content, and the others where they were or further down. -/
structure Edited (l : Layout Exact) (w : Widget Exact) (t : Layout Exact) : Prop where
  ids : t.ids = l.ids
  changed : ∃ v, t.find? w.id = some v ∧ v.content = w.content
  others : List.Forall₂ Widget.Lowered (l.remove w.id).widgets (t.remove w.id).widgets
  metrics : t = { l with widgets := t.widgets }
  tidy : t.IsTidy

section Changed

variable {l : Layout Exact} {id : String} {w : Widget Exact} {f : Widget Exact → Widget Exact}

/-- Only the rectangle of the widget that was changed is tidied, since the others fit. -/
theorem IsRepaired.mapM_tidyRect?_modifyFirst (h : l.IsRepaired)
    (hFind : l.find? id = some w) {r : Rect Exact} (hRect : l.tidyRect? (f w) = some r) :
    ((modifyFirst id f l.widgets).mapM fun w => (l.tidyRect? w).map w.withRect) =
      some (modifyFirst id (fun w => (f w).withRect r) l.widgets) := by
  have hFits := h.fits
  rw [find?] at hFind
  generalize l.widgets = widgets at hFits hFind
  induction widgets with
  | nil => cases hFind
  | cons v rest ih =>
      obtain ⟨hFirst, hRest⟩ := List.forall_mem_cons.1 hFits
      by_cases hSame : v.id = id
      · rw [List.find?_cons_of_pos (by simpa using hSame)] at hFind
        cases hFind
        simp [modifyFirst, hSame, hRect, mapM_tidyRect?_of_fits h.columns_pos hRest]
      · rw [List.find?_cons_of_neg (by simpa using hSame)] at hFind
        simp [modifyFirst, hSame, tidyRect?_of_fits h.columns_pos hFirst, ih hRest hFind]

theorem IsRepaired.areNew_modifyFirst (h : l.IsRepaired) (hId : ∀ w, (f w).id = id) :
    AreNew [] (modifyFirst id f l.widgets) := by
  have hIds : (modifyFirst id f l.widgets).map (·.id) = l.ids := modify_ids l fun w _ => hId w
  refine ⟨hIds ▸ h.ids_nodup, fun v hv => h.ids_nonblank v.id ?_, by simp⟩
  rw [← hIds]
  exact List.mem_map_of_mem hv

/-- A tidy layout in which one widget was changed is tidied to one that is edited, whatever the
change was. No label is given, since the ids are those from before. -/
theorem IsTidy.exists_edited [LabelSource] (h : l.IsTidy) (hFind : l.find? id = some w)
    (hId : ∀ w, (f w).id = id) {limit : Nat} (hLimit : l.widgets.length ≤ limit + 1)
    (labels : Labels) :
    ∃ t, (l.modify id f).tidy limit labels = .ok (t, labels) ∧ l.Edited (f w) t := by
  obtain ⟨r, hRect, hFits⟩ :=
    exists_tidyRect? (w := f w) h.columns_pos h.rowHeight_pos.1 h.gap_nonneg.1
  let g : Widget Exact → Widget Exact := fun w => (f w).withRect r
  have hKept (w : Widget Exact) (_ : w.id = id) : (g w).id = id := hId w
  have hRepaired : (l.modify id g).IsRepaired :=
    { columns_pos := h.columns_pos, rowHeight_pos := h.rowHeight_pos, gap_nonneg := h.gap_nonneg,
      ids_nodup := (modify_ids l hKept).symm ▸ h.ids_nodup
      ids_nonblank := (modify_ids l hKept).symm ▸ h.ids_nonblank
      fits := forall_mem_modifyFirst id (fun _ _ => hFits) h.fits }
  -- Tidying the change amounts to settling the change with a tidied rectangle.
  have hLabels := relabel_of_areNew labels ((modifyFirst id f l.widgets).map (·.id))
    (h.toIsRepaired.areNew_modifyFirst hId)
  have hTidy : (l.modify id f).tidy limit labels =
      .ok ((l.modify id g).settle none limit, labels) :=
    h.tidy_widgets hLabels (h.mapM_tidyRect?_modifyFirst hFind hRect)
  have hLowered := settle_lowered none limit hRepaired.isFinite
  have hSameId (w v : Widget Exact) (h : w.Lowered v) : (v.id == id) = (w.id == id) := by
    rw [h.id_eq]
  have hLength : (l.modify id g).widgets.length ≤ limit + 1 := by rwa [modify, length_modifyFirst]
  refine ⟨_, hTidy, (settle_ids _ none limit).trans (modify_ids l hKept), ?_, ?_, rfl,
    hRepaired.settle_isTidy none hLength⟩
  · have hChanged : (l.modify id g).find? id = some (g w) := find?_modifyFirst hFind (hId w)
    obtain ⟨v, hv, hSame, -⟩ := exists_find?_of_forall₂ hSameId hLowered hChanged
    rw [hId w]
    exact ⟨v, hv, by rw [hSame]; rfl⟩
  · have hOthers := forall₂_eraseP hSameId hLowered
    rw [hId w]
    rwa [modify, eraseP_modifyFirst hKept] at hOthers

end Changed

end Layout
end NoteBoard
