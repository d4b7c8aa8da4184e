import NoteBoard.Number.Exact
import NoteBoard.Proofs.Board.Effects
import NoteBoard.Proofs.Board.Reached
import NoteBoard.Proofs.Board.Tickets
import NoteBoard.Proofs.Layout.Ids

/-! What a board knows about widgets beside its layout: the data they showed last, and the fetches
that are under way for them. Whatever calls there are, both are about widgets of the layout, which
can be told from each other by their ids. -/
namespace NoteBoard

namespace Fetches

theorem isUnderWay_start {f : Fetches} {widget other : String} :
    (f.start widget).2.isUnderWay other = true ↔ other = widget ∨ f.isUnderWay other = true := by
  simp only [isUnderWay, start, Table.lookup_set]
  split
  · next h => simp [h]
  · next h => simp [h]

theorem isUnderWay_cancel {f : Fetches} {widget other : String} :
    (f.cancel widget).2.isUnderWay other = true ↔
      other ≠ widget ∧ f.isUnderWay other = true := by
  simp only [isUnderWay, lookup_pending_cancel]
  split
  · next h => simp [h]
  · next h => simp [h]

theorem isUnderWay_of_ended {f : Fetches} {t : Ticket} {other : String}
    (h : (f.ended t).isUnderWay other = true) : f.isUnderWay other = true := by
  simp only [isUnderWay, lookup_pending_ended] at h ⊢
  split at h
  · cases h
  · exact h

end Fetches

namespace Board

variable {K σ τ : Type}

/-- What every call keeps. The working copy counts too, since it becomes the layout in the end. -/
structure IsAligned (b : Board K σ τ) : Prop where
  labelled : b.layout.IsLabelled
  data : ∀ id ∈ b.data.names, id ∈ b.layout.ids
  fetches : ∀ id, b.fetches.isUnderWay id = true → id ∈ b.layout.ids
  working : ∀ l ∈ b.working, l.ids = b.layout.ids

/-- A board without data and fetches is aligned if its layout is labelled. -/
theorem isAligned_of_idle {b : Board K σ τ} (hLabelled : b.layout.IsLabelled)
    (hData : b.data = []) (hFetches : b.fetches.pending = []) (hWorking : b.working = none) :
    b.IsAligned where
  labelled := hLabelled
  data := by simp [hData, Table.names]
  fetches := by simp [Fetches.isUnderWay, hFetches]
  working := by simp [hWorking]

theorem IsAligned.shown_ids {b : Board K σ τ} (h : b.IsAligned) : b.shown.ids = b.layout.ids := by
  cases hWorking : b.working with
  | none => rw [shown, hWorking, Option.getD_none]
  | some l => rw [shown, hWorking, Option.getD_some, h.working l hWorking]

/-- A layout that has all the ids may take the place of the one before. -/
theorem IsAligned.adopt [LayoutKeeper τ K] {b : Board K σ τ} (h : b.IsAligned) {l : Layout K}
    (hLabelled : l.IsLabelled) (hIds : ∀ id ∈ b.layout.ids, id ∈ l.ids) :
    (b.adopt l).IsAligned where
  labelled := hLabelled
  data := fun id hId => hIds id (h.data id hId)
  fetches := fun id hId => hIds id (h.fetches id hId)
  working := nofun

section Number

variable [Number K]

theorem converted_ids {b : Board K σ τ} {l l' : Layout K} (h : b.converted l = .ok l') :
    l'.ids = l.ids := by
  unfold converted inBoardUnit at h
  split at h
  · split at h
    · exact Layout.toPixels_ids h
    · exact congrArg Layout.ids (Except.ok.inj h).symm
  · exact congrArg Layout.ids (Except.ok.inj h).symm

theorem create_isAligned [LabelSource] {b : Board K σ τ} {settings : Settings K} {source : σ}
    {keeper : τ} {labels : Labels} (hCreate : create settings source keeper labels = .ok b) :
    b.IsAligned := by
  obtain ⟨-, t, labels', hTidy, rfl⟩ := eq_of_create hCreate
  exact isAligned_of_idle (Layout.tidy_isLabelled hTidy).1 rfl rfl rfl

end Number

namespace IsAligned

variable {b : Board K σ τ} (h : b.IsAligned)

include h

theorem abandonGesture : b.abandonGesture.2.IsAligned :=
  ⟨h.labelled, h.data, h.fetches, nofun⟩

theorem close : b.close.IsAligned :=
  ⟨h.labelled, h.data, nofun, nofun⟩

theorem startFetch (id : String) : (b.startFetch id).2.IsAligned := by
  rcases b.startFetch_cases id with ⟨w, hFind, hStart⟩ | ⟨-, hStart⟩
  · rw [hStart]
    refine ⟨h.labelled, h.data, ?_, h.working⟩
    intro other hOther
    rcases Fetches.isUnderWay_start.1 hOther with rfl | hOther
    · exact Layout.mem_ids_of_find? hFind
    · exact h.fetches other hOther
  · rw [hStart]
    exact h

/-- What arrives for a widget that is gone is dropped. -/
theorem applyFetch (t : Ticket) (data : WidgetView K) : (b.applyFetch t data).2.IsAligned := by
  have hEnded : ({ b with fetches := b.fetches.ended t } : Board K σ τ).IsAligned :=
    ⟨h.labelled, h.data, fun id hId => h.fetches id (Fetches.isUnderWay_of_ended hId), h.working⟩
  simp only [Board.applyFetch, Fetches.commit]
  split
  · next hContains =>
    split
    · refine ⟨hEnded.labelled, ?_, hEnded.fetches, hEnded.working⟩
      intro id hId
      rcases (Table.mem_names_set b.data t.widget id data).1 hId with rfl | hId
      · exact (b.layout.contains_iff t.widget).1 hContains
      · exact h.data id hId
    · exact hEnded
  · exact hEnded

theorem flipTask [Provider σ K] (path : String) (line : Nat) :
    (b.flipTask path line).2.IsAligned := by
  unfold Board.flipTask
  split
  · exact ⟨h.labelled, nofun, h.fetches, h.working⟩
  · exact ⟨h.labelled, h.data, h.fetches, h.working⟩

section Number

variable [Number K]

theorem startGesture (kind : GestureKind) (id : String) (p : Point K) :
    (b.startGesture kind id p).2.IsAligned := by
  rcases b.startGesture_cases kind id p with ⟨s, w, -, -, hStart⟩ | ⟨e, hStart⟩
  · rw [hStart]
    refine ⟨h.labelled, h.data, h.fetches, ?_⟩
    intro l hWorking
    cases hWorking
    rfl
  · rw [hStart]
    exact h

theorem movePointer (p : Point K) : (b.movePointer p).2.IsAligned := by
  rcases b.movePointer_cases p with ⟨-, hMove⟩ | ⟨g, s, r, -, -, -, hMove⟩ | ⟨e, hMove⟩
  · rw [hMove]
    exact h
  · rw [hMove]
    refine ⟨h.labelled, h.data, h.fetches, ?_⟩
    intro l hWorking
    cases hWorking
    rw [Layout.modify_ids b.shown fun w hSame => (w.id_withRect r).trans hSame, h.shown_ids]
  · rw [hMove]
    exact h

theorem load [LabelSource] (l : Layout K) : (b.load l).2.IsAligned := by
  rcases b.load_cases l with ⟨t, labels, l', hTidy, hConverted, hLoad⟩ | ⟨e, hLoad⟩
  · rw [hLoad]
    have hLabelled := (Layout.tidy_isLabelled hTidy).1.congr (converted_ids hConverted)
    exact isAligned_of_idle hLabelled rfl rfl rfl
  · rw [hLoad]
    exact h

section Saved

variable [LayoutKeeper τ K]

/-- What a gesture ends with has the widgets that were shown. -/
theorem liftPointer : b.liftPointer.2.IsAligned := by
  rcases b.liftPointer_cases with ⟨-, hLift⟩ | ⟨g, -, hLift⟩
  · rw [hLift]
    exact h
  · rw [hLift]
    have hIds : (b.shown.settle (some g.widget) b.settings.limit).ids = b.layout.ids := by
      rw [Layout.settle_ids, h.shown_ids]
    have hEnded : ({ b with gesture := none } : Board K σ τ).IsAligned :=
      ⟨h.labelled, h.data, h.fetches, h.working⟩
    exact hEnded.adopt (h.labelled.congr hIds) fun id hId => hIds ▸ hId

theorem measure (c : Container K) : (b.measure c).2.IsAligned := by
  have hMeasured : ({ b with container := some c } : Board K σ τ).IsAligned :=
    ⟨h.labelled, h.data, h.fetches, h.working⟩
  rcases b.measure_cases c with ⟨-, hMeasure⟩ | ⟨-, -, hMeasure⟩ |
    ⟨-, -, l, hPixels, hMeasure⟩ | ⟨-, -, e, -, hMeasure⟩
  · rw [hMeasure]
    exact h
  · rw [hMeasure]
    exact hMeasured
  · rw [hMeasure]
    have hIds := Layout.toPixels_ids hPixels
    exact hMeasured.adopt (h.labelled.congr hIds) fun id hId => hIds ▸ hId
  · rw [hMeasure]
    exact hMeasured

omit [Number K] in
/-- The widget takes its data and its fetch with it. -/
theorem remove (id : String) : (b.remove id).2.IsAligned := by
  rcases b.remove_cases id with ⟨w, -, hRemove⟩ | ⟨-, hRemove⟩
  · rw [hRemove]
    refine ⟨h.labelled.remove id, ?_, ?_, nofun⟩
    · intro other hOther
      obtain ⟨hKept, hMem⟩ := (Table.mem_names_erase b.data id other).1 hOther
      exact Layout.mem_ids_remove hKept (h.data other hMem)
    · intro other hOther
      obtain ⟨hKept, hPending⟩ := Fetches.isUnderWay_cancel.1 hOther
      exact Layout.mem_ids_remove hKept (h.fetches other hPending)
  · rw [hRemove]
    exact h

variable [LabelSource]

/-- Only the new widget may get another id. -/
theorem insert (w : Widget K) : (b.insert w).2.IsAligned := by
  rcases b.insert_cases w with ⟨t, labels, hTidy, hInsert⟩ | ⟨e, -, hInsert⟩
  · rw [hInsert]
    obtain ⟨hLabelled, hKept⟩ := Layout.tidy_isLabelled hTidy
    have hIdle : ({ b.abandonGesture.2 with labels := labels } : Board K σ τ).IsAligned :=
      ⟨h.labelled, h.data, h.fetches, nofun⟩
    refine hIdle.adopt hLabelled fun id hId => hKept id ?_ (h.labelled.nonblank id hId)
    rw [Layout.place_ids]
    exact List.mem_append_left _ hId
  · rw [hInsert]
    exact h

theorem add (t : WidgetType) : (b.add t).2.IsAligned := by
  rcases b.add_cases t with ⟨r, hAdd⟩ | ⟨e, -, hAdd⟩
  · rw [hAdd]
    have hSame : ({ b with labels := (b.labels.fresh b.layout.ids).2 } : Board K σ τ).IsAligned :=
      ⟨h.labelled, h.data, h.fetches, h.working⟩
    exact hSame.insert _
  · rw [hAdd]
    exact h

/-- Whatever an edit does, it cannot rename the widget. -/
theorem update (id : String) (edit : Widget K → Widget K) : (b.update id edit).2.IsAligned := by
  rcases b.update_cases id edit with ⟨t, labels, -, hTidy, hUpdate⟩ | ⟨e, hUpdate⟩
  · rw [hUpdate]
    obtain ⟨hLabelled, hKept⟩ := Layout.tidy_isLabelled hTidy
    have hDropped : ({ b.abandonGesture.2 with
        fetches := (b.fetches.cancel id).2
        data := b.data.erase id
        labels := labels } : Board K σ τ).IsAligned := by
      refine ⟨h.labelled, ?_, ?_, nofun⟩
      · intro other hOther
        exact h.data other ((Table.mem_names_erase b.data id other).1 hOther).2
      · intro other hOther
        exact h.fetches other (Fetches.isUnderWay_cancel.1 hOther).2
    have hIds : (b.layout.modify id fun w => { edit w.upgrade with id := id }).ids =
        b.layout.ids := Layout.modify_ids b.layout fun _ _ => rfl
    refine hDropped.adopt hLabelled fun other hOther => ?_
    exact hKept other (hIds ▸ hOther) (h.labelled.nonblank other hOther)
  · rw [hUpdate]
    exact h

/-- Also a reset that fails leaves nothing behind that is about other widgets. -/
theorem reset : b.reset.2.IsAligned := by
  rcases b.reset_cases with ⟨t, labels, hTidy, ⟨l, hConverted, hReset⟩ | ⟨e, -, hReset⟩⟩ |
    ⟨e, -, hReset⟩
  · rw [hReset]
    have hLabelled := (Layout.tidy_isLabelled hTidy).1.congr (converted_ids hConverted)
    exact isAligned_of_idle hLabelled rfl rfl rfl
  · rw [hReset]
    exact isAligned_of_idle h.labelled rfl rfl rfl
  · rw [hReset]
    exact h

end Saved

end Number

section Numeral

variable [Numeral K]

theorem evaluate [TimeZone] [Provider σ K] (id : String) (now : Instant) :
    (b.evaluate id now).2.IsAligned := by
  rcases b.evaluate_cases id now with ⟨w, hFind, hEvaluate⟩ | ⟨-, hEvaluate⟩
  · rw [hEvaluate]
    refine ⟨h.labelled, ?_, h.fetches, h.working⟩
    intro other hOther
    rcases (Table.mem_names_set b.data id other _).1 hOther with rfl | hOther
    · exact Layout.mem_ids_of_find? hFind
    · exact h.data other hOther
  · rw [hEvaluate]
    exact h

theorem evaluateEach [TimeZone] [Provider σ K] (now : Instant) :
    (b.evaluateEach now).2.IsAligned := by
  refine ⟨h.labelled, ?_, h.fetches, h.working⟩
  intro id hId
  rcases (Table.mem_names_foldl_set b.data _ id).1 hId with hOld | hNew
  · exact h.data id hOld
  · rw [List.map_map] at hNew
    exact hNew

theorem loadText [LabelSource] (text : String) : (b.loadText text).2.IsAligned := by
  unfold Board.loadText
  split
  · next l _ => exact h.load l
  · exact h

variable [TimeZone] [LabelSource] [Provider σ K] [LayoutKeeper τ K]

/-- Every call keeps data and fetches aligned with the layout. -/
theorem perform (call : Call K) : (b.perform call).2.IsAligned := by
  cases call with
  | measure c =>
      rw [Board.perform, reply_snd]
      exact h.measure c
  | load l =>
      rw [Board.perform, reply_snd]
      exact h.load l
  | loadText text =>
      rw [Board.perform, reply_snd]
      exact h.loadText text
  | add t =>
      rw [Board.perform, reply_snd]
      exact h.add t
  | insert w =>
      rw [Board.perform, reply_snd]
      exact h.insert w
  | remove id =>
      rw [Board.perform, reply_snd]
      exact h.remove id
  | update id edit =>
      rw [Board.perform, reply_snd]
      exact h.update id edit
  | reset =>
      rw [Board.perform, reply_snd]
      exact h.reset
  | startGesture kind id p =>
      rw [Board.perform, reply_snd]
      exact h.startGesture kind id p
  | movePointer p =>
      rw [Board.perform, reply_snd]
      exact h.movePointer p
  | liftPointer => exact h.liftPointer
  | abandonGesture => exact h.abandonGesture
  | evaluate id now =>
      rw [Board.perform, reply_snd]
      exact h.evaluate id now
  | evaluateEach now => exact h.evaluateEach now
  | startFetch id =>
      rw [Board.perform, reply_snd]
      exact h.startFetch id
  | applyFetch t data => exact h.applyFetch t data
  | flipTask path line => exact h.flipTask path line
  | close => exact h.close

end Numeral

end IsAligned

section Reached

variable [Numeral K] [TimeZone] [LabelSource] [Provider σ K] [LayoutKeeper τ K]

theorem Reached.isAligned {Admitted : Board K σ τ → Prop} {b : Board K σ τ}
    (h : Reached Admitted b) : b.IsAligned :=
  h.invariant (fun _ _ _ _ _ hCreate _ => create_isAligned hCreate)
    fun _ call hAligned _ => hAligned.perform call

/-- Whatever a host asks of a board, its widgets have different ids, none of them blank, and a
board has data and fetches only for widgets of its layout. -/
theorem Reached.widgets_aligned {Admitted : Board K σ τ → Prop} {b : Board K σ τ}
    (h : Reached Admitted b) :
    b.layout.ids.Nodup ∧ (∀ id ∈ b.layout.ids, Text.trim id ≠ "") ∧
      (∀ id ∈ b.data.names, id ∈ b.layout.ids) ∧
      ∀ id, b.fetches.isUnderWay id = true → id ∈ b.layout.ids := by
  have hAligned := h.isAligned
  exact ⟨hAligned.labelled.nodup, hAligned.labelled.nonblank, hAligned.data, hAligned.fetches⟩

end Reached

-- The host of the boards below keeps universal time.
attribute [local instance] TimeZone.universal

/-- The second widget is evaluated while the first is fetched; a widget comes with the id of the
first, and the third goes, so that it is fetched in vain. -/
def busyCalls : List (Call Exact) :=
  let now : Instant := .startOf ⟨0, by decide, by decide⟩
  [.startFetch (label 1), .startFetch (label 3), .evaluate (label 2) now, .evaluate (label 3) now,
    .insert (.new (label 1) .stats), .remove (label 3), .startFetch (label 3)]

/-- A new board, without notes, after these calls. -/
def busy : Except (Error Exact) (Board Exact (NoProvider Exact) (NoKeeper Exact)) :=
  (create .defaults ⟨⟩ ⟨⟩ ⟨0⟩).map fun b => b.run busyCalls

theorem busy_widgets_aligned : ∃ b, busy = .ok b ∧ Reached (fun _ => True) b ∧
    b.layout.ids = [label 1, label 2, label 4, label 5] ∧ b.data.names = [label 2] ∧
    b.fetches.isUnderWay (label 1) = true ∧ b.layout.ids.Nodup ∧
    (∀ id ∈ b.data.names, id ∈ b.layout.ids) ∧
    ∀ id, b.fetches.isUnderWay id = true → id ∈ b.layout.ids := by
  have hRun : (match busy with
      | .ok b => decide (b.layout.ids = [label 1, label 2, label 4, label 5] ∧
          b.data.names = [label 2] ∧ b.fetches.isUnderWay (label 1) = true)
      | .error _ => false) = true := by decide +kernel
  cases hNew : create (.defaults : Settings Exact) (⟨⟩ : NoProvider Exact) (⟨⟩ : NoKeeper Exact)
      ⟨0⟩ with
  | error e =>
      rw [busy, hNew] at hRun
      cases hRun
  | ok b =>
      rw [busy, hNew] at hRun ⊢
      obtain ⟨hIds, hNames, hUnderWay⟩ := of_decide_eq_true hRun
      have hNewReached : Reached (fun _ => True) b := .created hNew trivial
      have hReached : Reached (fun _ => True) (b.run busyCalls) :=
        hNewReached.run fun _ _ => trivial
      obtain ⟨hDistinct, -, hData, hFetches⟩ := Reached.widgets_aligned hReached
      exact ⟨_, rfl, hReached, hIds, hNames, hUnderWay, hDistinct, hData, hFetches⟩

end Board
end NoteBoard
