import NoteBoard.Proofs.Board.Effects
import NoteBoard.Proofs.Board.Reached
import NoteBoard.Proofs.Layout.Edit

/-! The layout of a board stays tidy while it is in cells, whatever calls there are. -/
namespace NoteBoard
namespace Board

variable {σ τ : Type}

/-- What every call keeps. A layout in pixels is promised nothing, but what is shown during a
gesture has its unit and columns, so that no layout in cells can come out of it. -/
structure IsSound (b : Board Exact σ τ) : Prop where
  alike : ∀ l ∈ b.working, l.unit = b.layout.unit ∧ l.columns = b.layout.columns
  tidy : b.layout.unit = .cells → b.layout.IsTidy
  repaired : b.layout.unit = .cells → ∀ l ∈ b.working, l.IsRepaired
  fits : b.layout.unit = .cells → ∀ g ∈ b.gesture, g.rect.Fits .cells b.layout.columns

/-- A board that is busy with nothing is sound if its layout is tidy. -/
theorem isSound_of_idle {b : Board Exact σ τ} (hWorking : b.working = none)
    (hGesture : b.gesture = none) (hTidy : b.layout.unit = .cells → b.layout.IsTidy) :
    b.IsSound where
  alike := by simp [hWorking]
  tidy := hTidy
  repaired := by simp [hWorking]
  fits := by simp [hGesture]

/-- Nothing but the layout and the gesture matters. -/
theorem IsSound.congr {b b' : Board Exact σ τ} (h : b.IsSound) (hLayout : b'.layout = b.layout)
    (hWorking : b'.working = b.working) (hGesture : b'.gesture = b.gesture) : b'.IsSound where
  alike := by
    rw [hWorking, hLayout]
    exact h.alike
  tidy := by
    rw [hLayout]
    exact h.tidy
  repaired := by
    rw [hWorking, hLayout]
    exact h.repaired
  fits := by
    rw [hGesture, hLayout]
    exact h.fits

/-- What is shown is as good as the layout, but for overlaps. -/
theorem IsSound.shown {b : Board Exact σ τ} (h : b.IsSound) :
    (b.shown.unit = b.layout.unit ∧ b.shown.columns = b.layout.columns) ∧
      (b.layout.unit = .cells → b.shown.IsRepaired) := by
  cases hWorking : b.working with
  | none =>
      have hShown : b.shown = b.layout := by rw [Board.shown, hWorking, Option.getD_none]
      rw [hShown]
      exact ⟨⟨rfl, rfl⟩, fun hCells => (h.tidy hCells).toIsRepaired⟩
  | some l =>
      have hShown : b.shown = l := by rw [Board.shown, hWorking, Option.getD_some]
      rw [hShown]
      exact ⟨h.alike l hWorking, fun hCells => h.repaired hCells l hWorking⟩

/-- A layout in the unit of the board is in cells only if it is the layout as it was. -/
theorem eq_of_converted {b : Board Exact σ τ} {l l' : Layout Exact} (h : b.converted l = .ok l')
    (hCells : l'.unit = .cells) : l' = l := by
  unfold converted inBoardUnit at h
  split at h
  · split at h
    · rw [Layout.toPixels_unit h] at hCells
      cases hCells
    · exact (Except.ok.inj h).symm
  · exact (Except.ok.inj h).symm

/-- A tidied layout that is adopted makes a board sound, if the gesture in progress is ended. -/
theorem isSound_of_tidied [LabelSource] {b : Board Exact σ τ} {l : Layout Exact} {limit : Nat}
    {labels labels' : Labels} (hTidy : l.tidy limit labels = .ok (b.layout, labels'))
    (hWorking : b.working = none) (hGesture : b.gesture = none)
    (hLimit : b.layout.widgets.length ≤ limit) : b.IsSound :=
  isSound_of_idle hWorking hGesture fun _ => (Layout.tidy_isTidy hTidy hLimit).1

theorem create_isSound [LabelSource] {b : Board Exact σ τ} {settings : Settings Exact}
    {source : σ} {keeper : τ} {labels : Labels}
    (hCreate : create settings source keeper labels = .ok b) (hRoom : b.HasRoom) : b.IsSound := by
  obtain ⟨-, t, labels', hTidy, rfl⟩ := eq_of_create hCreate
  exact isSound_of_tidied hTidy rfl rfl hRoom

namespace IsSound

variable {b : Board Exact σ τ} (h : b.IsSound)

include h

theorem abandonGesture : b.abandonGesture.2.IsSound :=
  isSound_of_idle rfl rfl h.tidy

theorem close : b.close.IsSound :=
  isSound_of_idle rfl rfl h.tidy

theorem startFetch (id : String) : (b.startFetch id).2.IsSound := by
  rcases b.startFetch_cases id with ⟨w, -, hStart⟩ | ⟨-, hStart⟩
  · rw [hStart]
    exact h.congr rfl rfl rfl
  · rw [hStart]
    exact h

theorem applyFetch (t : Ticket) (data : WidgetView Exact) : (b.applyFetch t data).2.IsSound := by
  simp only [Board.applyFetch, Fetches.commit]
  split
  · split
    · exact h.congr rfl rfl rfl
    · exact h.congr rfl rfl rfl
  · exact h.congr rfl rfl rfl

theorem evaluate [TimeZone] [Provider σ Exact] (id : String) (now : Instant) :
    (b.evaluate id now).2.IsSound := by
  rcases b.evaluate_cases id now with ⟨w, -, hEvaluate⟩ | ⟨-, hEvaluate⟩
  · rw [hEvaluate]
    exact h.congr rfl rfl rfl
  · rw [hEvaluate]
    exact h

theorem evaluateEach [TimeZone] [Provider σ Exact] (now : Instant) :
    (b.evaluateEach now).2.IsSound :=
  h.congr rfl rfl rfl

theorem flipTask [Provider σ Exact] (path : String) (line : Nat) :
    (b.flipTask path line).2.IsSound := by
  unfold Board.flipTask
  split
  · exact h.congr rfl rfl rfl
  · exact h.congr rfl rfl rfl

/-- A gesture begins on a widget of the layout, whose rectangle fits. -/
theorem startGesture (kind : GestureKind) (id : String) (p : Point Exact) :
    (b.startGesture kind id p).2.IsSound := by
  rcases b.startGesture_cases kind id p with ⟨s, w, -, hFind, hStart⟩ | ⟨e, hStart⟩
  · rw [hStart]
    refine { alike := ?_, tidy := h.tidy, repaired := ?_, fits := ?_ }
    · intro l hWorking
      cases hWorking
      exact ⟨rfl, rfl⟩
    · intro hCells l hWorking
      cases hWorking
      exact (h.tidy hCells).toIsRepaired
    · intro hCells g hBegun
      cases hBegun
      have hFits := (h.tidy hCells).fits w (Layout.mem_of_find? hFind).1
      exact hCells ▸ hFits
  · rw [hStart]
    exact h

/-- Over cells, the widget stays within the columns while the pointer moves. -/
theorem movePointer (p : Point Exact) : (b.movePointer p).2.IsSound := by
  obtain ⟨⟨hUnit, hColumns⟩, hShown⟩ := h.shown
  rcases b.movePointer_cases p with ⟨-, hMove⟩ | ⟨g, s, r, hGesture, hSurface, hRect, hMove⟩ |
    ⟨e, hMove⟩
  · rw [hMove]
    exact h
  · rw [hMove]
    refine { alike := ?_, tidy := h.tidy, repaired := ?_, fits := h.fits }
    · intro l hWorking
      cases hWorking
      exact ⟨hUnit, hColumns⟩
    · intro hCells l hWorking
      cases hWorking
      obtain ⟨hSurfaceUnit, hSurfaceColumns⟩ := surface_measures hSurface
      have hFits : g.rect.Fits .cells s.columns := by
        rw [hSurfaceColumns]
        exact h.fits hCells g hGesture
      have hMoved := Gesture.rectAt?_fits (hSurfaceUnit.trans hCells) hFits hRect
      rw [hSurfaceColumns, ← hColumns] at hMoved
      rw [← hCells, ← hUnit] at hMoved
      exact (hShown hCells).modify_withRect g.widget hMoved
  · rw [hMove]
    exact h

theorem load [LabelSource] (l : Layout Exact) (hRoom : (b.load l).2.HasRoom) :
    (b.load l).2.IsSound := by
  rcases b.load_cases l with ⟨t, labels, l', hTidy, hConverted, hLoad⟩ | ⟨e, hLoad⟩
  · rw [hLoad] at hRoom ⊢
    refine isSound_of_idle rfl rfl fun hCells => ?_
    obtain rfl := eq_of_converted hConverted hCells
    exact (Layout.tidy_isTidy hTidy hRoom).1
  · rw [hLoad]
    exact h

theorem loadText [LabelSource] (text : String) (hRoom : (b.loadText text).2.HasRoom) :
    (b.loadText text).2.IsSound := by
  unfold Board.loadText at hRoom ⊢
  split at hRoom
  · next l _ => exact h.load l hRoom
  · exact h

section Saved

variable [LayoutKeeper τ Exact]

/-- A gesture ends with a layout that is settled, and hence tidy. -/
theorem liftPointer (hRoom : b.liftPointer.2.HasRoom) : b.liftPointer.2.IsSound := by
  rcases b.liftPointer_cases with ⟨-, hLift⟩ | ⟨g, -, hLift⟩
  · rw [hLift]
    exact h
  · rw [hLift] at hRoom ⊢
    refine isSound_of_idle rfl rfl fun hCells => ?_
    -- What is adopted is what was shown, and nothing but overlaps was wrong with that.
    have hUnit : b.layout.unit = .cells := h.shown.1.1.symm.trans hCells
    have hLength : b.shown.widgets.length ≤ b.settings.limit := by
      rw [← Layout.length_settle_widgets b.shown (some g.widget) b.settings.limit]
      exact hRoom
    exact (h.shown.2 hUnit).settle_isTidy (some g.widget) (by omega)

/-- Whether a new container changes anything or not, no layout in cells comes out of it that was
not there before. -/
theorem measure (c : Container Exact) : (b.measure c).2.IsSound := by
  rcases b.measure_cases c with ⟨-, hMeasure⟩ | ⟨-, -, hMeasure⟩ |
    ⟨-, -, l, hPixels, hMeasure⟩ | ⟨-, -, e, -, hMeasure⟩
  · rw [hMeasure]
    exact h
  · rw [hMeasure]
    exact h.congr rfl rfl rfl
  · rw [hMeasure]
    have hUnit : l.unit ≠ .cells := by
      rw [Layout.toPixels_unit hPixels]
      decide
    -- The gesture goes on in pixels, and its rectangle counts cells no longer.
    exact { alike := by simp [adopt], tidy := fun hCells => absurd hCells hUnit,
            repaired := fun hCells => absurd hCells hUnit,
            fits := fun hCells => absurd hCells hUnit }
  · rw [hMeasure]
    exact h.congr rfl rfl rfl

theorem remove (id : String) : (b.remove id).2.IsSound := by
  rcases b.remove_cases id with ⟨w, -, hRemove⟩ | ⟨-, hRemove⟩
  · rw [hRemove]
    exact isSound_of_idle rfl rfl fun hCells => (h.tidy hCells).remove id
  · rw [hRemove]
    exact h

variable [LabelSource]

theorem insert (w : Widget Exact) (hRoom : (b.insert w).2.HasRoom) : (b.insert w).2.IsSound := by
  rcases b.insert_cases w with ⟨t, labels, hTidy, hInsert⟩ | ⟨e, -, hInsert⟩
  · rw [hInsert] at hRoom ⊢
    exact isSound_of_tidied (b := { b.abandonGesture.2 with labels := labels }.adopt t) hTidy rfl
      rfl hRoom
  · rw [hInsert]
    exact h

theorem add (t : WidgetType) (hRoom : (b.add t).2.HasRoom) : (b.add t).2.IsSound := by
  rcases b.add_cases t with ⟨r, hAdd⟩ | ⟨e, -, hAdd⟩
  · rw [hAdd] at hRoom ⊢
    have hSame : ({ b with labels := (b.labels.fresh b.layout.ids).2 } : Board Exact σ τ).IsSound :=
      h.congr rfl rfl rfl
    exact hSame.insert _ hRoom
  · rw [hAdd]
    exact h

/-- Whatever an edit makes of a widget, the layout is tidied again. -/
theorem update (id : String) (edit : Widget Exact → Widget Exact)
    (hRoom : (b.update id edit).2.HasRoom) : (b.update id edit).2.IsSound := by
  rcases b.update_cases id edit with ⟨t, labels, -, hTidy, hUpdate⟩ | ⟨e, hUpdate⟩
  · rw [hUpdate] at hRoom ⊢
    exact isSound_of_idle rfl rfl fun _ => (Layout.tidy_isTidy hTidy hRoom).1
  · rw [hUpdate]
    exact h

theorem reset (hRoom : b.reset.2.HasRoom) : b.reset.2.IsSound := by
  rcases b.reset_cases with ⟨t, labels, hTidy, ⟨l, hConverted, hReset⟩ | ⟨e, -, hReset⟩⟩ |
    ⟨e, -, hReset⟩
  · rw [hReset] at hRoom ⊢
    refine isSound_of_idle rfl rfl fun hCells => ?_
    obtain rfl := eq_of_converted hConverted hCells
    exact (Layout.tidy_isTidy hTidy hRoom).1
  · rw [hReset]
    exact isSound_of_idle rfl rfl h.tidy
  · rw [hReset]
    exact h

/-- Every call keeps a board sound. -/
theorem perform [TimeZone] [Provider σ Exact] (call : Call Exact)
    (hRoom : (b.perform call).2.HasRoom) :
    (b.perform call).2.IsSound := by
  cases call with
  | measure c =>
      rw [Board.perform, reply_snd]
      exact h.measure c
  | load l =>
      rw [Board.perform, reply_snd] at hRoom ⊢
      exact h.load l hRoom
  | loadText text =>
      rw [Board.perform, reply_snd] at hRoom ⊢
      exact h.loadText text hRoom
  | add t =>
      rw [Board.perform, reply_snd] at hRoom ⊢
      exact h.add t hRoom
  | insert w =>
      rw [Board.perform, reply_snd] at hRoom ⊢
      exact h.insert w hRoom
  | remove id =>
      rw [Board.perform, reply_snd]
      exact h.remove id
  | update id edit =>
      rw [Board.perform, reply_snd] at hRoom ⊢
      exact h.update id edit hRoom
  | reset =>
      rw [Board.perform, reply_snd] at hRoom ⊢
      exact h.reset hRoom
  | startGesture kind id p =>
      rw [Board.perform, reply_snd]
      exact h.startGesture kind id p
  | movePointer p =>
      rw [Board.perform, reply_snd]
      exact h.movePointer p
  | liftPointer => exact h.liftPointer hRoom
  | abandonGesture => exact h.abandonGesture
  | evaluate id now =>
      rw [Board.perform, reply_snd]
      exact h.evaluate id now
  | evaluateEach now => exact h.evaluateEach now
  | startFetch id =>
      rw [Board.perform, reply_snd]
      exact h.startFetch id
  | applyFetch t data => exact h.applyFetch t data
  | flipTask path line => exact h.flipTask path line
  | close => exact h.close

end Saved

end IsSound

section Reached

variable [TimeZone] [LabelSource] [Provider σ Exact] [LayoutKeeper τ Exact]

theorem Reached.isSound {b : Board Exact σ τ} (h : Reached HasRoom b) : b.IsSound :=
  h.invariant (fun _ _ _ _ _ hCreate hRoom => create_isSound hCreate hRoom)
    fun _ call hSound hRoom => hSound.perform call hRoom

/-- Whatever a host asks of a board, the layout of the board is tidy whenever it is in cells:
tidying would change nothing. So no widgets overlap, their ids are different and not blank, and
their rectangles are whole and lie within the columns. -/
theorem Reached.layout_tidy {b : Board Exact σ τ} (h : Reached HasRoom b)
    (hCells : b.layout.unit = .cells) :
    (∀ labels, b.layout.tidy b.settings.limit labels = .ok (b.layout, labels)) ∧
      b.layout.isOverlapping = false ∧ b.layout.ids.Nodup ∧
      (∀ id ∈ b.layout.ids, Text.trim id ≠ "") ∧
      ∀ w ∈ b.layout.widgets, w.rect.Fits .cells b.layout.columns := by
  have hTidy := h.isSound.tidy hCells
  refine ⟨?_, hTidy.apart, hTidy.ids_nodup, hTidy.ids_nonblank, ?_⟩
  · exact Layout.tidy_of_isTidy hTidy b.settings.limit
  · intro w hw
    exact hCells ▸ hTidy.fits w hw

end Reached

instance (b : Board Exact σ τ) : Decidable b.HasRoom :=
  inferInstanceAs (Decidable (_ ≤ _))

-- The host of the boards below keeps universal time.
attribute [local instance] TimeZone.universal

/-- A new board, without notes, that saves nothing. -/
def newBoard : Except (Error Exact) (Board Exact (NoProvider Exact) (NoKeeper Exact)) :=
  create .defaults ⟨⟩ ⟨⟩ ⟨0⟩

/-- A container is measured, and the third widget is dragged upwards over two others. -/
def dragCalls : List (Call Exact) :=
  [.measure ⟨1200, 800⟩, .startGesture .drag (label 3) ⟨0, 0⟩, .movePointer ⟨0, -200⟩,
    .liftPointer]

theorem dragged_layout_tidy : ∃ b, newBoard = .ok b ∧
    (b.run dragCalls).layout.widgets.map Widget.y = [4, 4, 0, 0] ∧
    Reached HasRoom (b.run dragCalls) ∧ (b.run dragCalls).layout.unit = .cells ∧
    (∀ labels, (b.run dragCalls).layout.tidy (b.run dragCalls).settings.limit labels =
      .ok ((b.run dragCalls).layout, labels)) ∧
    (b.run dragCalls).layout.isOverlapping = false := by
  have hRun : (match newBoard with
      | .ok b => decide (b.HasRoom ∧ (∀ done ∈ dragCalls.inits, (b.run done).HasRoom) ∧
          (b.run dragCalls).layout.widgets.map Widget.y = [4, 4, 0, 0] ∧
          (b.run dragCalls).layout.unit = .cells)
      | .error _ => false) = true := by decide +kernel
  cases hNew : newBoard with
  | error e =>
      rw [hNew] at hRun
      cases hRun
  | ok b =>
      rw [hNew] at hRun
      obtain ⟨hRoom, hRooms, hRows, hCells⟩ := of_decide_eq_true hRun
      have hReached : Reached HasRoom (b.run dragCalls) := (Reached.created hNew hRoom).run hRooms
      obtain ⟨hTidy, hApart, -⟩ := Reached.layout_tidy hReached hCells
      exact ⟨b, rfl, hRows, hReached, hCells, hTidy, hApart⟩

end Board
end NoteBoard
