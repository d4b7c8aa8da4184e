import NoteBoard.Number.Binary64
import NoteBoard.Number.Exact
import NoteBoard.Proofs.Board.Effects
import NoteBoard.Proofs.Board.Reached
import NoteBoard.Proofs.Layout.Edit

/-! What is shown during a gesture. A container that is measured while a gesture is in progress
could turn the layout into pixels under it; that this never happens is the second half of what
every call keeps. -/
namespace NoteBoard

namespace Layout

variable {K : Type}

/-- A working copy goes with a gesture: with none there is no copy; else the widget of the gesture
is still where it was in the layout, and the copy differs from that in the widget's place only. -/
def IsFollowedBy (l : Layout K) (working : Option (Layout K)) : Option (Gesture K) → Prop
  | none => working = none
  | some g => (∃ w, l.find? g.widget = some w ∧ w.rect = g.rect) ∧
      ∃ r, working = some (l.modify g.widget fun w => w.withRect r)

variable [Number K]

/-- The measures that stand in for those out of range are in range themselves. -/
class HasRange (K : Type) [Number K] : Prop where
  isFinite_zero : Number.isFinite (0 : K) = true
  tidyGap_standard : tidyGap (standardGap : K) = standardGap

theorem tidyColumns_tidyColumns (columns : Nat) :
    tidyColumns (tidyColumns columns) = tidyColumns columns := by
  by_cases h : columns = 0
  · rw [h]
    rfl
  · have hSame : tidyColumns columns = columns := if_neg h
    rw [hSame, hSame]

theorem tidyGap_tidyGap [HasRange K] (gap : K) : tidyGap (tidyGap gap) = tidyGap gap := by
  cases hFinite : Number.isFinite gap with
  | false =>
      have hStandard : tidyGap gap = standardGap := by simp [tidyGap, hFinite]
      rw [hStandard, HasRange.tidyGap_standard]
  | true =>
      by_cases hPositive : 0 < gap
      · have hSame : tidyGap gap = gap := by
          simp [tidyGap, hFinite, Number.atLeast, hPositive]
        rw [hSame, hSame]
      · have hZero : tidyGap gap = 0 := by
          simp [tidyGap, hFinite, Number.atLeast, hPositive]
        rw [hZero]
        simp [tidyGap, HasRange.isFinite_zero, Number.atLeast]

/-- How wide columns are does not depend on the rows. -/
theorem columnWidth_congr {l l' : Layout K} (hColumns : l'.columns = l.columns)
    (hGap : l'.gap = l.gap) (padding : K) (c : Container K) :
    l'.columnWidth padding c = l.columnWidth padding c := by
  obtain ⟨columns, _, gap, _, _⟩ := l
  obtain ⟨columns', _, gap', _, _⟩ := l'
  cases hColumns
  cases hGap
  rfl

/-- A layout in cells is turned into pixels if there is a width for its columns. -/
theorem columnWidth_error_of_toPixels {l : Layout K} {padding : K} {c : Container K} {e : Error K}
    (hCells : l.unit = .cells) (h : l.toPixels padding c = .error e) :
    ∃ e, l.columnWidth padding c = .error e := by
  cases hWidth : l.columnWidth padding c with
  | error e => exact ⟨e, rfl⟩
  | ok width =>
      simp only [toPixels, hCells, hWidth] at h
      cases h

omit [Number K] in
theorem modify_withRect_self {l : Layout K} {id : String} {w : Widget K} (h : l.find? id = some w) :
    l.modify id (fun v => v.withRect w.rect) = l := by
  rw [modify, modifyFirst_withRect_self h]

end Layout

instance : Layout.HasRange Float where
  isFinite_zero := by decide +kernel
  tidyGap_standard := by decide +kernel

instance : Layout.HasRange Exact where
  isFinite_zero := by decide +kernel
  tidyGap_standard := by decide +kernel

namespace Board

variable {K σ τ : Type}

section Kept

variable [Number K]

/-- What every call keeps. A board in pixels that has been measured while its layout is in cells
was too narrow for the columns; it is too narrow for gestures then, as long as columns and gap
stay. -/
structure IsFollowed (b : Board K σ τ) : Prop where
  follows : b.layout.IsFollowedBy b.working b.gesture
  idle : b.IsWaiting → b.gesture = none
  narrow : b.IsWaiting →
    ∀ c ∈ b.container, ∃ e, b.layout.columnWidth b.settings.padding c = .error e
  columns : Layout.tidyColumns b.layout.columns = b.layout.columns
  gap : Layout.tidyGap b.layout.gap = b.layout.gap

/-- Only settings, layout, container and gesture matter. -/
theorem IsFollowed.congr {b b' : Board K σ τ} (h : b.IsFollowed)
    (hSettings : b'.settings = b.settings) (hLayout : b'.layout = b.layout)
    (hWorking : b'.working = b.working) (hContainer : b'.container = b.container)
    (hGesture : b'.gesture = b.gesture) : b'.IsFollowed := by
  obtain ⟨hFollows, hIdle, hNarrow, hColumns, hGap⟩ := h
  unfold IsWaiting at hIdle hNarrow
  refine ⟨?_, ?_, ?_, ?_, ?_⟩
  all_goals simpa only [IsWaiting, hSettings, hLayout, hWorking, hContainer, hGesture]

/-- Where the gesture is ended and the layout keeps unit, columns and gap, nothing is lost. -/
theorem IsFollowed.ended {b b' : Board K σ τ} (h : b.IsFollowed)
    (hSettings : b'.settings = b.settings) (hContainer : b'.container = b.container)
    (hUnit : b'.layout.unit = b.layout.unit) (hColumns : b'.layout.columns = b.layout.columns)
    (hGap : b'.layout.gap = b.layout.gap) (hWorking : b'.working = none)
    (hGesture : b'.gesture = none) : b'.IsFollowed where
  follows := by
    rw [hWorking, hGesture]
    rfl
  idle := fun _ => hGesture
  narrow := by
    intro hWaiting c hc
    rw [IsWaiting, hSettings, hUnit] at hWaiting
    rw [hContainer] at hc
    rw [hSettings, Layout.columnWidth_congr hColumns hGap]
    exact h.narrow hWaiting c hc
  columns := by rw [hColumns, h.columns]
  gap := by rw [hGap, h.gap]

/-- A tidied layout that is converted for the container makes a fresh start. -/
theorem isFollowed_of_converted [Layout.HasRange K] [LabelSource] {b b' : Board K σ τ}
    {l t : Layout K} {limit : Nat} {labels labels' : Labels}
    (hTidy : l.tidy limit labels = .ok (t, labels')) (hConverted : b.converted t = .ok b'.layout)
    (hSettings : b'.settings = b.settings) (hContainer : b'.container = b.container)
    (hWorking : b'.working = none) (hGesture : b'.gesture = none) : b'.IsFollowed := by
  obtain ⟨-, hTidyColumns, hTidyGap⟩ := Layout.tidy_measures hTidy
  have hMeasures : (b'.layout.columns = t.columns ∧ b'.layout.gap = t.gap) ∧
      (b'.IsWaiting → b.container = none) := by
    unfold converted inBoardUnit at hConverted
    split at hConverted
    · split at hConverted
      · obtain ⟨hUnit, hColumns, hGap⟩ := Layout.toPixels_measures hConverted
        refine ⟨⟨hColumns, hGap⟩, ?_⟩
        rintro ⟨-, hCells⟩
        rw [hUnit] at hCells
        cases hCells
      · next hUnit =>
        cases hConverted
        refine ⟨⟨rfl, rfl⟩, ?_⟩
        rintro ⟨hPixels, -⟩
        rw [hSettings, hUnit] at hPixels
        cases hPixels
    · next hNone =>
      cases hConverted
      exact ⟨⟨rfl, rfl⟩, fun _ => hNone⟩
  obtain ⟨⟨hColumns, hGap⟩, hUnmeasured⟩ := hMeasures
  refine ⟨?_, fun _ => hGesture, ?_, ?_, ?_⟩
  · rw [hWorking, hGesture]
    rfl
  · intro hWaiting c hc
    rw [hContainer, hUnmeasured hWaiting] at hc
    cases hc
  · rw [hColumns, hTidyColumns, Layout.tidyColumns_tidyColumns]
  · rw [hGap, hTidyGap, Layout.tidyGap_tidyGap]

theorem create_isFollowed [Layout.HasRange K] [LabelSource] {b : Board K σ τ}
    {settings : Settings K} {source : σ} {keeper : τ} {labels : Labels}
    (hCreate : create settings source keeper labels = .ok b) : b.IsFollowed := by
  obtain ⟨-, t, labels', hTidy, rfl⟩ := eq_of_create hCreate
  have hUnmeasured : (⟨settings, source, keeper, t, none, none, none, .none, [], labels'⟩ :
      Board K σ τ).converted t = .ok t := rfl
  exact isFollowed_of_converted hTidy hUnmeasured rfl rfl rfl rfl

namespace IsFollowed

variable {b : Board K σ τ} (h : b.IsFollowed)

include h

theorem abandonGesture : b.abandonGesture.2.IsFollowed :=
  h.ended rfl rfl rfl rfl rfl rfl rfl

theorem close : b.close.IsFollowed :=
  h.ended rfl rfl rfl rfl rfl rfl rfl

theorem startFetch (id : String) : (b.startFetch id).2.IsFollowed := by
  rcases b.startFetch_cases id with ⟨w, -, hStart⟩ | ⟨-, hStart⟩
  · rw [hStart]
    exact h.congr rfl rfl rfl rfl rfl
  · rw [hStart]
    exact h

theorem applyFetch (t : Ticket) (data : WidgetView K) : (b.applyFetch t data).2.IsFollowed := by
  simp only [Board.applyFetch, Fetches.commit]
  split
  · split
    · exact h.congr rfl rfl rfl rfl rfl
    · exact h.congr rfl rfl rfl rfl rfl
  · exact h.congr rfl rfl rfl rfl rfl

theorem flipTask [Provider σ K] (path : String) (line : Nat) :
    (b.flipTask path line).2.IsFollowed := by
  unfold Board.flipTask
  split
  · exact h.congr rfl rfl rfl rfl rfl
  · exact h.congr rfl rfl rfl rfl rfl

/-- A gesture begins where the layout can be measured, so the board is not waiting for that. -/
theorem startGesture (kind : GestureKind) (id : String) (p : Point K) :
    (b.startGesture kind id p).2.IsFollowed := by
  rcases b.startGesture_cases kind id p with ⟨s, w, hSurface, hFind, hStart⟩ | ⟨e, hStart⟩
  · rw [hStart]
    have hReady : ¬ b.IsWaiting := by
      intro hWaiting
      unfold surface at hSurface
      cases hContainer : b.container with
      | none =>
          rw [hContainer] at hSurface
          cases hSurface
      | some c =>
          obtain ⟨e, hWidth⟩ := h.narrow hWaiting c hContainer
          simp only [hContainer, hWaiting.2, hWidth, bind, Except.bind] at hSurface
          cases hSurface
    refine ⟨⟨⟨w, hFind, rfl⟩, w.rect, ?_⟩, fun hWaiting => absurd hWaiting hReady, h.narrow,
      h.columns, h.gap⟩
    rw [Layout.modify_withRect_self hFind]
  · rw [hStart]
    exact h

theorem movePointer (p : Point K) : (b.movePointer p).2.IsFollowed := by
  rcases b.movePointer_cases p with ⟨-, hMove⟩ | ⟨g, s, r, hGesture, -, -, hMove⟩ | ⟨e, hMove⟩
  · rw [hMove]
    exact h
  · rw [hMove]
    have hFollows := h.follows
    rw [hGesture] at hFollows
    obtain ⟨hOrigin, r', hWorking⟩ := hFollows
    refine ⟨?_, h.idle, h.narrow, h.columns, h.gap⟩
    simp only [hGesture]
    refine ⟨hOrigin, r, ?_⟩
    rw [shown, hWorking, Option.getD_some, Layout.modify, Layout.modify,
      Layout.modifyFirst_withRect_twice]
    rfl
  · rw [hMove]
    exact h

theorem load [Layout.HasRange K] [LabelSource] (l : Layout K) : (b.load l).2.IsFollowed := by
  rcases b.load_cases l with ⟨t, labels, l', hTidy, hConverted, hLoad⟩ | ⟨e, hLoad⟩
  · rw [hLoad]
    exact isFollowed_of_converted hTidy hConverted rfl rfl rfl rfl
  · rw [hLoad]
    exact h

section Saved

variable [LayoutKeeper τ K]

/-- What is adopted at the end of a gesture has the measures of the layout before. -/
theorem liftPointer : b.liftPointer.2.IsFollowed := by
  rcases b.liftPointer_cases with ⟨-, hLift⟩ | ⟨g, hGesture, hLift⟩
  · rw [hLift]
    exact h
  · rw [hLift]
    have hFollows := h.follows
    rw [hGesture] at hFollows
    obtain ⟨-, r, hWorking⟩ := hFollows
    have hShown : b.shown = b.layout.modify g.widget fun w => w.withRect r := by
      rw [shown, hWorking, Option.getD_some]
    have hMeasures : b.shown.unit = b.layout.unit ∧ b.shown.columns = b.layout.columns ∧
        b.shown.gap = b.layout.gap := by
      rw [hShown]
      exact ⟨rfl, rfl, rfl⟩
    exact h.ended rfl rfl hMeasures.1 hMeasures.2.1 hMeasures.2.2 rfl rfl

/-- A layout that is turned into pixels now was waiting for it, and no gesture is in progress. -/
theorem measure (c : Container K) : (b.measure c).2.IsFollowed := by
  rcases b.measure_cases c with ⟨-, hMeasure⟩ | ⟨-, hReady, hMeasure⟩ |
    ⟨-, hWaiting, l, hPixels, hMeasure⟩ | ⟨-, hWaiting, e, hPixels, hMeasure⟩
  · rw [hMeasure]
    exact h
  · rw [hMeasure]
    exact ⟨h.follows, fun hWaiting => absurd hWaiting hReady,
      fun hWaiting => absurd hWaiting hReady, h.columns, h.gap⟩
  · rw [hMeasure]
    obtain ⟨hUnit, hColumns, hGap⟩ := Layout.toPixels_measures hPixels
    have hNone := h.idle hWaiting
    have hDone : ¬ ({ b with container := some c }.adopt l : Board K σ τ).IsWaiting := by
      rintro ⟨-, hCells⟩
      rw [adopt, hUnit] at hCells
      cases hCells
    refine ⟨?_, fun hWaiting => absurd hWaiting hDone, fun hWaiting => absurd hWaiting hDone, ?_,
      ?_⟩
    · simp only [adopt, hNone]
      rfl
    · rw [adopt, hColumns, h.columns]
    · rw [adopt, hGap, h.gap]
  · rw [hMeasure]
    refine ⟨h.follows, fun _ => h.idle hWaiting, ?_, h.columns, h.gap⟩
    intro _ c' hc
    cases hc
    exact Layout.columnWidth_error_of_toPixels hWaiting.2 hPixels

theorem remove (id : String) : (b.remove id).2.IsFollowed := by
  rcases b.remove_cases id with ⟨w, -, hRemove⟩ | ⟨-, hRemove⟩
  · rw [hRemove]
    exact h.ended rfl rfl rfl rfl rfl rfl rfl
  · rw [hRemove]
    exact h

variable [LabelSource]

theorem insert (w : Widget K) : (b.insert w).2.IsFollowed := by
  rcases b.insert_cases w with ⟨t, labels, hTidy, hInsert⟩ | ⟨e, -, hInsert⟩
  · rw [hInsert]
    obtain ⟨hUnit, hColumns, hGap⟩ := Layout.tidy_measures hTidy
    exact h.ended rfl rfl hUnit (hColumns.trans h.columns) (hGap.trans h.gap) rfl rfl
  · rw [hInsert]
    exact h

theorem add (t : WidgetType) : (b.add t).2.IsFollowed := by
  rcases b.add_cases t with ⟨r, hAdd⟩ | ⟨e, -, hAdd⟩
  · rw [hAdd]
    have hSame : ({ b with labels := (b.labels.fresh b.layout.ids).2 } : Board K σ τ).IsFollowed :=
      h.congr rfl rfl rfl rfl rfl
    exact hSame.insert _
  · rw [hAdd]
    exact h

theorem update (id : String) (edit : Widget K → Widget K) : (b.update id edit).2.IsFollowed := by
  rcases b.update_cases id edit with ⟨t, labels, -, hTidy, hUpdate⟩ | ⟨e, hUpdate⟩
  · rw [hUpdate]
    obtain ⟨hUnit, hColumns, hGap⟩ := Layout.tidy_measures hTidy
    exact h.ended rfl rfl hUnit (hColumns.trans h.columns) (hGap.trans h.gap) rfl rfl
  · rw [hUpdate]
    exact h

theorem reset [Layout.HasRange K] : b.reset.2.IsFollowed := by
  rcases b.reset_cases with ⟨t, labels, hTidy, ⟨l, hConverted, hReset⟩ | ⟨e, -, hReset⟩⟩ |
    ⟨e, -, hReset⟩
  · rw [hReset]
    exact isFollowed_of_converted hTidy hConverted rfl rfl rfl rfl
  · rw [hReset]
    exact h.ended rfl rfl rfl rfl rfl rfl rfl
  · rw [hReset]
    exact h

end Saved

end IsFollowed

end Kept

section Reached

variable [Numeral K]

theorem IsFollowed.evaluate [TimeZone] [Provider σ K] {b : Board K σ τ} (h : b.IsFollowed)
    (id : String) (now : Instant) : (b.evaluate id now).2.IsFollowed := by
  rcases b.evaluate_cases id now with ⟨w, -, hEvaluate⟩ | ⟨-, hEvaluate⟩
  · rw [hEvaluate]
    exact h.congr rfl rfl rfl rfl rfl
  · rw [hEvaluate]
    exact h

theorem IsFollowed.loadText [Layout.HasRange K] [LabelSource] {b : Board K σ τ} (h : b.IsFollowed)
    (text : String) : (b.loadText text).2.IsFollowed := by
  unfold Board.loadText
  split
  · next l _ => exact h.load l
  · exact h

variable [Layout.HasRange K] [TimeZone] [LabelSource] [Provider σ K] [LayoutKeeper τ K]

/-- Every call keeps the working copy and the gesture together. -/
theorem IsFollowed.perform {b : Board K σ τ} (h : b.IsFollowed) (call : Call K) :
    (b.perform call).2.IsFollowed := by
  cases call with
  | measure c =>
      rw [Board.perform, reply_snd]
      exact h.measure c
  | load l =>
      rw [Board.perform, reply_snd]
      exact h.load l
  | loadText text =>
      rw [Board.perform, reply_snd]
      exact h.loadText text
  | add t =>
      rw [Board.perform, reply_snd]
      exact h.add t
  | insert w =>
      rw [Board.perform, reply_snd]
      exact h.insert w
  | remove id =>
      rw [Board.perform, reply_snd]
      exact h.remove id
  | update id edit =>
      rw [Board.perform, reply_snd]
      exact h.update id edit
  | reset =>
      rw [Board.perform, reply_snd]
      exact h.reset
  | startGesture kind id p =>
      rw [Board.perform, reply_snd]
      exact h.startGesture kind id p
  | movePointer p =>
      rw [Board.perform, reply_snd]
      exact h.movePointer p
  | liftPointer => exact h.liftPointer
  | abandonGesture => exact h.abandonGesture
  | evaluate id now =>
      rw [Board.perform, reply_snd]
      exact h.evaluate id now
  | evaluateEach now => exact h.congr rfl rfl rfl rfl rfl
  | startFetch id =>
      rw [Board.perform, reply_snd]
      exact h.startFetch id
  | applyFetch t data => exact h.applyFetch t data
  | flipTask path line => exact h.flipTask path line
  | close => exact h.close

theorem Reached.isFollowed {Admitted : Board K σ τ → Prop} {b : Board K σ τ}
    (h : Reached Admitted b) : b.IsFollowed :=
  h.invariant (fun _ _ _ _ _ hCreate _ => create_isFollowed hCreate)
    fun _ call hFollowed _ => hFollowed.perform call

/-- Whatever a host asks of a board, there is a working copy exactly while a gesture is in
progress; the widget of the gesture is in the layout, where it was when the gesture began; and the
working copy is the layout with that widget at another place. -/
theorem Reached.gesture_followed {Admitted : Board K σ τ → Prop} {b : Board K σ τ}
    (h : Reached Admitted b) :
    (b.working.isSome = true ↔ b.gesture.isSome = true) ∧
      ∀ g ∈ b.gesture, (∃ w, b.layout.find? g.widget = some w ∧ w.rect = g.rect) ∧
        ∃ r, b.working = some (b.layout.modify g.widget fun w => w.withRect r) := by
  have hFollows := h.isFollowed.follows
  cases hGesture : b.gesture with
  | none =>
      rw [hGesture] at hFollows
      have hWorking : b.working = none := hFollows
      exact ⟨by simp [hWorking], by simp⟩
  | some g =>
      rw [hGesture] at hFollows
      obtain ⟨hOrigin, r, hWorking⟩ := hFollows
      refine ⟨by rw [hWorking, Option.isSome_some, Option.isSome_some], ?_⟩
      intro g' hg
      cases hg
      exact ⟨hOrigin, r, hWorking⟩

end Reached

-- The host of the boards below keeps universal time.
attribute [local instance] TimeZone.universal

/-- The third widget is dragged upwards and then made narrower, in a container that is measured
again meanwhile. -/
def resizeCalls : List (Call Float) :=
  [.measure ⟨1200, 800⟩, .startGesture .drag (label 3) ⟨0, 0⟩, .movePointer ⟨0, -200⟩,
    .startGesture .resize (label 3) ⟨0, 0⟩, .measure ⟨700, 700⟩, .movePointer ⟨-100, 0⟩]

/-- A new board of machine numbers after these calls. -/
def resizing : Except (Error Float) (Board Float (NoProvider Float) (NoKeeper Float)) :=
  (create .defaults ⟨⟩ ⟨⟩ ⟨0⟩).map fun b => b.run resizeCalls

theorem resizing_gesture_followed : ∃ b, resizing = .ok b ∧ Reached (fun _ => True) b ∧
    ∃ g ∈ b.gesture, g.widget = label 3 ∧ (b.shown != b.layout) = true ∧
      (∃ w, b.layout.find? g.widget = some w ∧ w.rect = g.rect) ∧
      ∃ r, b.working = some (b.layout.modify g.widget fun w => w.withRect r) := by
  have hRun : (match resizing with
      | .ok b => (b.gesture.map Gesture.widget == some (label 3)) && b.shown != b.layout
      | .error _ => false) = true := by decide +kernel
  cases hNew : create (.defaults : Settings Float) (⟨⟩ : NoProvider Float) (⟨⟩ : NoKeeper Float)
      ⟨0⟩ with
  | error e =>
      rw [resizing, hNew] at hRun
      cases hRun
  | ok b =>
      rw [resizing, hNew] at hRun ⊢
      simp only [Except.map, Bool.and_eq_true, beq_iff_eq, Option.map_eq_some_iff] at hRun ⊢
      obtain ⟨⟨g, hGesture, hWidget⟩, hMoved⟩ := hRun
      have hNewReached : Reached (fun _ => True) b := .created hNew trivial
      have hReached : Reached (fun _ => True) (b.run resizeCalls) :=
        hNewReached.run fun _ _ => trivial
      exact ⟨_, rfl, hReached, g, hGesture, hWidget, hMoved,
        (Reached.gesture_followed hReached).2 g hGesture⟩

end Board
end NoteBoard
