import NoteBoard.Number.Exact
import NoteBoard.Proofs.Board.Effects
import NoteBoard.Proofs.Board.Reached

/-! What is left of a board when a call fails. Nearly always that is the board as it was: whatever
can fail is tried first. Two calls try too late, and what they did before stays done. -/
namespace NoteBoard

namespace Layout

variable {K : Type} [Number K]

/-- Tidying fails only where a number is to be put into an empty interval. -/
theorem eq_of_tidy_error [LabelSource] {l : Layout K} {limit : Nat} {labels : Labels} {e : Error K}
    (h : l.tidy limit labels = .error e) : e = .emptyInterval := by
  simp only [tidy] at h
  split at h
  · cases h
  · cases h
    rfl

end Layout

namespace Board

variable {K σ τ : Type}

/-- What a call that fails leaves of a board. A container that has a size is recorded even if it is
too narrow for the grid, and a reset forgets gesture, fetches and data before it finds out. -/
def afterFailure [Number K] (b : Board K σ τ) : Call K → Board K σ τ
  | .measure c => if c.isValid then { b with container := some c } else b
  | .reset => b.forget
  | _ => b

/-- Whether a call changes a board even when it fails: it brings another container, or there is
something that a reset forgets. -/
def IsDisturbedBy [Number K] (b : Board K σ τ) : Call K → Prop
  | .measure c => c.isValid = true ∧ b.container ≠ some c
  | .reset => b.working ≠ none ∨ b.gesture ≠ none ∨ b.fetches.clear ≠ b.fetches ∨ b.data ≠ []
  | _ => False

theorem forget_eq_self_iff {b : Board K σ τ} :
    b.forget = b ↔ b.working = none ∧ b.gesture = none ∧ b.fetches.clear = b.fetches ∧
      b.data = [] := by
  obtain ⟨_, _, _, _, working, _, gesture, fetches, data, _⟩ := b
  simp only [forget, abandonGesture, Gesture.finish, mk.injEq, true_and, and_true]
  constructor
  · rintro ⟨rfl, rfl, hFetches, rfl⟩
    exact ⟨rfl, rfl, hFetches, rfl⟩
  · rintro ⟨rfl, rfl, hFetches, rfl⟩
    exact ⟨rfl, rfl, hFetches, rfl⟩

theorem afterFailure_eq_self_iff [Number K] {b : Board K σ τ} {call : Call K} :
    b.afterFailure call = b ↔ ¬ b.IsDisturbedBy call := by
  cases call with
  | measure c =>
      simp only [afterFailure, IsDisturbedBy]
      split
      · next hValid =>
        obtain ⟨_, _, _, _, _, container, _, _, _, _⟩ := b
        simp [hValid, eq_comm]
      · next hInvalid => simp [hInvalid]
  | reset =>
      simp only [afterFailure, IsDisturbedBy, forget_eq_self_iff, not_or, ne_eq, Classical.not_not]
  | _ => simp [afterFailure, IsDisturbedBy]

/-- What is an answer, or an error that left the board as it was. -/
def IsClean {α : Type} (b : Board K σ τ) (o : Outcome K σ τ α) : Prop :=
  (∃ a b', o = (.ok a, b')) ∨ ∃ e, o = (.error e, b)

theorem IsClean.reply_failed {α : Type} {b : Board K σ τ} {o : Outcome K σ τ α} {f : α → Reply K}
    {e : Error K} (h : b.IsClean o) (hReply : ∀ a, f a ≠ .failed e)
    (hFailed : (reply f o).1 = .failed e) : (reply f o).2 = b := by
  rcases h with ⟨a, b', rfl⟩ | ⟨e', rfl⟩
  · exact absurd hFailed (hReply a)
  · rfl

section Clean

variable (b : Board K σ τ)

theorem startFetch_isClean (id : String) : b.IsClean (b.startFetch id) := by
  rcases b.startFetch_cases id with ⟨w, -, hStart⟩ | ⟨-, hStart⟩
  · exact Or.inl ⟨_, _, hStart⟩
  · exact Or.inr ⟨_, hStart⟩

theorem evaluate_isClean [TimeZone] [Provider σ K] [Numeral K] (id : String) (now : Instant) :
    b.IsClean (b.evaluate id now) := by
  rcases b.evaluate_cases id now with ⟨w, -, hEvaluate⟩ | ⟨-, hEvaluate⟩
  · exact Or.inl ⟨_, _, hEvaluate⟩
  · exact Or.inr ⟨_, hEvaluate⟩

theorem remove_isClean [LayoutKeeper τ K] (id : String) : b.IsClean (b.remove id) := by
  rcases b.remove_cases id with ⟨w, -, hRemove⟩ | ⟨-, hRemove⟩
  · exact Or.inl ⟨_, _, hRemove⟩
  · exact Or.inr ⟨_, hRemove⟩

theorem startGesture_isClean [Number K] (kind : GestureKind) (id : String) (p : Point K) :
    b.IsClean (b.startGesture kind id p) := by
  rcases b.startGesture_cases kind id p with ⟨s, w, -, -, hStart⟩ | hFailed
  · exact Or.inl ⟨_, _, hStart⟩
  · exact Or.inr hFailed

theorem movePointer_isClean [Number K] (p : Point K) : b.IsClean (b.movePointer p) := by
  rcases b.movePointer_cases p with ⟨-, hMove⟩ | ⟨g, s, r, -, -, -, hMove⟩ | hFailed
  · exact Or.inl ⟨_, _, hMove⟩
  · exact Or.inl ⟨_, _, hMove⟩
  · exact Or.inr hFailed

theorem load_isClean [Number K] [LabelSource] (l : Layout K) : b.IsClean (b.load l) := by
  rcases b.load_cases l with ⟨t, labels, l', -, -, hLoad⟩ | hFailed
  · exact Or.inl ⟨_, _, hLoad⟩
  · exact Or.inr hFailed

theorem loadText_isClean [Numeral K] [LabelSource] (text : String) :
    b.IsClean (b.loadText text) := by
  unfold loadText
  split
  · next l _ => exact b.load_isClean l
  · next e _ => exact Or.inr ⟨e, rfl⟩

theorem insert_isClean [Number K] [LabelSource] [LayoutKeeper τ K] (w : Widget K) :
    b.IsClean (b.insert w) := by
  rcases b.insert_cases w with ⟨t, labels, -, hInsert⟩ | ⟨e, -, hInsert⟩
  · exact Or.inl ⟨_, _, hInsert⟩
  · exact Or.inr ⟨_, hInsert⟩

theorem update_isClean [Number K] [LabelSource] [LayoutKeeper τ K] (id : String)
    (edit : Widget K → Widget K) : b.IsClean (b.update id edit) := by
  rcases b.update_cases id edit with ⟨t, labels, -, -, hUpdate⟩ | hFailed
  · exact Or.inl ⟨_, _, hUpdate⟩
  · exact Or.inr hFailed

end Clean

section Failed

variable [Numeral K] [TimeZone] [LabelSource] [Provider σ K] [LayoutKeeper τ K]

theorem perform_failed {b : Board K σ τ} {call : Call K} {e : Error K}
    (hFailed : (b.perform call).1 = .failed e) (hAnswer : e ≠ .emptyInterval) :
    { (b.perform call).2 with labels := b.labels } = b.afterFailure call := by
  cases call with
  | measure c =>
      rw [perform] at hFailed ⊢
      rw [afterFailure]
      rcases b.measure_cases c with ⟨hInvalid, hMeasure⟩ | ⟨-, -, hMeasure⟩ |
        ⟨-, -, l, -, hMeasure⟩ | ⟨hValid, -, e, -, hMeasure⟩
      · rw [hMeasure, hInvalid]
        rfl
      · rw [hMeasure] at hFailed
        cases hFailed
      · rw [hMeasure] at hFailed
        cases hFailed
      · rw [hMeasure, hValid]
        rfl
  | add t =>
      rw [perform] at hFailed ⊢
      rcases b.add_cases t with ⟨r, hAdd⟩ | ⟨e, -, hAdd⟩
      · rw [hAdd] at hFailed ⊢
        rw [(insert_isClean _ _).reply_failed (by simp) hFailed]
        rfl
      · rw [hAdd]
        rfl
  | reset =>
      rw [perform] at hFailed ⊢
      rcases b.reset_cases with ⟨t, labels, -, ⟨l, -, hReset⟩ | ⟨e, -, hReset⟩⟩ |
        ⟨e, hTidy, hReset⟩
      · rw [hReset] at hFailed
        cases hFailed
      · rw [hReset]
        rfl
      · rw [hReset] at hFailed
        cases hFailed
        exact absurd (Layout.eq_of_tidy_error hTidy) hAnswer
  | load l =>
      rw [perform, (b.load_isClean l).reply_failed (by simp) hFailed]
      rfl
  | loadText text =>
      rw [perform, (b.loadText_isClean text).reply_failed (by simp) hFailed]
      rfl
  | insert w =>
      rw [perform, (b.insert_isClean w).reply_failed (by simp) hFailed]
      rfl
  | remove id =>
      rw [perform, (b.remove_isClean id).reply_failed (by simp) hFailed]
      rfl
  | update id edit =>
      rw [perform, (b.update_isClean id edit).reply_failed (by simp) hFailed]
      rfl
  | startGesture kind id p =>
      rw [perform, (b.startGesture_isClean kind id p).reply_failed (by simp) hFailed]
      rfl
  | movePointer p =>
      rw [perform, (b.movePointer_isClean p).reply_failed (by simp) hFailed]
      rfl
  | evaluate id now =>
      rw [perform, (b.evaluate_isClean id now).reply_failed (by simp) hFailed]
      rfl
  | startFetch id =>
      rw [perform, (b.startFetch_isClean id).reply_failed (by simp) hFailed]
      rfl
  | liftPointer => cases hFailed
  | abandonGesture => cases hFailed
  | evaluateEach now => cases hFailed
  | applyFetch t data => cases hFailed
  | flipTask path line => cases hFailed
  | close => cases hFailed

/-- A call that answers with an error leaves the board as it was, labels that were drawn apart,
unless it brought a new container or was to reset a board with something to forget; and then
nothing but the container, or nothing but gesture, fetches and data, is lost. An empty interval is
no answer: it stops the program. -/
theorem failed_call (b : Board K σ τ) (call : Call K) (e : Error K)
    (hFailed : (b.perform call).1 = .failed e) (hAnswer : e ≠ .emptyInterval) :
    { (b.perform call).2 with labels := b.labels } = b.afterFailure call ∧
      ({ (b.perform call).2 with labels := b.labels } = b ↔ ¬ b.IsDisturbedBy call) := by
  have hAfter := perform_failed hFailed hAnswer
  exact ⟨hAfter, by rw [hAfter, afterFailure_eq_self_iff]⟩

end Failed

-- The host of the boards below keeps universal time.
attribute [local instance] TimeZone.universal

/-- A board in pixels that has been dragged on in a wide container, which then got too narrow for
the columns of a new layout. -/
def narrowed : Except (Error Exact) (Board Exact (NoProvider Exact) (NoKeeper Exact)) :=
  (create { Settings.defaults with unit := .pixels } ⟨⟩ ⟨⟩ ⟨0⟩).map fun b =>
    b.run [.measure ⟨1200, 800⟩, .startGesture .drag (label 1) ⟨10, 10⟩, .measure ⟨100, 800⟩]

/-- A reset that fails ends the gesture on that board all the same. -/
theorem narrowed_failed_reset : ∃ (b : Board Exact (NoProvider Exact) (NoKeeper Exact))
    (e : Error Exact), narrowed = .ok b ∧ (b.perform .reset).1 = .failed e ∧ e ≠ .emptyInterval ∧
    { (b.perform .reset).2 with labels := b.labels } = b.forget ∧
    { (b.perform .reset).2 with labels := b.labels } ≠ b := by
  have hRun : (match narrowed with
      | .ok b => b.gesture.isSome && match (b.perform .reset).1 with
        | .failed (.container _ _) => true
        | _ => false
      | .error _ => false) = true := by decide +kernel
  cases hNarrowed : narrowed with
  | error e =>
      rw [hNarrowed] at hRun
      cases hRun
  | ok b =>
      rw [hNarrowed] at hRun
      obtain ⟨hGesture, hReply⟩ := Bool.and_eq_true_iff.1 hRun
      split at hReply
      · next width height hFailed =>
        have hAnswer : Error.container width height ≠ .emptyInterval := by simp
        obtain ⟨hAfter, hUnchanged⟩ := failed_call b .reset _ hFailed hAnswer
        refine ⟨b, _, rfl, hFailed, hAnswer, hAfter, ?_⟩
        rw [ne_eq, hUnchanged, Classical.not_not]
        exact Or.inr (Or.inl (Option.isSome_iff_ne_none.1 hGesture))
      · cases hReply

end Board
end NoteBoard
