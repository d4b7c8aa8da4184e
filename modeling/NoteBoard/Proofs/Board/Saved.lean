import NoteBoard.Number.Exact
import NoteBoard.Proofs.Board.Effects
import NoteBoard.Proofs.Board.Reached
import NoteBoard.Vault.Basic

/-! What a board saves, and when. Every call that changes the layout saves it once, as the last
thing it does; a load changes the layout and does not save it. So what was saved last is the layout
of the board, unless one was loaded since. -/
namespace NoteBoard

/-- An answer that says that nothing was done: an error, or that there was no gesture. -/
def Reply.isRefusal {K : Type} : Reply K → Bool
  | .failed _ | .flag false => true
  | _ => false

namespace Board

variable {K σ τ : Type}

section Calls

variable [Numeral K] [TimeZone] [LabelSource] [Provider σ K] [LayoutKeeper τ K]

/-- Whether a call saves the layout. A measurement does only when it turns the layout of a board in
pixels into pixels; loads, evaluations, fetches and all of a gesture but its end never do. -/
def saves (b : Board K σ τ) (call : Call K) : Bool :=
  !(b.perform call).1.isRefusal && match call with
    | .add _ | .insert _ | .remove _ | .update _ _ | .reset | .liftPointer => true
    | .measure _ => decide (b.settings.unit = .pixels ∧ b.layout.unit = .cells)
    | _ => false

/-- Whether a call replaces the layout by a stored one. -/
def loads (b : Board K σ τ) (call : Call K) : Bool :=
  !(b.perform call).1.isRefusal && match call with
    | .load _ | .loadText _ => true
    | _ => false

/-- A call that saves the layout as it leaves it, and saves it once. -/
def IsSaved (b : Board K σ τ) (call : Call K) : Prop :=
  b.saves call = true ∧
    (b.perform call).2.keeper = (LayoutKeeper.save b.keeper (b.perform call).2.layout).1

/-- A call that leaves the keeper alone, and the layout too unless it loads one. -/
def IsUnsaved (b : Board K σ τ) (call : Call K) : Prop :=
  b.saves call = false ∧ (b.perform call).2.keeper = b.keeper ∧
    (b.loads call = false → (b.perform call).2.layout = b.layout)

section Edits

omit [Numeral K] [TimeZone] [LabelSource] [Provider σ K]

/-- What an edit answers and leaves: it saves the layout that it makes, or it fails and leaves the
keeper and the layout alone. -/
def IsEdit {α : Type} (b : Board K σ τ) (o : Outcome K σ τ α) : Prop :=
  (∃ a b', o = (.ok a, b') ∧ b'.keeper = (LayoutKeeper.save b.keeper b'.layout).1) ∨
    ∃ e b', o = (.error e, b') ∧ b'.keeper = b.keeper ∧ b'.layout = b.layout

theorem remove_isEdit (b : Board K σ τ) (id : String) : b.IsEdit (b.remove id) := by
  rcases b.remove_cases id with ⟨w, -, hRemove⟩ | ⟨-, hRemove⟩
  · exact Or.inl ⟨w, _, hRemove, rfl⟩
  · exact Or.inr ⟨_, b, hRemove, rfl, rfl⟩

variable [Number K] [LabelSource]

theorem insert_isEdit (b : Board K σ τ) (w : Widget K) : b.IsEdit (b.insert w) := by
  rcases b.insert_cases w with ⟨l, labels, -, hInsert⟩ | ⟨e, -, hInsert⟩
  · exact Or.inl ⟨_, _, hInsert, rfl⟩
  · exact Or.inr ⟨e, b, hInsert, rfl, rfl⟩

theorem add_isEdit (b : Board K σ τ) (t : WidgetType) : b.IsEdit (b.add t) := by
  rcases b.add_cases t with ⟨r, hAdd⟩ | ⟨e, -, hAdd⟩
  · -- Nothing that an edit is about depends on the labels that are used up.
    rw [hAdd]
    exact insert_isEdit { b with labels := (b.labels.fresh b.layout.ids).2 } _
  · exact Or.inr ⟨e, b, hAdd, rfl, rfl⟩

theorem update_isEdit (b : Board K σ τ) (id : String) (edit : Widget K → Widget K) :
    b.IsEdit (b.update id edit) := by
  rcases b.update_cases id edit with ⟨l, labels, -, -, hUpdate⟩ | ⟨e, hUpdate⟩
  · exact Or.inl ⟨(), _, hUpdate, rfl⟩
  · exact Or.inr ⟨e, b, hUpdate, rfl, rfl⟩

theorem reset_isEdit (b : Board K σ τ) : b.IsEdit b.reset := by
  rcases b.reset_cases with ⟨t, labels, -, ⟨l, -, hReset⟩ | ⟨e, -, hReset⟩⟩ | ⟨e, -, hReset⟩
  · exact Or.inl ⟨(), _, hReset, rfl⟩
  · exact Or.inr ⟨e, _, hReset, rfl, rfl⟩
  · exact Or.inr ⟨e, b, hReset, rfl, rfl⟩

end Edits

/-- A call that makes an edit saves the layout, or leaves all as it is. -/
theorem IsEdit.saved_or_unsaved {α : Type} {b : Board K σ τ} {o : Outcome K σ τ α}
    (h : b.IsEdit o) {f : α → Reply K} (hReply : ∀ a, (f a).isRefusal = false) {call : Call K}
    (hPerform : b.perform call = reply f o)
    (hSaves : b.saves call = !(b.perform call).1.isRefusal) :
    b.IsSaved call ∨ b.IsUnsaved call := by
  rw [IsSaved, IsUnsaved, hSaves, hPerform]
  rcases h with ⟨a, b', rfl, hKeeper⟩ | ⟨e, b', rfl, hKeeper, hLayout⟩
  · exact Or.inl ⟨by rw [reply, hReply]; rfl, hKeeper⟩
  · exact Or.inr ⟨rfl, hKeeper, fun _ => hLayout⟩

theorem measure_saved_or_unsaved (b : Board K σ τ) (c : Container K) :
    b.IsSaved (.measure c) ∨ b.IsUnsaved (.measure c) := by
  simp only [IsSaved, IsUnsaved, saves, perform]
  rcases b.measure_cases c with ⟨-, hMeasure⟩ | ⟨-, hReady, hMeasure⟩ |
    ⟨-, hWaiting, l, -, hMeasure⟩ | ⟨-, -, e, -, hMeasure⟩
  · rw [hMeasure]
    exact Or.inr ⟨rfl, rfl, fun _ => rfl⟩
  · rw [hMeasure]
    exact Or.inr ⟨decide_eq_false hReady, rfl, fun _ => rfl⟩
  · rw [hMeasure]
    exact Or.inl ⟨decide_eq_true hWaiting, rfl⟩
  · rw [hMeasure]
    exact Or.inr ⟨rfl, rfl, fun _ => rfl⟩

theorem load_isUnsaved (b : Board K σ τ) (l : Layout K) : b.IsUnsaved (.load l) := by
  simp only [IsUnsaved, saves, loads, perform]
  rcases b.load_cases l with ⟨t, labels, l', -, -, hLoad⟩ | ⟨e, hLoad⟩
  · rw [hLoad]
    exact ⟨rfl, rfl, nofun⟩
  · rw [hLoad]
    exact ⟨rfl, rfl, fun _ => rfl⟩

theorem loadText_isUnsaved (b : Board K σ τ) (text : String) : b.IsUnsaved (.loadText text) := by
  cases hText : Layout.ofText (K := K) text with
  | error e =>
      simp only [IsUnsaved, saves, perform, loadText, hText]
      exact ⟨rfl, rfl, fun _ => rfl⟩
  | ok l =>
      have hLoad : b.perform (.loadText text) = b.perform (.load l) := by
        simp only [perform, loadText, hText]
      simpa only [IsUnsaved, saves, loads, hLoad] using b.load_isUnsaved l

theorem liftPointer_saved_or_unsaved (b : Board K σ τ) :
    b.IsSaved .liftPointer ∨ b.IsUnsaved .liftPointer := by
  simp only [IsSaved, IsUnsaved, saves, perform]
  rcases b.liftPointer_cases with ⟨-, hLift⟩ | ⟨g, -, hLift⟩
  · rw [hLift]
    exact Or.inr ⟨rfl, rfl, fun _ => rfl⟩
  · rw [hLift]
    exact Or.inl ⟨rfl, rfl⟩

theorem startGesture_isUnsaved (b : Board K σ τ) (kind : GestureKind) (id : String) (p : Point K) :
    b.IsUnsaved (.startGesture kind id p) := by
  refine ⟨Bool.and_false _, ?_⟩
  rw [perform, reply_snd]
  rcases b.startGesture_cases kind id p with ⟨s, w, -, -, hStart⟩ | ⟨e, hStart⟩
  all_goals
    rw [hStart]
    exact ⟨rfl, fun _ => rfl⟩

theorem movePointer_isUnsaved (b : Board K σ τ) (p : Point K) : b.IsUnsaved (.movePointer p) := by
  refine ⟨Bool.and_false _, ?_⟩
  rw [perform, reply_snd]
  rcases b.movePointer_cases p with ⟨-, hMove⟩ | ⟨g, s, r, -, -, -, hMove⟩ | ⟨e, hMove⟩
  all_goals
    rw [hMove]
    exact ⟨rfl, fun _ => rfl⟩

theorem evaluate_isUnsaved (b : Board K σ τ) (id : String) (now : Instant) :
    b.IsUnsaved (.evaluate id now) := by
  refine ⟨Bool.and_false _, ?_⟩
  rw [perform, reply_snd]
  rcases b.evaluate_cases id now with ⟨w, -, hEvaluate⟩ | ⟨-, hEvaluate⟩
  all_goals
    rw [hEvaluate]
    exact ⟨rfl, fun _ => rfl⟩

theorem startFetch_isUnsaved (b : Board K σ τ) (id : String) : b.IsUnsaved (.startFetch id) := by
  refine ⟨Bool.and_false _, ?_⟩
  rw [perform, reply_snd]
  rcases b.startFetch_cases id with ⟨w, -, hStart⟩ | ⟨-, hStart⟩
  all_goals
    rw [hStart]
    exact ⟨rfl, fun _ => rfl⟩

theorem applyFetch_isUnsaved (b : Board K σ τ) (t : Ticket) (data : WidgetView K) :
    b.IsUnsaved (.applyFetch t data) := by
  refine ⟨Bool.and_false _, ?_⟩
  simp only [perform, applyFetch, Fetches.commit]
  split
  · split
    · exact ⟨rfl, fun _ => rfl⟩
    · exact ⟨rfl, fun _ => rfl⟩
  · exact ⟨rfl, fun _ => rfl⟩

theorem flipTask_isUnsaved (b : Board K σ τ) (path : String) (line : Nat) :
    b.IsUnsaved (.flipTask path line) := by
  refine ⟨Bool.and_false _, ?_⟩
  simp only [perform, flipTask]
  split
  · exact ⟨rfl, fun _ => rfl⟩
  · exact ⟨rfl, fun _ => rfl⟩

/-- Every call does one or the other. -/
theorem perform_saved_or_unsaved (b : Board K σ τ) (call : Call K) :
    b.IsSaved call ∨ b.IsUnsaved call := by
  cases call with
  | measure c => exact b.measure_saved_or_unsaved c
  | load l => exact Or.inr (b.load_isUnsaved l)
  | loadText text => exact Or.inr (b.loadText_isUnsaved text)
  | add t => exact (b.add_isEdit t).saved_or_unsaved (fun _ => rfl) rfl (Bool.and_true _)
  | insert w => exact (b.insert_isEdit w).saved_or_unsaved (fun _ => rfl) rfl (Bool.and_true _)
  | remove id => exact (b.remove_isEdit id).saved_or_unsaved (fun _ => rfl) rfl (Bool.and_true _)
  | update id edit =>
      exact (b.update_isEdit id edit).saved_or_unsaved (fun _ => rfl) rfl (Bool.and_true _)
  | reset =>
      have hPerform : b.perform .reset = reply (fun _ => .done) b.reset := by rw [perform]
      exact b.reset_isEdit.saved_or_unsaved (fun _ => rfl) hPerform (Bool.and_true _)
  | startGesture kind id p => exact Or.inr (b.startGesture_isUnsaved kind id p)
  | movePointer p => exact Or.inr (b.movePointer_isUnsaved p)
  | liftPointer => exact b.liftPointer_saved_or_unsaved
  | abandonGesture => exact Or.inr ⟨Bool.and_false _, rfl, fun _ => rfl⟩
  | evaluate id now => exact Or.inr (b.evaluate_isUnsaved id now)
  | evaluateEach now => exact Or.inr ⟨rfl, rfl, fun _ => rfl⟩
  | startFetch id => exact Or.inr (b.startFetch_isUnsaved id)
  | applyFetch t data => exact Or.inr (b.applyFetch_isUnsaved t data)
  | flipTask path line => exact Or.inr (b.flipTask_isUnsaved path line)
  | close => exact Or.inr ⟨rfl, rfl, fun _ => rfl⟩

/-- Whether one of the calls, made one after another, loads a layout. -/
def loadsAny (b : Board K σ τ) : List (Call K) → Bool
  | [] => false
  | call :: rest => b.loads call || (b.perform call).2.loadsAny rest

end Calls

section Saved

variable [Numeral K] [TimeZone] [LabelSource] [Provider σ K]

/-- What was saved last is the layout of the board. -/
def IsKept (b : Board K σ (SavedLayouts K)) : Prop :=
  b.keeper.saved.getLast? = some b.layout

/-- A call adds one layout to those saved before, or none. -/
theorem perform_saved (b : Board K σ (SavedLayouts K)) (call : Call K) :
    (b.perform call).2.keeper.saved =
      b.keeper.saved ++ if b.saves call then [(b.perform call).2.layout] else [] := by
  rcases b.perform_saved_or_unsaved call with ⟨hSaves, hKeeper⟩ | ⟨hSaves, hKeeper, -⟩
  · rw [hKeeper, hSaves]
    rfl
  · rw [hKeeper, hSaves]
    simp

/-- What is saved is kept. -/
theorem isKept_of_saves {b : Board K σ (SavedLayouts K)} {call : Call K}
    (h : b.saves call = true) : (b.perform call).2.IsKept := by
  rw [IsKept, perform_saved, h, if_pos rfl, List.getLast?_concat]

/-- A call that loads nothing keeps what is saved and the layout together. -/
theorem IsKept.perform {b : Board K σ (SavedLayouts K)} (h : b.IsKept) {call : Call K}
    (hLoads : b.loads call = false) : (b.perform call).2.IsKept := by
  rcases b.perform_saved_or_unsaved call with ⟨hSaves, -⟩ | ⟨-, hKeeper, hLayout⟩
  · exact isKept_of_saves hSaves
  · rw [IsKept, hKeeper, hLayout hLoads]
    exact h

/-- So do any calls of which none loads a layout. -/
theorem IsKept.run {b : Board K σ (SavedLayouts K)} (h : b.IsKept) {calls : List (Call K)}
    (hLoads : b.loadsAny calls = false) : (b.run calls).IsKept := by
  induction calls generalizing b with
  | nil => exact h
  | cons call rest ih =>
      obtain ⟨hFirst, hRest⟩ := Bool.or_eq_false_iff.1 hLoads
      exact ih (h.perform hFirst) hRest

/-- Whatever a board has gone through, a call adds to what is saved the layout that it leaves, or
nothing; and when it has added one, what is saved last is the layout of the board until a layout is
loaded. -/
theorem run_saved (b : Board K σ (SavedLayouts K)) (early : List (Call K)) (call : Call K)
    (later : List (Call K)) :
    (b.run (early ++ [call])).keeper.saved = (b.run early).keeper.saved ++
        (if (b.run early).saves call then [(b.run (early ++ [call])).layout] else []) ∧
      ((b.run early).saves call = true → (b.run (early ++ [call])).loadsAny later = false →
        (b.run (early ++ call :: later)).keeper.saved.getLast? =
          some (b.run (early ++ call :: later)).layout) := by
  have hCall : b.run (early ++ [call]) = ((b.run early).perform call).2 := run_append b early [call]
  have hAll : b.run (early ++ call :: later) = (b.run (early ++ [call])).run later := by
    rw [← run_append, List.append_assoc, List.singleton_append]
  refine ⟨?_, fun hSaves hLoads => ?_⟩
  · rw [hCall]
    exact (b.run early).perform_saved call
  · rw [hAll]
    have hKept : (b.run (early ++ [call])).IsKept := hCall ▸ isKept_of_saves hSaves
    exact hKept.run hLoads

end Saved

-- The host of the boards below keeps universal time.
attribute [local instance] TimeZone.universal

/-- A new board in pixels that keeps what it saves. -/
def unmeasured : Except (Error Exact) (Board Exact (NoProvider Exact) (SavedLayouts Exact)) :=
  create { Settings.defaults with unit := .pixels } ⟨⟩ ⟨[]⟩ ⟨0⟩

/-- A document that cannot be read, a gesture that is given up and a widget that is not there. -/
def fruitless : List (Call Exact) :=
  [.loadText "[", .startGesture .drag (label 1) ⟨0, 0⟩, .movePointer ⟨50, 0⟩, .abandonGesture,
    .remove (label 9)]

/-- The board is measured twice: too narrow, which saves nothing, and wide enough to turn the layout
into pixels, which saves it. Nothing after that makes what is saved out of date. -/
theorem measured_saved : ∃ b, unmeasured = .ok b ∧
    (b.run [.measure ⟨100, 800⟩]).saves (.measure ⟨1200, 800⟩) = true ∧
    (b.run ([.measure ⟨100, 800⟩] ++ [.measure ⟨1200, 800⟩])).loadsAny fruitless = false ∧
    (b.run ([.measure ⟨100, 800⟩] ++ .measure ⟨1200, 800⟩ :: fruitless)).keeper.saved.getLast? =
      some (b.run ([.measure ⟨100, 800⟩] ++ .measure ⟨1200, 800⟩ :: fruitless)).layout := by
  have hRun : (match unmeasured with
      | .ok b => (b.run [.measure ⟨100, 800⟩]).saves (.measure ⟨1200, 800⟩) &&
        !(b.run ([.measure ⟨100, 800⟩] ++ [.measure ⟨1200, 800⟩])).loadsAny fruitless
      | .error _ => false) = true := by decide +kernel
  cases hNew : unmeasured with
  | error e =>
      rw [hNew] at hRun
      cases hRun
  | ok b =>
      rw [hNew] at hRun
      simp only [Bool.and_eq_true, Bool.not_eq_true'] at hRun
      obtain ⟨hSaves, hLoads⟩ := hRun
      exact ⟨b, rfl, hSaves, hLoads, (run_saved b _ _ _).2 hSaves hLoads⟩

end Board
end NoteBoard
