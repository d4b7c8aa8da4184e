import NoteBoard.Number.Exact
import NoteBoard.Proofs.Board.Effects
import NoteBoard.Proofs.Board.Reached
import NoteBoard.Proofs.Board.UnderWay
import NoteBoard.Vault.Basic

/-! When a board takes the result of a fetch. All that calls do to the fetches of a board are
operations on them, and from those since the fetch was started it can be told whether its result
is taken. Flipping a checkbox makes all data go, but cancels nothing: what was fetched before the
flip is taken after it. -/
namespace NoteBoard
namespace Board

variable {K σ τ : Type}

/-- Ends the fetch, whether its result is taken or not. -/
theorem applyFetch_fetches (b : Board K σ τ) (t : Ticket) (data : WidgetView K) :
    (b.applyFetch t data).2.fetches = b.fetches.ended t := by
  simp only [applyFetch, Fetches.commit]
  split
  · split
    · rfl
    · rfl
  · rfl

/-- A result is taken if its widget is there and its ticket is live. -/
theorem applyFetch_iff {b : Board K σ τ} {t : Ticket} {data : WidgetView K} :
    (b.applyFetch t data).1 = true ↔
      b.layout.contains t.widget = true ∧ b.fetches.isLive t = true := by
  simp only [applyFetch, Fetches.commit, Fetches.isLive_ended]
  split
  · next hContains =>
    split
    · next hLive => simp [hContains, hLive]
    · next hDead => simp [hDead]
  · next hGone => simp [hGone]

/-- Only a result that is taken becomes data. -/
theorem applyFetch_data (b : Board K σ τ) (t : Ticket) (data : WidgetView K) :
    (b.applyFetch t data).2.data =
      if (b.applyFetch t data).1 then b.data.set t.widget data else b.data := by
  simp only [applyFetch, Fetches.commit]
  split
  · split
    · rfl
    · rfl
  · rfl

/-- A checkbox that is flipped leaves the fetches as they are. -/
theorem eq_of_flipTask [Provider σ K] {b flipped : Board K σ τ} {path : String} {line : Nat}
    (h : b.flipTask path line = (true, flipped)) :
    flipped = { b with source := (Provider.toggle b.source path line).2, data := [] } := by
  unfold flipTask at h
  split at h
  · next source hToggle =>
    rw [hToggle]
    exact (congrArg Prod.snd h).symm
  · cases congrArg Prod.fst h

section Calls

variable [Numeral K] [TimeZone] [LabelSource] [Provider σ K] [LayoutKeeper τ K]

/-- What a call does to the fetches of a board. A call that fails does nothing to them, except for
a reset that gets as far as the unit of the board. -/
def fetchOps (b : Board K σ τ) : Call K → List Fetches.Op
  | .load l => if (b.load l).1.isOk then [.clear] else []
  | .loadText text => if (b.loadText text).1.isOk then [.clear] else []
  | .remove id => if (b.remove id).1.isOk then [.cancel id] else []
  | .update id edit => if (b.update id edit).1.isOk then [.cancel id] else []
  | .reset =>
    let (l, labels) := b.settings.newLayout b.labels
    if (l.tidy b.settings.limit labels).isOk then [.clear] else []
  | .startFetch id => if (b.startFetch id).1.isOk then [.start id] else []
  | .applyFetch t _ => [.ended t]
  | .close => [.clear]
  | _ => []

omit [Numeral K] [TimeZone] [Provider σ K] [LayoutKeeper τ K] in
theorem load_fetches [Number K] (b : Board K σ τ) (l : Layout K) :
    (b.load l).2.fetches = if (b.load l).1.isOk then b.fetches.clear else b.fetches := by
  rcases b.load_cases l with ⟨t, labels, l', -, -, hLoad⟩ | ⟨e, hLoad⟩
  · rw [hLoad]
    rfl
  · rw [hLoad]
    rfl

omit [TimeZone] [Provider σ K] [LayoutKeeper τ K] in
theorem loadText_fetches (b : Board K σ τ) (text : String) :
    (b.loadText text).2.fetches =
      if (b.loadText text).1.isOk then b.fetches.clear else b.fetches := by
  unfold loadText
  split
  · exact b.load_fetches _
  · rfl

/-- Every call is such operations on the fetches. -/
theorem perform_fetches (b : Board K σ τ) (call : Call K) :
    (b.perform call).2.fetches = (b.fetchOps call).foldl Fetches.after b.fetches := by
  cases call with
  | measure c =>
      rw [perform, reply_snd]
      rcases b.measure_cases c with ⟨-, hMeasure⟩ | ⟨-, -, hMeasure⟩ | ⟨-, -, l, -, hMeasure⟩ |
        ⟨-, -, e, -, hMeasure⟩
      all_goals
        rw [hMeasure]
        rfl
  | load l =>
      rw [perform, reply_snd, load_fetches, fetchOps]
      split
      · rfl
      · rfl
  | loadText text =>
      rw [perform, reply_snd, loadText_fetches, fetchOps]
      split
      · rfl
      · rfl
  | add t =>
      rw [perform, reply_snd]
      rcases b.add_cases t with ⟨r, hAdd⟩ | ⟨e, -, hAdd⟩
      · rw [hAdd]
        rcases insert_cases { b with labels := (b.labels.fresh b.layout.ids).2 }
          ((Widget.new (b.labels.fresh b.layout.ids).1 t).withRect r) with
          ⟨l, labels, -, hInsert⟩ | ⟨e, -, hInsert⟩
        · rw [hInsert]
          rfl
        · rw [hInsert]
          rfl
      · rw [hAdd]
        rfl
  | insert w =>
      rw [perform, reply_snd]
      rcases b.insert_cases w with ⟨l, labels, -, hInsert⟩ | ⟨e, -, hInsert⟩
      · rw [hInsert]
        rfl
      · rw [hInsert]
        rfl
  | remove id =>
      rw [perform, reply_snd, fetchOps]
      rcases b.remove_cases id with ⟨w, -, hRemove⟩ | ⟨-, hRemove⟩
      · rw [hRemove]
        rfl
      · rw [hRemove]
        rfl
  | update id edit =>
      rw [perform, reply_snd, fetchOps]
      rcases b.update_cases id edit with ⟨l, labels, -, -, hUpdate⟩ | ⟨e, hUpdate⟩
      · rw [hUpdate]
        rfl
      · rw [hUpdate]
        rfl
  | reset =>
      rw [perform, reply_snd, fetchOps]
      rcases b.reset_cases with ⟨l, labels, hTidy, ⟨l', -, hReset⟩ | ⟨e, -, hReset⟩⟩ |
        ⟨e, hTidy, hReset⟩
      all_goals
        simp only [hReset, hTidy]
        rfl
  | startGesture kind id p =>
      rw [perform, reply_snd]
      rcases b.startGesture_cases kind id p with ⟨s, w, -, -, hStart⟩ | ⟨e, hStart⟩
      · rw [hStart]
        rfl
      · rw [hStart]
        rfl
  | movePointer p =>
      rw [perform, reply_snd]
      rcases b.movePointer_cases p with ⟨-, hMove⟩ | ⟨g, s, r, -, -, -, hMove⟩ | ⟨e, hMove⟩
      all_goals
        rw [hMove]
        rfl
  | liftPointer =>
      show b.liftPointer.2.fetches = b.fetches
      rcases b.liftPointer_cases with ⟨-, hLift⟩ | ⟨g, -, hLift⟩
      · rw [hLift]
      · rw [hLift]
        rfl
  | abandonGesture => rfl
  | evaluate id now =>
      rw [perform, reply_snd]
      rcases b.evaluate_cases id now with ⟨w, -, hEvaluate⟩ | ⟨-, hEvaluate⟩
      · rw [hEvaluate]
        rfl
      · rw [hEvaluate]
        rfl
  | evaluateEach now => rfl
  | startFetch id =>
      rw [perform, reply_snd, fetchOps]
      rcases b.startFetch_cases id with ⟨w, -, hStart⟩ | ⟨-, hStart⟩
      · rw [hStart]
        rfl
      · rw [hStart]
        rfl
  | applyFetch t data => exact b.applyFetch_fetches t data
  | flipTask path line =>
      show (b.flipTask path line).2.fetches = b.fetches
      unfold flipTask
      split
      · rfl
      · rfl
  | close => rfl

/-- What one call after another does to the fetches of a board. -/
def fetchOpsOf (b : Board K σ τ) : List (Call K) → List Fetches.Op
  | [] => []
  | call :: rest => b.fetchOps call ++ (b.perform call).2.fetchOpsOf rest

theorem run_fetches (b : Board K σ τ) (calls : List (Call K)) :
    (b.run calls).fetches = (b.fetchOpsOf calls).foldl Fetches.after b.fetches := by
  induction calls generalizing b with
  | nil => rfl
  | cons call rest ih =>
      rw [fetchOpsOf, List.foldl_append, ← perform_fetches]
      exact ih (b.perform call).2

/-- The fetches of a board have a history, which began with none. -/
theorem Reached.exists_history {Admitted : Board K σ τ → Prop} {b : Board K σ τ}
    (h : Reached Admitted b) : ∃ ops, b.fetches = (Fetches.History.of ops).fetches := by
  induction h with
  | created hCreate _ =>
      obtain ⟨-, t, labels, -, rfl⟩ := eq_of_create hCreate
      exact ⟨[], rfl⟩
  | @called b _ call _ ih =>
      obtain ⟨ops, hOps⟩ := ih
      refine ⟨ops ++ b.fetchOps call, ?_⟩
      rw [perform_fetches, Fetches.History.of_append, Fetches.fetches_foldl, hOps]

omit [Numeral K] [TimeZone] [LabelSource] [Provider σ K] [LayoutKeeper τ K] in
/-- A fetch that starts has the next ticket, and is the last that was started. -/
theorem eq_of_startFetch {b started : Board K σ τ} {id : String} {t : Ticket}
    (h : b.startFetch id = (.ok t, started)) :
    t = (b.fetches.start id).1 ∧ started = { b with fetches := (b.fetches.start id).2 } := by
  rcases b.startFetch_cases id with ⟨w, -, hStart⟩ | ⟨-, hStart⟩
  · rw [hStart] at h
    cases h
    exact ⟨rfl, rfl⟩
  · rw [hStart] at h
    cases h

/-- The ticket of a fetch is live exactly if since it was started not everything has been cancelled,
and its widget was neither cancelled nor fetched again before the fetch had ended. -/
theorem Reached.isLive_since {Admitted : Board K σ τ → Prop} {b started now : Board K σ τ}
    {id : String} {t : Ticket} (h : Reached Admitted b)
    (hStart : b.startFetch id = (.ok t, started)) {ops : List Fetches.Op}
    (hNow : now.fetches = ops.foldl Fetches.after started.fetches) :
    now.fetches.isLive t = true ↔ Fetches.Op.clear ∉ ops ∧
      ∀ op ∈ ops.takeWhile (· ≠ .ended t), op ≠ .start id ∧ op ≠ .cancel id := by
  obtain ⟨prior, hPrior⟩ := h.exists_history
  obtain ⟨rfl, rfl⟩ := eq_of_startFetch hStart
  have hIssued : ((Fetches.History.of prior).fetches.start id).1 = (b.fetches.start id).1 := by
    rw [hPrior]
  have hHistory : now.fetches = (Fetches.History.of (prior ++ .start id :: ops)).fetches := by
    rw [hNow, Fetches.History.of_append, Fetches.fetches_foldl, List.foldl_cons, hPrior]
    rfl
  rw [hHistory]
  exact Fetches.isLive_since (t := (b.fetches.start id).1) prior ops hIssued

/-- The result of a fetch that was started before a checkbox is flipped. The flip makes all data
go, but the result is taken later exactly as it would have been without the flip: if its widget is
still there, and since the fetch was started not everything has been cancelled, and its widget was
neither cancelled nor fetched again before the fetch had ended. -/
theorem Reached.fetched_before_flip {Admitted : Board K σ τ → Prop}
    {b started flipped : Board K σ τ} {id path : String} {line : Nat} {t : Ticket}
    {before : List (Call K)} (h : Reached Admitted b)
    (hStart : b.startFetch id = (.ok t, started))
    (hFlip : (started.run before).flipTask path line = (true, flipped)) (later : List (Call K))
    (data : WidgetView K) :
    let ops := started.fetchOpsOf before ++ flipped.fetchOpsOf later
    let now := flipped.run later
    flipped.data = [] ∧
      ((now.applyFetch t data).1 = true ↔ now.layout.contains id = true ∧
        Fetches.Op.clear ∉ ops ∧
          ∀ op ∈ ops.takeWhile (· ≠ .ended t), op ≠ .start id ∧ op ≠ .cancel id) ∧
      (now.applyFetch t data).2.data =
        if (now.applyFetch t data).1 then now.data.set id data else now.data := by
  intro ops now
  have hFlipped := eq_of_flipTask hFlip
  have hWidget : t.widget = id := by rw [(eq_of_startFetch hStart).1, Fetches.start]
  have hSame : flipped.fetches = (started.run before).fetches := by rw [hFlipped]
  have hNow : now.fetches = ops.foldl Fetches.after started.fetches := by
    rw [List.foldl_append, ← run_fetches, ← hSame, ← run_fetches]
  refine ⟨by rw [hFlipped], ?_, ?_⟩
  · rw [applyFetch_iff, hWidget, h.isLive_since hStart hNow]
  · rw [applyFetch_data, hWidget]

end Calls

-- The host of the boards below keeps universal time.
attribute [local instance] TimeZone.universal

/-- A vault with one open task. -/
def oneTask : Vault Exact :=
  ⟨[], [⟨"a.md", 0, "Ship it", false, none, [], none, none, none⟩], [("a.md", "- [ ] Ship it")]⟩

/-- A new board on this vault. -/
def tasked : Except (Error Exact) (Board Exact (Vault Exact) (NoKeeper Exact)) :=
  create .defaults oneTask ⟨⟩ ⟨0⟩

/-- The task is fetched while it is open, flipped, and then shown open. -/
theorem tasked_fetched_before_flip : ∃ b started flipped t, tasked = .ok b ∧
    b.startFetch (label 3) = (.ok t, started) ∧ started.flipTask "a.md" 0 = (true, flipped) ∧
    flipped.data = [] ∧ (flipped.applyFetch t (.taskList oneTask.items 1)).1 = true ∧
    (flipped.applyFetch t (.taskList oneTask.items 1)).2.dataOf (label 3) =
      some (.taskList oneTask.items 1) := by
  have hRun : (match tasked with
      | .ok b =>
        let (answer, started) := b.startFetch (label 3)
        let (answers, flipped) := started.flipTask "a.md" 0
        answer.isOk && answers && flipped.layout.contains (label 3)
      | .error _ => false) = true := by decide +kernel
  cases hNew : tasked with
  | error e =>
      rw [hNew] at hRun
      cases hRun
  | ok b =>
      rw [hNew] at hRun
      have hReached : Reached (fun _ => True) b := .created hNew trivial
      rcases hStart : b.startFetch (label 3) with ⟨answer, started⟩
      rcases hFlip : started.flipTask "a.md" 0 with ⟨answers, flipped⟩
      simp only [hStart, hFlip, Bool.and_eq_true] at hRun
      obtain ⟨⟨hOk, rfl⟩, hThere⟩ := hRun
      cases answer with
      | error e => cases hOk
      | ok t =>
          have hBefore : (started.run []).flipTask "a.md" 0 = (true, flipped) := hFlip
          obtain ⟨hGone, hTaken, hData⟩ := Reached.fetched_before_flip hReached hStart hBefore []
            (.taskList oneTask.items 1)
          have hIs := hTaken.2 ⟨hThere, by simp [fetchOpsOf]⟩
          refine ⟨b, started, flipped, t, rfl, hStart, hFlip, hGone, hIs, ?_⟩
          rw [dataOf, show (flipped.applyFetch t _).2.data = _ from hData, if_pos hIs,
            Table.lookup_set, if_pos rfl]

end Board
end NoteBoard
