import NoteBoard.Proofs.Tally.Retrieval

/-! What lists of filters select when they are put together: what the first list selects, and then
what the second one adds. A filter for which a provider does not answer adds nothing. -/
namespace NoteBoard

section DistinctBy

variable {α β : Type} [DecidableEq β] (key : α → β)

/-- Of two lists, the second adds the items with keys that the first does not have. -/
theorem distinctBy_append (first second : List α) :
    distinctBy key (first ++ second) = distinctBy key first ++
      (distinctBy key second).filter fun b => key b ∉ (distinctBy key first).map key := by
  simp only [mem_map_distinctBy]
  induction first with
  | nil => simp [distinctBy]
  | cons a rest ih =>
      have hKeys : (fun b => decide (key b ∉ (a :: rest).map key)) =
          fun b => decide (key b ≠ key a) && decide (key b ∉ rest.map key) := by
        funext b
        simp only [List.map_cons, List.mem_cons, not_or, Bool.decide_and]
      rw [List.cons_append, distinctBy, distinctBy, ih, List.filter_append, List.filter_filter,
        List.cons_append, hKeys]

theorem nodup_map_distinctBy (items : List α) : ((distinctBy key items).map key).Nodup := by
  induction items with
  | nil => exact List.nodup_nil
  | cons a rest ih =>
      have hSublist := (List.filter_sublist (p := fun b => key b ≠ key a)
        (l := distinctBy key rest)).map key
      refine List.nodup_cons.2 ⟨?_, ih.sublist hSublist⟩
      simp

end DistinctBy

namespace Retrieval

/-- How the items that filters select behave when lists of filters are put together. Items are told
apart by a key; `own` are those of a single filter. -/
structure Merges {α β : Type} [DecidableEq β] (key : α → β) (own : Filter → List α)
    (Fails : Filter → Prop) (items : List Filter → List α) : Prop where
  append : ∀ fs gs, fs ≠ [] → gs ≠ [] →
    items (fs ++ gs) = items fs ++ (items gs).filter fun b => key b ∉ (items fs).map key
  nodup : ∀ fs, ((items fs).map key).Nodup
  keys : ∀ fs, fs ≠ [] → ∀ b, b ∈ (items fs).map key ↔ ∃ f ∈ fs, b ∈ (own f).map key
  failed : ∀ f, Fails f → items [f] = []
  skip : ∀ before f after, Fails f → before ++ after ≠ [] →
    items (before ++ f :: after) = items (before ++ after)

/-- Items of single filters, one filter after the other and each key once, behave so if a filter
that fails has none. -/
theorem merges_distinctBy {α β : Type} [DecidableEq β] (key : α → β) {own : Filter → List α}
    {Fails : Filter → Prop} (hFails : ∀ f, Fails f → own f = []) :
    Merges key own Fails fun fs => distinctBy key ((orEverything fs).flatMap own) := by
  constructor
  case append =>
    intro fs gs hfs hgs
    rw [orEverything_of_ne_nil hfs, orEverything_of_ne_nil hgs,
      orEverything_of_ne_nil (by simp [hfs]), List.flatMap_append, distinctBy_append]
  case nodup => exact fun fs => nodup_map_distinctBy key _
  case keys =>
    intro fs hfs b
    rw [orEverything_of_ne_nil hfs, mem_map_distinctBy, List.map_flatMap, List.mem_flatMap]
  case failed =>
    intro f hf
    simp [orEverything, hFails f hf, distinctBy]
  case skip =>
    intro before f after hf hSome
    have hMore : before ++ f :: after ≠ [] := by simp
    rw [orEverything_of_ne_nil hSome, orEverything_of_ne_nil hMore, List.flatMap_append,
      List.flatMap_cons, hFails f hf, List.nil_append, List.flatMap_append]

variable {σ K : Type} [Provider σ K]

/-- The provider does not answer when it is asked for the notes of a filter. -/
def PagesFail (s : σ) (f : Filter) : Prop :=
  ∃ e, Provider.pages s f.compile.source = .error e

/-- The provider does not answer when it is asked for the tasks of a filter or, because of rules on
fields, for its notes. -/
def TasksFail (s : σ) (f : Filter) : Prop :=
  (∃ e, Provider.tasks s f.compile.source = .error e) ∨ (f.hasCompleteRule = true ∧ PagesFail s f)

theorem askPages_eq_nil {s : σ} {query : String}
    (h : Provider.isReady s = false ∨ ∃ e, Provider.pages s query = .error e) :
    askPages s query = [] := by
  rcases h with hNotReady | ⟨e, he⟩
  · rw [askPages, if_neg (by simp [hNotReady])]
  · rw [askPages, he]
    split <;> rfl

theorem askTasks_eq_nil {s : σ} {query : String}
    (h : Provider.isReady s = false ∨ ∃ e, Provider.tasks s query = .error e) :
    askTasks s query = [] := by
  rcases h with hNotReady | ⟨e, he⟩
  · rw [askTasks, if_neg (by simp [hNotReady])]
  · rw [askTasks, he]
    split <;> rfl

variable [Numeral K] {s : σ} {f : Filter}

theorem pagesOf_eq_nil (h : Provider.isReady s = false ∨ PagesFail s f) : pagesOf s f = [] := by
  rw [pagesOf, askPages_eq_nil h, List.filter_nil]

theorem tasksOf_eq_nil (h : Provider.isReady s = false ∨ TasksFail s f) : tasksOf s f = [] := by
  have hNone (hAsk : askTasks s f.compile.source = []) : tasksOf s f = [] := by
    rw [tasksOf, hAsk]
    split <;> rfl
  rcases h with hNotReady | hTasks | ⟨hRules, hPages⟩
  · exact hNone (askTasks_eq_nil (.inl hNotReady))
  · exact hNone (askTasks_eq_nil (.inr hTasks))
  · have hCondition : f.compile.condition.isEmpty = false := by
      rw [show f.compile.condition = Condition.ofRules f.rules from rfl, f.isEmpty_ofRules, hRules]
      rfl
    -- There may be tasks, but no note that would admit one of them.
    rw [tasksOf, if_neg (by simp [hCondition]), pagesOf_eq_nil (.inr hPages)]
    simp

/-- What filters select is put together list by list, notes by path and tasks by path and line,
whatever the provider answers to which query. A filter adds nothing if a query for it fails, and
nothing is selected from a provider that is not ready. -/
theorem pages_tasks_merge (s : σ) :
    Merges (·.path) (pagesOf s) (PagesFail s) (pages s) ∧
      Merges (fun t : Task => (t.path, t.line)) (tasksOf s) (TasksFail s) (tasks s) ∧
      (Provider.isReady s = false → ∀ filters, pages s filters = [] ∧ tasks s filters = []) := by
  refine ⟨merges_distinctBy _ fun _ h => pagesOf_eq_nil (.inr h),
    merges_distinctBy _ fun _ h => tasksOf_eq_nil (.inr h), fun hNotReady filters => ?_⟩
  have hPages : (orEverything filters).flatMap (pagesOf s) = [] :=
    List.flatMap_eq_nil_iff.2 fun _ _ => pagesOf_eq_nil (.inl hNotReady)
  have hTasks : (orEverything filters).flatMap (tasksOf s) = [] :=
    List.flatMap_eq_nil_iff.2 fun _ _ => tasksOf_eq_nil (.inl hNotReady)
  rw [pages, tasks, hPages, hTasks]
  exact ⟨rfl, rfl⟩

/-- A filter that no vault answers, since there is a parenthesis in its tag. -/
def unclosed : Filter := ⟨"work(", "", []⟩

/-- What is active and about work comes first, and then the rest, whatever stands between. -/
theorem plans_merged :
    (PagesFail plans unclosed ∧ TasksFail plans unclosed) ∧
    pages plans [activeWork, unclosed, .everything] = pages plans [activeWork] ++
      (pages plans [.everything]).filter
        (fun p => p.path ∉ (pages plans [activeWork]).map (·.path)) ∧
    (pages plans [activeWork, unclosed, .everything]).map (·.path) = ["b.md", "a.md"] ∧
    tasks plans [activeWork, unclosed] = tasks plans [activeWork] ∧
    ∀ filters, pages (⟨⟩ : NoProvider Exact) filters = [] := by
  obtain ⟨hPages, hTasks, -⟩ := pages_tasks_merge plans
  obtain ⟨-, -, hNotReady⟩ := pages_tasks_merge (⟨⟩ : NoProvider Exact)
  have hQuery : Query.Tree.ofText unclosed.compile.source = .error .trailingInput := by
    decide +kernel
  have hNotes : PagesFail plans unclosed :=
    ⟨.query unclosed.compile.source .trailingInput, by
      simp only [Provider.pages, Vault.pagesOf, Vault.parsed, hQuery]
      rfl⟩
  have hItems : TasksFail plans unclosed :=
    .inl ⟨.query unclosed.compile.source .trailingInput, by
      simp only [Provider.tasks, Vault.tasksOf, Vault.parsed, hQuery]
      rfl⟩
  have hSkip := hPages.skip [activeWork] unclosed [.everything] hNotes (by simp)
  have hAppend := hPages.append [activeWork] [.everything] (by simp) (by simp)
  have hOrder : (pages plans [activeWork, .everything]).map (·.path) = ["b.md", "a.md"] := by
    decide +kernel
  exact ⟨⟨hNotes, hItems⟩, hSkip.trans hAppend, (congrArg _ hSkip).trans hOrder,
    hTasks.skip [activeWork] unclosed [] hItems (by simp), fun filters => (hNotReady rfl filters).1⟩

end Retrieval
end NoteBoard
