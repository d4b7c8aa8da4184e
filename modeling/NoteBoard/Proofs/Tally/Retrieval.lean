import Mathlib.Data.List.Nodup
import NoteBoard.Number.Exact
import NoteBoard.Proofs.Filter.Meaning
import NoteBoard.Tally.Retrieval
import NoteBoard.Vault.Basic

/-! What filters select from a vault held in memory, in terms of what they ask for. A task counts
as having the tags of its note, and rules on fields are about the note; but the notes are asked for
with the tags of the filter too, so that a rule makes these be asked of the note alone. -/
namespace NoteBoard

/-- No key is lost. -/
theorem mem_map_distinctBy {α β : Type} [DecidableEq β] (key : α → β) (items : List α) (b : β) :
    b ∈ (distinctBy key items).map key ↔ b ∈ items.map key := by
  induction items with
  | nil => rfl
  | cons a rest ih =>
      rw [distinctBy, List.map_cons, List.map_cons, List.mem_cons, List.mem_cons, ← ih]
      by_cases hFirst : b = key a
      · simp [hFirst]
      · -- Only items with the key of the first one have been dropped.
        simp only [hFirst, false_or, List.mem_map, List.mem_filter, decide_eq_true_eq]
        constructor
        · rintro ⟨c, ⟨hc, -⟩, rfl⟩
          exact ⟨c, hc, rfl⟩
        · rintro ⟨c, hc, rfl⟩
          exact ⟨c, ⟨hc, hFirst⟩, rfl⟩

namespace Filter

/-- Whether the tags of a filter are single words: no white space, parentheses or quotes. -/
def HasWords (f : Filter) : Prop :=
  ∀ tag ∈ f.tagNames, ∀ c ∈ tag.toList, Text.isBlank c = false ∧ c ≠ '(' ∧ c ≠ ')' ∧ c ≠ '"'

/-- The text of such a filter is read as what the filter asks for. -/
theorem HasWords.ofText_eq {f : Filter} (h : f.HasWords) :
    Query.Tree.ofText f.compile.source = .ok f.sourceTree := by
  apply ofText_source_of_plain
  intro tag hTag c hc
  simpa [Query.Token.endsWord, and_assoc] using h tag hTag c hc

end Filter

namespace Vault

variable {K : Type}

/-- The tags at a path are those of the note there, if no other note has the path. -/
theorem tagsAt_of_mem {v : Vault K} (hPaths : (v.notes.map (·.path)).Nodup) {p : Page K}
    (hp : p ∈ v.notes) : v.tagsAt p.path = p.tags := by
  have hFound : ∃ found, v.notes.find? (·.path == p.path) = some found := by
    rw [← Option.isSome_iff_exists, List.find?_isSome]
    exact ⟨p, hp, beq_self_eq_true _⟩
  obtain ⟨found, hFound⟩ := hFound
  have hSame : found.path = p.path := by simpa using List.find?_some hFound
  have hOnly := List.inj_on_of_nodup_map hPaths (List.mem_of_find?_eq_some hFound) hp hSame
  rw [tagsAt, hFound, Option.map_some, Option.getD_some, hOnly]

variable [Numeral K]

/-- Whether a filter accepts a task: its folders the path, its tags those of the note there and of
the task together, and its rules the fields of the note there. -/
structure Accepts (v : Vault K) (f : Filter) (t : Task) : Prop where
  path : f.admitsPath t.path = true
  tags : f.admitsTags (v.tagsAt t.path ++ t.tags) = true
  fields : f.hasCompleteRule = true →
    ∃ p ∈ v.notes, p.path = t.path ∧ (Condition.ofRules f.rules).holds p.frontmatter = true

end Vault

namespace Retrieval

theorem orEverything_of_ne_nil {fs : List Filter} (h : fs ≠ []) : orEverything fs = fs :=
  if_neg fun hEmpty => h (List.isEmpty_iff.1 hEmpty)

variable {K : Type} [Numeral K] {v : Vault K} {f : Filter}

omit [Numeral K] in
theorem mem_askTasks (h : f.HasWords) {t : Task} : t ∈ askTasks v f.compile.source ↔
    t ∈ v.items ∧ f.admitsPath t.path = true ∧
      f.admitsTags (v.tagsAt t.path ++ t.tags) = true := by
  have hAnswer : askTasks v f.compile.source =
      v.items.filter fun t => f.sourceTree.takes (v.tagsAt t.path ++ t.tags) t.path := by
    simp only [askTasks, Provider.isReady, Provider.tasks, Vault.tasksOf, Vault.parsed,
      h.ofText_eq]
    rfl
  simp [hAnswer, Filter.takes_sourceTree]

theorem mem_pagesOf (h : f.HasWords) {p : Page K} : p ∈ pagesOf v f ↔
    p ∈ v.notes ∧ f.admitsPath p.path = true ∧ f.admitsTags p.tags = true ∧
      (Condition.ofRules f.rules).holds p.frontmatter = true := by
  have hAnswer : askPages v f.compile.source =
      v.notes.filter fun p => f.sourceTree.takes p.tags p.path := by
    simp only [askPages, Provider.isReady, Provider.pages, Vault.pagesOf, Vault.parsed,
      h.ofText_eq]
    rfl
  have hCondition : f.compile.condition = Condition.ofRules f.rules := rfl
  simp only [pagesOf, hAnswer, hCondition, List.mem_filter, Filter.takes_sourceTree,
    Bool.and_eq_true, and_assoc]

/-- The tasks of one filter: those it accepts, but if there are rules on fields, the tags of the
note must do without those of the task. -/
theorem mem_tasksOf (hPaths : (v.notes.map (·.path)).Nodup) (h : f.HasWords) {t : Task} :
    t ∈ tasksOf v f ↔ t ∈ v.items ∧ v.Accepts f t ∧
      (f.hasCompleteRule = true → f.admitsTags (v.tagsAt t.path) = true) := by
  have hEmpty : f.compile.condition.isEmpty = !f.hasCompleteRule := f.isEmpty_ofRules
  cases hRules : f.hasCompleteRule with
  | false =>
      rw [tasksOf, if_pos (by rw [hEmpty, hRules]; rfl), mem_askTasks h]
      constructor
      · rintro ⟨hItem, hPath, hTags⟩
        exact ⟨hItem, ⟨hPath, hTags, by simp [hRules]⟩, nofun⟩
      · rintro ⟨hItem, hAccepts, -⟩
        exact ⟨hItem, hAccepts.path, hAccepts.tags⟩
  | true =>
      rw [tasksOf, if_neg (by simp [hEmpty, hRules]), List.mem_filter, mem_askTasks h,
        List.contains_iff_mem, List.mem_map]
      constructor
      · rintro ⟨⟨hItem, hPath, hTags⟩, p, hp, hSame⟩
        obtain ⟨hNote, -, hOwn, hFields⟩ := (mem_pagesOf h).1 hp
        refine ⟨hItem, ⟨hPath, hTags, fun _ => ⟨p, hNote, hSame, hFields⟩⟩, fun _ => ?_⟩
        rwa [← hSame, Vault.tagsAt_of_mem hPaths hNote]
      · rintro ⟨hItem, hAccepts, hOwn⟩
        obtain ⟨p, hNote, hSame, hFields⟩ := hAccepts.fields hRules
        have hTags := hOwn rfl
        rw [← hSame, Vault.tagsAt_of_mem hPaths hNote] at hTags
        refine ⟨⟨hItem, hAccepts.path, hAccepts.tags⟩, p, (mem_pagesOf h).2 ?_, hSame⟩
        exact ⟨hNote, hSame ▸ hAccepts.path, hTags, hFields⟩

/-- The tasks that filters select from a vault, told apart by path and line: those that a filter
accepts, except that a filter with rules on fields does not count the tags of the task itself. -/
theorem exists_mem_tasks_iff (hPaths : (v.notes.map (·.path)).Nodup) {filters : List Filter}
    (hSome : filters ≠ []) (hWords : ∀ f ∈ filters, f.HasWords) (path : String) (line : Nat) :
    (∃ t ∈ tasks v filters, t.path = path ∧ t.line = line) ↔
      ∃ t ∈ v.items, (t.path = path ∧ t.line = line) ∧ ∃ f ∈ filters, v.Accepts f t ∧
        (f.hasCompleteRule = true → f.admitsTags (v.tagsAt t.path) = true) := by
  have hFilters : orEverything filters = filters := by
    rw [orEverything, if_neg (by simpa using hSome)]
  have hKeys := mem_map_distinctBy (fun t : Task => (t.path, t.line))
    (filters.flatMap (tasksOf v)) (path, line)
  simp only [List.mem_map, Prod.mk.injEq] at hKeys
  rw [tasks, hFilters, hKeys]
  constructor
  · rintro ⟨t, ht, hKey⟩
    obtain ⟨f, hf, hTask⟩ := List.mem_flatMap.1 ht
    obtain ⟨hItem, hAccepted⟩ := (mem_tasksOf hPaths (hWords f hf)).1 hTask
    exact ⟨t, hItem, hKey, f, hf, hAccepted⟩
  · rintro ⟨t, hItem, hKey, f, hf, hAccepted⟩
    have hTask := (mem_tasksOf hPaths (hWords f hf)).2 ⟨hItem, hAccepted⟩
    exact ⟨t, List.mem_flatMap.2 ⟨f, hf, hTask⟩, hKey⟩

/-- Two active notes, of which the second is about work, and the task of the first. -/
def plans : Vault Exact :=
  let active : Frontmatter Exact := [("status", .text "active")]
  ⟨[⟨"a.md", "a", [], some active, none, none⟩, ⟨"b.md", "b", ["#work"], some active, none, none⟩],
    [{ Task.ofLine "a.md" 0 "Ship it" with tags := ["#work"] }, Task.ofLine "b.md" 0 "Rest"], []⟩

/-- Whatever is active and about work. -/
def activeWork : Filter := ⟨"work", "", [⟨"status", "active"⟩]⟩

/-- The filter accepts both tasks, but only the one whose note is about work is selected. -/
theorem plans_tasks : (plans.notes.map (·.path)).Nodup ∧ activeWork.HasWords ∧
    (∀ t ∈ plans.items, plans.Accepts activeWork t) ∧
    (∃ t ∈ tasks plans [activeWork], t.path = "b.md" ∧ t.line = 0) ∧
    ¬ ∃ t ∈ tasks plans [activeWork], t.path = "a.md" ∧ t.line = 0 := by
  have hPaths : (plans.notes.map (·.path)).Nodup := by decide
  have hNames : activeWork.tagNames = ["work"] := by decide +kernel
  have hLetters : Text.isBlank 'w' = false ∧ Text.isBlank 'o' = false ∧
      Text.isBlank 'r' = false ∧ Text.isBlank 'k' = false := by decide
  have hWords : activeWork.HasWords := by simpa [Filter.HasWords, hNames] using hLetters
  have hParts : ∀ t ∈ plans.items, activeWork.admitsPath t.path = true ∧
      activeWork.admitsTags (plans.tagsAt t.path ++ t.tags) = true ∧
      ∃ p ∈ plans.notes, p.path = t.path ∧
        (Condition.ofRules activeWork.rules).holds p.frontmatter = true := by decide +kernel
  have hAccepts : ∀ t ∈ plans.items, plans.Accepts activeWork t := by
    intro t ht
    obtain ⟨hPath, hTags, hFields⟩ := hParts t ht
    exact ⟨hPath, hTags, fun _ => hFields⟩
  have hKeys := exists_mem_tasks_iff hPaths (List.cons_ne_nil activeWork []) (by simpa using hWords)
  refine ⟨hPaths, hWords, hAccepts, (hKeys "b.md" 0).2 ?_, fun hSelected => ?_⟩
  · have hItem : Task.ofLine "b.md" 0 "Rest" ∈ plans.items := by decide
    exact ⟨_, hItem, ⟨rfl, rfl⟩, activeWork, List.mem_singleton_self _, hAccepts _ hItem,
      fun _ => by decide +kernel⟩
  · obtain ⟨t, -, ⟨hPath, -⟩, f, hf, -, hOwn⟩ := (hKeys "a.md" 0).1 hSelected
    obtain rfl := List.mem_singleton.1 hf
    have hNone : activeWork.admitsTags (plans.tagsAt "a.md") = false := by decide +kernel
    have hRules : activeWork.hasCompleteRule = true := by decide +kernel
    rw [hPath, hNone] at hOwn
    cases hOwn hRules

end Retrieval
end NoteBoard
