import Mathlib.Data.List.Perm.Subperm
import NoteBoard.Proofs.Tally.Merging
import NoteBoard.Tally.Count

/-! What a count depends on. Where a provider reports the same record for a key in all its answers,
it does not matter which record for a key came first: a count is then one of the set of records
that any filter selects, and it can only grow with the filters and with the window. -/
namespace NoteBoard

section DistinctBy

variable {α β : Type} [DecidableEq β] {key : α → β}

theorem distinctBy_sublist (items : List α) : (distinctBy key items).Sublist items := by
  induction items with
  | nil => exact .slnil
  | cons a rest ih => exact ((List.filter_sublist).trans ih).cons_cons a

/-- If items with one key are the same, no item is lost. -/
theorem mem_distinctBy_iff {items : List α}
    (hSame : ∀ a ∈ items, ∀ b ∈ items, key a = key b → a = b) {a : α} :
    a ∈ distinctBy key items ↔ a ∈ items := by
  constructor
  · exact fun h => (distinctBy_sublist items).subset h
  · intro ha
    have hKey : key a ∈ (distinctBy key items).map key :=
      (mem_map_distinctBy key items (key a)).2 (List.mem_map_of_mem ha)
    obtain ⟨b, hb, hEq⟩ := List.mem_map.1 hKey
    exact hSame b ((distinctBy_sublist items).subset hb) a ha hEq ▸ hb

/-- More items, of which those with one key are the same, are more different ones. -/
theorem countP_distinctBy_le {first second : List α} (hSubset : first ⊆ second)
    (hSame : ∀ a ∈ second, ∀ b ∈ second, key a = key b → a = b) (p : α → Bool) :
    (distinctBy key first).countP p ≤ (distinctBy key second).countP p := by
  have hNodup : (distinctBy key first).Nodup := .of_map key (nodup_map_distinctBy key first)
  have hMore : distinctBy key first ⊆ distinctBy key second := fun a ha =>
    (mem_distinctBy_iff hSame).2 (hSubset ((distinctBy_sublist first).subset ha))
  exact (hNodup.subperm hMore).countP_le p

end DistinctBy

/-- A window within another one, which is open on both sides if this one is, admits no more. -/
theorem Window.admits_of_subset [TimeZone] {w v : Window}
    (hContains : ∀ t, w.contains t = true → v.contains t = true)
    (hOpen : w.isOpen = true → v.isOpen = true) {stamp : Option String}
    (h : w.admits stamp = true) : v.admits stamp = true := by
  simp only [admits, Bool.or_eq_true, Option.any_eq_true] at h ⊢
  rcases h with hAlways | ⟨t, hStamp, hInside⟩
  · exact .inl (hOpen hAlways)
  · exact .inr ⟨t, hStamp, hContains t hInside⟩

namespace Retrieval

variable {σ K : Type} [Provider σ K]

/-- A provider reports the same note for a path, and the same task for a line of a path, in all its
answers. -/
structure IsConsistent (s : σ) : Prop where
  pages : ∀ query query' answer answer', Provider.pages s query = .ok answer →
    Provider.pages s query' = .ok answer' →
      ∀ p ∈ answer, ∀ p' ∈ answer', p.path = p'.path → p = p'
  tasks : ∀ query query' answer answer', Provider.tasks s query = .ok answer →
    Provider.tasks s query' = .ok answer' →
      ∀ t ∈ answer, ∀ t' ∈ answer', (t.path, t.line) = (t'.path, t'.line) → t = t'

theorem subset_of_filtered {ε γ α : Type} {read : Except ε γ} {items answer : List α}
    {keep : γ → α → Bool} (h : (do return items.filter (keep (← read))) = Except.ok answer) :
    answer ⊆ items := by
  cases read with
  | error e => cases h
  | ok value =>
    obtain rfl := Except.ok.inj h
    exact List.filter_subset_self _

/-- A vault is consistent if no two notes have one path and no two tasks one line. -/
theorem isConsistent_vault [Numeral K] {v : Vault K} (hPaths : (v.notes.map (·.path)).Nodup)
    (hLines : (v.items.map fun t => (t.path, t.line)).Nodup) : IsConsistent v where
  pages := fun _ _ _ _ h h' _ hp _ hp' =>
    List.inj_on_of_nodup_map hPaths (subset_of_filtered h hp) (subset_of_filtered h' hp')
  tasks := fun _ _ _ _ h h' _ ht _ ht' =>
    List.inj_on_of_nodup_map hLines (subset_of_filtered h ht) (subset_of_filtered h' ht')

theorem exists_ok_of_mem {ε α : Type} {answer : Except ε (List α)} {a : α}
    (h : a ∈ answer.toOption.getD []) : ∃ items, answer = .ok items ∧ a ∈ items := by
  cases answer with
  | error e => cases h
  | ok items => exact ⟨items, rfl, h⟩

variable [Numeral K] {s : σ}

theorem exists_answer_of_mem_pagesOf {f : Filter} {p : Page K} (h : p ∈ pagesOf s f) :
    ∃ query answer, Provider.pages s query = .ok answer ∧ p ∈ answer := by
  have hAsked : p ∈ askPages s f.compile.source := (List.mem_filter.1 h).1
  unfold askPages at hAsked
  split at hAsked
  · exact ⟨_, exists_ok_of_mem hAsked⟩
  · cases hAsked

theorem exists_answer_of_mem_tasksOf {f : Filter} {t : Task} (h : t ∈ tasksOf s f) :
    ∃ query answer, Provider.tasks s query = .ok answer ∧ t ∈ answer := by
  have hAsked : t ∈ askTasks s f.compile.source := by
    simp only [tasksOf] at h
    split at h
    · exact h
    · exact (List.mem_filter.1 h).1
  unfold askTasks at hAsked
  split at hAsked
  · exact ⟨_, exists_ok_of_mem hAsked⟩
  · cases hAsked

/-- What single filters select grows with the filters, whatever of it counts. -/
theorem countP_merged_le {α β : Type} [DecidableEq β] {key : α → β} {own : Filter → List α}
    (hSame : ∀ f g, ∀ a ∈ own f, ∀ b ∈ own g, key a = key b → a = b) {fs gs : List Filter}
    (hSome : fs ≠ []) (hSubset : fs ⊆ gs) (p : α → Bool) :
    (distinctBy key ((orEverything fs).flatMap own)).countP p ≤
      (distinctBy key ((orEverything gs).flatMap own)).countP p := by
  have hMore : gs ≠ [] := fun hNil => hSome (List.subset_nil.1 (hNil ▸ hSubset))
  rw [orEverything_of_ne_nil hSome, orEverything_of_ne_nil hMore]
  refine countP_distinctBy_le (fun a ha => ?_) (fun a ha b hb => ?_) p
  · obtain ⟨f, hf, ha⟩ := List.mem_flatMap.1 ha
    exact List.mem_flatMap.2 ⟨f, hSubset hf, ha⟩
  · obtain ⟨f, -, ha⟩ := List.mem_flatMap.1 ha
    obtain ⟨g, -, hb⟩ := List.mem_flatMap.1 hb
    exact hSame f g a ha b hb

end Retrieval

namespace Count

open Retrieval

section Monotone

variable {σ K : Type} [TimeZone] [Provider σ K] [Numeral K] {s : σ}

theorem take_le_of_subset (h : IsConsistent s) (counted : Counted) (stamp : StampKind)
    (w : Window) {fs gs : List Filter} (hSome : fs ≠ []) (hSubset : fs ⊆ gs) :
    (take s counted fs stamp w).count ≤ (take s counted gs stamp w).count := by
  cases counted with
  | notes =>
    refine countP_merged_le (fun f g a ha b hb => ?_) hSome hSubset _
    obtain ⟨_, _, hAnswer, ha⟩ := exists_answer_of_mem_pagesOf ha
    obtain ⟨_, _, hAnswer', hb⟩ := exists_answer_of_mem_pagesOf hb
    exact h.pages _ _ _ _ hAnswer hAnswer' a ha b hb
  | tasks =>
    refine countP_merged_le (fun f g a ha b hb => ?_) hSome hSubset _
    obtain ⟨_, _, hAnswer, ha⟩ := exists_answer_of_mem_tasksOf ha
    obtain ⟨_, _, hAnswer', hb⟩ := exists_answer_of_mem_tasksOf hb
    exact h.tasks _ _ _ _ hAnswer hAnswer' a ha b hb

theorem take_le_of_window (counted : Counted) (filters : List Filter) (stamp : StampKind)
    {w v : Window} (hContains : ∀ t, w.contains t = true → v.contains t = true)
    (hOpen : w.isOpen = true → v.isOpen = true) :
    (take s counted filters stamp w).count ≤ (take s counted filters stamp v).count := by
  cases counted with
  | notes => exact List.countP_mono_left fun _ _ => Window.admits_of_subset hContains hOpen
  | tasks => exact List.countP_mono_left fun _ _ => Window.admits_of_subset hContains hOpen

/-- A count is the same for the same filters, however they are ordered and however often they are
repeated; it does not fall when filters are added, and not when the window gets wider. -/
theorem take_monotone (h : IsConsistent s) (counted : Counted) (stamp : StampKind) :
    (∀ w fs gs, fs ≠ [] → (∀ f, f ∈ gs ↔ f ∈ fs) →
      take s counted gs stamp w = take s counted fs stamp w) ∧
    (∀ w fs gs, fs ≠ [] → fs ⊆ gs →
      (take s counted fs stamp w).count ≤ (take s counted gs stamp w).count) ∧
    ∀ filters w v, (∀ t, w.contains t = true → v.contains t = true) →
      (w.isOpen = true → v.isOpen = true) →
        (take s counted filters stamp w).count ≤ (take s counted filters stamp v).count := by
  refine ⟨fun w fs gs hSome hFilters => ?_, fun w fs gs => take_le_of_subset h counted stamp w,
    fun filters w v => take_le_of_window counted filters stamp⟩
  have hMore : gs ≠ [] := by
    obtain ⟨f, hf⟩ := List.exists_mem_of_ne_nil fs hSome
    exact List.ne_nil_of_mem ((hFilters f).2 hf)
  have hCount : (take s counted gs stamp w).count = (take s counted fs stamp w).count :=
    Nat.le_antisymm (take_le_of_subset h counted stamp w hMore fun f => (hFilters f).1)
      (take_le_of_subset h counted stamp w hSome fun f => (hFilters f).2)
  exact congrArg (fun n => Count.mk n w.days) hCount

end Monotone

/-- A host five hours west of universal time. -/
local instance western : TimeZone := .fixed (-18000)

/-- A note of the tenth of March, on which it is the eleventh in universal time, and one of the day
after, both about work, and one at home without a time stamp. -/
def journal : Vault Exact :=
  ⟨[⟨"a.md", "a", ["#work"], none, some "2024-03-11T04:30:00Z", none⟩,
      ⟨"b.md", "b", ["#work", "#home"], none, some "2024-03-11T08:00:00", none⟩,
      ⟨"c.md", "c", ["#home"], none, none, none⟩], [], []⟩

theorem journal_counts :
    let work : Filter := ⟨"work", "", []⟩
    let home : Filter := ⟨"home", "", []⟩
    let tenth : Window := Timeframe.ofBounds (some "2024-03-10") (some "2024-03-10")
    IsConsistent journal ∧
      take journal .notes [work, home, work] .created .always =
        take journal .notes [home, work] .created .always ∧
      (take journal .notes [home, work] .created .always).count = 3 ∧
      (take journal .notes [work] .created tenth).count = 1 ∧
      (take journal .notes [work] .created tenth).count ≤
        (take journal .notes [work, home] .created tenth).count ∧
      (take journal .notes [work] .created tenth).count ≤
        (take journal .notes [work] .created .always).count := by
  intro work home tenth
  have hConsistent : IsConsistent journal := isConsistent_vault (by decide) (by decide)
  obtain ⟨hSame, hMore, hWider⟩ := take_monotone hConsistent .notes .created
  have hFilters : ∀ f, f ∈ [work, home, work] ↔ f ∈ [home, work] := by
    simp only [List.mem_cons, List.not_mem_nil]
    tauto
  refine ⟨hConsistent, hSame _ _ _ (by simp) hFilters, by decide +kernel, by decide +kernel,
    hMore _ _ _ (by simp) (by simp), hWider _ _ _ (fun _ _ => rfl) fun _ => rfl⟩

end Count
end NoteBoard
