import Mathlib.Algebra.BigOperators.Group.List.Lemmas
import Mathlib.Algebra.GroupWithZero.Nat
import NoteBoard.Proofs.Text.Listed
import NoteBoard.Tally.Grouping
import NoteBoard.Number.Exact

/-! How notes are ranked by group. The groups of all notes, one note after another, say everything:
a group is as large as it is often among them, and the groups of one size stand in the order in
which they first are. -/
namespace NoteBoard

section Names

/-- Different names stand in the order in which they first are. -/
theorem pairwise_idxOf_eraseDups (names : List String) :
    names.eraseDups.Pairwise fun a b => names.idxOf a < names.idxOf b := by
  induction names using List.reverseRecOn with
  | nil => exact .nil
  | append_singleton names name ih =>
      have hOld : names.eraseDups.Pairwise fun a b =>
          (names ++ [name]).idxOf a < (names ++ [name]).idxOf b := by
        refine ih.imp_of_mem fun ha hb hLt => ?_
        rw [List.mem_eraseDups] at ha hb
        rwa [List.idxOf_append_of_mem ha, List.idxOf_append_of_mem hb]
      by_cases hKnown : name ∈ names
      · rwa [Text.eraseDups_concat_of_mem hKnown]
      · rw [Text.eraseDups_concat_of_notMem hKnown]
        refine List.pairwise_append.2 ⟨hOld, List.pairwise_singleton _ _, ?_⟩
        intro a ha b hb
        rw [List.mem_eraseDups] at ha
        rw [List.mem_singleton.1 hb, List.idxOf_append_of_mem ha,
          List.idxOf_append_of_notMem hKnown]
        exact Nat.lt_add_right _ (List.idxOf_lt_length_of_mem ha)

theorem sum_map_count_eraseDups (names : List String) :
    (names.eraseDups.map names.count).sum = names.length := by
  have hPerm : names.eraseDups.Perm names.dedup :=
    (List.perm_ext_iff_of_nodup (Text.nodup_eraseDups names) names.nodup_dedup).2 (by simp)
  rw [(hPerm.map names.count).sum_eq, List.sum_map_count_dedup_eq_length]

end Names

namespace Grouping

theorem bump_of_mem {name : String} {names : List String} (hNodup : names.Nodup)
    (hMem : name ∈ names) (count : String → Nat) :
    bump name (names.map fun other => (other, count other)) =
      names.map fun other => (other, count other + if name = other then 1 else 0) := by
  induction names with
  | nil => exact absurd hMem List.not_mem_nil
  | cons first rest ih =>
      obtain ⟨hFirst, hRest⟩ := List.nodup_cons.1 hNodup
      by_cases hSame : first = name
      · subst hSame
        have hOthers : ∀ other ∈ rest, first ≠ other := fun _ hOther hEq => hFirst (hEq ▸ hOther)
        simp +contextual [bump, hOthers]
      · have hMem' : name ∈ rest := (List.mem_cons.1 hMem).resolve_left (Ne.symm hSame)
        simp [bump, hSame, Ne.symm hSame, ih hRest hMem']

theorem bump_of_notMem {name : String} {names : List String} (hNew : name ∉ names)
    (count : String → Nat) :
    bump name (names.map fun other => (other, count other)) =
      names.map (fun other => (other, count other)) ++ [(name, 1)] := by
  induction names with
  | nil => rfl
  | cons first rest ih =>
      obtain ⟨hFirst, hRest⟩ := not_or.1 (mt List.mem_cons.2 hNew)
      simp [bump, Ne.symm hFirst, ih hRest]

/-- Names that are counted one by one: each of them once, where it first is. -/
theorem foldl_bump (names : List String) :
    names.foldl (fun known name => bump name known) [] =
      names.eraseDups.map fun name => (name, names.count name) := by
  induction names using List.reverseRecOn with
  | nil => rfl
  | append_singleton names name ih =>
      rw [List.foldl_append, ih, List.foldl_cons, List.foldl_nil]
      by_cases hKnown : name ∈ names
      · rw [bump_of_mem (Text.nodup_eraseDups names) (List.mem_eraseDups.2 hKnown),
          Text.eraseDups_concat_of_mem hKnown]
        simp only [List.count_append, List.count_singleton, beq_iff_eq]
      · have hOld : ∀ other ∈ names.eraseDups, name ≠ other :=
          fun _ hOther hEq => hKnown (hEq ▸ List.mem_eraseDups.1 hOther)
        have hNone : names.count name = 0 := List.count_eq_zero.2 hKnown
        rw [bump_of_notMem (mt List.mem_eraseDups.1 hKnown), Text.eraseDups_concat_of_notMem hKnown,
          List.map_append]
        congr 1
        · refine List.map_congr_left fun other hOther => ?_
          simp [List.count_append, hOld other hOther]
        · simp [List.count_append, hNone]

variable {K : Type} [Numeral K]

theorem namesOr_ne_nil (standIn : String) (names : List String) : namesOr standIn names ≠ [] := by
  unfold namesOr
  split <;> simp_all

theorem nodup_namesOr (standIn : String) (names : List String) : (namesOr standIn names).Nodup := by
  unfold namesOr
  split
  · exact List.nodup_singleton standIn
  · exact Text.nodup_eraseDups _

theorem groups_ne_nil (g : Grouping) (p : Page K) : g.groups p ≠ [] := by
  cases g with
  | tag => exact namesOr_ne_nil _ _
  | folder => exact List.cons_ne_nil _ _
  | file => exact List.cons_ne_nil _ _
  | field key => exact namesOr_ne_nil _ _

theorem nodup_groups (g : Grouping) (p : Page K) : (g.groups p).Nodup := by
  cases g with
  | tag => exact nodup_namesOr _ _
  | folder => exact List.nodup_singleton _
  | file => exact List.nodup_singleton _
  | field key => exact nodup_namesOr _ _

/-- The count of notes that belong to a group. -/
def size (g : Grouping) (pages : List (Page K)) (name : String) : Nat :=
  pages.countP fun p => name ∈ g.groups p

/-- The groups of all notes, one note after another. -/
def memberships (g : Grouping) (pages : List (Page K)) : List String :=
  pages.flatMap g.groups

/-- A group is as often among the groups of all notes as there are notes in it. -/
theorem count_memberships (g : Grouping) (pages : List (Page K)) (name : String) :
    (g.memberships pages).count name = g.size pages name := by
  induction pages with
  | nil => rfl
  | cons p rest ih =>
      rw [memberships, List.flatMap_cons, List.count_append, (g.nodup_groups p).count]
      rw [memberships] at ih
      rw [ih, size, size, List.countP_cons, Nat.add_comm]
      simp

theorem counts_eq (g : Grouping) (pages : List (Page K)) :
    g.counts pages = (g.memberships pages).eraseDups.map fun name => (name, g.size pages name) := by
  rw [counts, foldl_bump]
  exact List.map_congr_left fun name _ => by rw [← count_memberships, memberships]

/-- A group stands before another if it is larger, or as large and first among the groups of all
notes. -/
def Outranks (g : Grouping) (pages : List (Page K)) (a b : String) : Prop :=
  g.size pages b < g.size pages a ∨ g.size pages b = g.size pages a ∧
    (g.memberships pages).idxOf a < (g.memberships pages).idxOf b

theorem pairwise_sorted (g : Grouping) (pages : List (Page K)) :
    (sortBy (fun a b => decide (b.2 ≤ a.2)) (g.counts pages)).Pairwise fun a b =>
      b.2 ≤ a.2 ∧ (a.2 ≤ b.2 → (g.memberships pages).idxOf a.1 < (g.memberships pages).idxOf b.1) := by
  have hFirst : (g.counts pages).Pairwise fun a b =>
      (g.memberships pages).idxOf a.1 < (g.memberships pages).idxOf b.1 := by
    rw [counts_eq, List.pairwise_map]
    exact pairwise_idxOf_eraseDups _
  have hSorted := @pairwise_sortBy_stable _ (fun a b : String × Nat => decide (b.2 ≤ a.2)) _
    (by simp only [decide_eq_false_iff_not, decide_eq_true_iff]; omega)
    (by simp only [decide_eq_true_iff]; omega) _ hFirst
  simpa only [decide_eq_true_iff] using hSorted

/-- The groups of all notes in the order in which they are ranked, each once. -/
theorem exists_ranking (g : Grouping) (pages : List (Page K)) :
    ∃ ranking : List String, ranking.Perm (g.memberships pages).eraseDups ∧
      ranking.Pairwise (g.Outranks pages) ∧
      sortBy (fun a b => decide (b.2 ≤ a.2)) (g.counts pages) =
        ranking.map fun name => (name, g.size pages name) := by
  have hPerm := sortBy_perm (fun a b => decide (b.2 ≤ a.2)) (g.counts pages)
  have hSorted := g.pairwise_sorted pages
  generalize sortBy (fun a b => decide (b.2 ≤ a.2)) (g.counts pages) = sorted at hPerm hSorted ⊢
  rw [counts_eq] at hPerm
  have hSizes : ∀ a ∈ sorted, a.2 = g.size pages a.1 := by
    intro a ha
    obtain ⟨name, -, rfl⟩ := List.mem_map.1 (hPerm.mem_iff.1 ha)
    rfl
  refine ⟨sorted.map Prod.fst, ?_, ?_, ?_⟩
  · simpa [Function.comp_def] using hPerm.map Prod.fst
  · rw [List.pairwise_map]
    refine hSorted.imp_of_mem fun {a b} ha hb hab => ?_
    rw [Outranks, ← hSizes a ha, ← hSizes b hb]
    omega
  · rw [List.map_map]
    conv_lhs => rw [← List.map_id sorted]
    exact List.map_congr_left fun a ha => Prod.ext rfl (hSizes a ha)

theorem ranked_zero (g : Grouping) (pages : List (Page K)) :
    g.ranked pages (some 0) = g.ranked pages none := rfl

theorem ranked_succ (g : Grouping) (pages : List (Page K)) (k : Nat) :
    g.ranked pages (some (k + 1)) = (g.ranked pages none).take (k + 1) :=
  List.map_take

theorem ranked_sublist (g : Grouping) (pages : List (Page K)) (limit : Option Nat) :
    (g.ranked pages limit).Sublist (g.ranked pages none) := by
  match limit with
  | none => exact .refl _
  | some 0 => exact .refl _
  | some (k + 1) =>
      rw [ranked_succ]
      exact List.take_sublist _ _

/-- Every note is in a group, and once in each of its groups. The ranked groups are different and
have the counts of their notes; they stand by size, and groups of one size in the order in which
the notes and their groups name them first. Without a limit there are all groups that a note is in,
and their sizes add up to the groups of the single notes; a limit of zero is none, and any other
keeps that many. -/
theorem ranked_by_size (g : Grouping) (pages : List (Page K)) :
    (∀ p : Page K, g.groups p ≠ [] ∧ (g.groups p).Nodup) ∧
    (∀ limit, ((g.ranked pages limit).map Amount.name).Nodup ∧
      ((g.ranked pages limit).map Amount.value =
        (g.ranked pages limit).map fun a => Number.ofNat (g.size pages a.name)) ∧
      (g.ranked pages limit).Pairwise fun a b => g.Outranks pages a.name b.name) ∧
    (∀ name, name ∈ (g.ranked pages none).map Amount.name ↔ ∃ p ∈ pages, name ∈ g.groups p) ∧
    ((g.ranked pages none).map fun a => g.size pages a.name).sum =
      (pages.map fun p => (g.groups p).length).sum ∧
    g.ranked pages (some 0) = g.ranked pages none ∧
    ∀ k, g.ranked pages (some (k + 1)) = (g.ranked pages none).take (k + 1) := by
  obtain ⟨ranking, hPerm, hOrder, hSorted⟩ := g.exists_ranking pages
  have hAll : g.ranked pages none =
      ranking.map fun name => ⟨name, Number.ofNat (g.size pages name)⟩ := by
    simp only [ranked, hSorted, List.map_map, Function.comp_def]
  have hNames : (g.ranked pages none).map Amount.name = ranking := by
    simp [hAll, Function.comp_def]
  have hValues : ∀ a ∈ g.ranked pages none, a.value = Number.ofNat (g.size pages a.name) := by
    simp [hAll]
  have hNodup : ranking.Nodup := hPerm.nodup_iff.2 (Text.nodup_eraseDups _)
  refine ⟨fun p => ⟨g.groups_ne_nil p, g.nodup_groups p⟩, fun limit => ⟨?_, ?_, ?_⟩, ?_, ?_,
    g.ranked_zero pages, g.ranked_succ pages⟩
  · exact (hNames ▸ hNodup).sublist ((g.ranked_sublist pages limit).map _)
  · exact List.map_congr_left fun a ha => hValues a ((g.ranked_sublist pages limit).subset ha)
  · have hRanked : (g.ranked pages none).Pairwise fun a b => g.Outranks pages a.name b.name := by
      rwa [← List.pairwise_map, hNames]
    exact hRanked.sublist (g.ranked_sublist pages limit)
  · intro name
    rw [hNames, hPerm.mem_iff, List.mem_eraseDups, memberships, List.mem_flatMap]
  · have hSizes : (g.ranked pages none).map (fun a => g.size pages a.name) =
        ranking.map (g.memberships pages).count := by
      simp [hAll, Function.comp_def, count_memberships]
    rw [hSizes, (hPerm.map _).sum_eq, sum_map_count_eraseDups, memberships, List.length_flatMap]

/-- A note with two tags, one of them written twice, another with the first of them, and one
without. -/
example :
    let pages : List (Page Exact) := [⟨"a.md", "a", ["#b", "a", "#a"], none, none, none⟩,
      ⟨"b.md", "b", ["a"], none, none, none⟩, ⟨"c.md", "c", [" "], none, none, none⟩]
    (tag.ranked pages none).map (fun a => (a.name, a.value)) =
      [("a", 2), ("b", 1), ("(untagged)", 1)] := by
  decide +kernel

end Grouping
end NoteBoard
