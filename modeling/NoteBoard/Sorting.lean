/-!
Sorting by insertion. It is stable: items that may stand in either order keep the order they have.
Main statements: the sorted list holds the same items, and with a total and transitive order every
item may stand before those after it, and stood before those that it may also stand after.
-/

namespace NoteBoard

variable {α : Type}

/-- Inserts into a sorted list, in front of the first item that `a` may stand before. -/
def insertBy (before : α → α → Bool) (a : α) : List α → List α
  | [] => [a]
  | b :: rest => if before a b then a :: b :: rest else b :: insertBy before a rest

/-- The items in order. -/
def sortBy (before : α → α → Bool) (items : List α) : List α :=
  items.foldr (insertBy before) []

theorem insertBy_perm (before : α → α → Bool) (a : α) (items : List α) :
    (insertBy before a items).Perm (a :: items) := by
  induction items with
  | nil => exact .refl _
  | cons b rest ih =>
    simp only [insertBy]
    split
    · exact .refl _
    · exact (ih.cons b).trans (.swap a b rest)

theorem sortBy_perm (before : α → α → Bool) (items : List α) :
    (sortBy before items).Perm items := by
  induction items with
  | nil => exact .refl _
  | cons a rest ih => exact (insertBy_perm before a _).trans (ih.cons a)

section Stable

variable {before : α → α → Bool} {R : α → α → Prop}

/-- Items that may stand in either order stand as they stood before they were sorted. -/
theorem pairwise_insertBy_stable (total : ∀ a b, before a b = false → before b a = true)
    (trans : ∀ a b c, before a b = true → before b c = true → before a c = true)
    {a : α} {items : List α} (ha : ∀ b ∈ items, R a b)
    (h : items.Pairwise fun b c => before b c = true ∧ (before c b = true → R b c)) :
    (insertBy before a items).Pairwise fun b c =>
      before b c = true ∧ (before c b = true → R b c) := by
  induction items with
  | nil => exact .cons nofun .nil
  | cons b rest ih =>
    obtain ⟨hFirst, hRest⟩ := List.pairwise_cons.1 h
    simp only [insertBy]
    split
    · next hab =>
      refine .cons (fun c hc => ⟨?_, fun _ => ha c hc⟩) h
      rcases List.mem_cons.1 hc with rfl | hc
      · exact hab
      · exact trans a b c hab (hFirst c hc).1
    · next hab =>
      refine .cons (fun c hc => ?_) (ih (fun c hc => ha c (List.mem_cons_of_mem b hc)) hRest)
      rcases List.mem_cons.1 ((insertBy_perm before a rest).mem_iff.1 hc) with rfl | hc
      · exact ⟨total c b (Bool.eq_false_iff.2 hab), fun hBoth => absurd hBoth hab⟩
      · exact hFirst c hc

theorem pairwise_sortBy_stable (total : ∀ a b, before a b = false → before b a = true)
    (trans : ∀ a b c, before a b = true → before b c = true → before a c = true)
    {items : List α} (h : items.Pairwise R) :
    (sortBy before items).Pairwise fun a b =>
      before a b = true ∧ (before b a = true → R a b) := by
  induction items with
  | nil => exact .nil
  | cons a rest ih =>
    obtain ⟨hFirst, hRest⟩ := List.pairwise_cons.1 h
    refine pairwise_insertBy_stable total trans (fun b hb => ?_) (ih hRest)
    exact hFirst b ((sortBy_perm before rest).mem_iff.1 hb)

end Stable

end NoteBoard
