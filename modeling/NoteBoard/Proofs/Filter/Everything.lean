import NoteBoard.Proofs.Filter.Union

/-! Filters that take everything. Whether a filter asks for something is decided by its lists, by
its clauses and by its condition, each on its own, and they agree: a query is empty exactly if
nothing is asked for, so that blank entries never make a filter take everything or nothing. -/
namespace NoteBoard

/-- Only the empty condition is met by every note, with and without fields. -/
theorem Condition.forall_holds_iff (K : Type) [Numeral K] {c : Condition} :
    (∀ fields : Option (Frontmatter K), c.holds fields = true) ↔ c = [] := by
  constructor
  · intro hAll
    simpa [Condition.holds] using hAll none
  · rintro rfl fields
    rfl

namespace Filter

theorem joined_ne_nil {word : String} {parts : List (List Char)} (hSome : parts ≠ [])
    (hParts : ∀ part ∈ parts, part ≠ []) : joined word parts ≠ [] := by
  rcases parts with _ | ⟨first, _ | ⟨second, rest⟩⟩
  · exact absurd rfl hSome
  · simpa [joined] using hParts
  · rw [joined_cons]
    intro hEmpty
    exact hParts first List.mem_cons_self (List.append_eq_nil_iff.1 hEmpty).1

theorem asOperand_ne_nil {clause : List Char} (h : clause ≠ []) : asOperand clause ≠ [] := by
  unfold asOperand
  split
  · exact List.cons_ne_nil _ _
  · exact h

/-- A part of a query is written exactly if something is asked for, and then it is not empty. -/
structure IsWritten (part : Option (List Char)) (asked : Prop) : Prop where
  eq_none_iff : part = none ↔ ¬asked
  ne_nil : ∀ clause ∈ part, clause ≠ []

/-- Alternatives are written if there are any. -/
theorem isWritten_alternatives {parts : List (List Char)} (hParts : ∀ part ∈ parts, part ≠ []) :
    IsWritten (alternatives parts) (parts ≠ []) := by
  rcases parts with _ | ⟨first, _ | ⟨second, rest⟩⟩
  · exact ⟨by simp [alternatives], by simp [alternatives]⟩
  · exact ⟨by simp [alternatives], by simpa [alternatives] using hParts⟩
  · exact ⟨by simp [alternatives], by simp [alternatives]⟩

/-- Clauses that are not empty make an empty text only if there are none. -/
theorem conjunction_eq_nil_iff {clauses : List (List Char)}
    (hClauses : ∀ clause ∈ clauses, clause ≠ []) : conjunction clauses = [] ↔ clauses = [] := by
  rcases clauses with _ | ⟨first, _ | ⟨second, rest⟩⟩
  · exact iff_of_true rfl rfl
  · exact iff_of_false (hClauses first List.mem_cons_self) (List.cons_ne_nil _ _)
  · refine iff_of_false (joined_ne_nil (List.cons_ne_nil _ _) ?_) (List.cons_ne_nil _ _)
    intro operand hOperand
    obtain ⟨clause, hClause, rfl⟩ := List.mem_map.1 hOperand
    exact asOperand_ne_nil (hClauses clause hClause)

theorem isWritten_tagPart (f : Filter) : IsWritten f.tagPart (f.tagNames ≠ []) := by
  have hParts : ∀ part ∈ f.tagNames.map (fun tag => '#' :: tag.toList), part ≠ [] :=
    List.forall_mem_map.2 fun _ _ => List.cons_ne_nil _ _
  have hTags := isWritten_alternatives hParts
  rwa [Ne, List.map_eq_nil_iff] at hTags

theorem isWritten_folderPart (f : Filter) : IsWritten f.folderPart (f.folderNames ≠ []) := by
  have hParts : ∀ part ∈ f.folderNames.map (fun folder => literal folder.toList), part ≠ [] :=
    List.forall_mem_map.2 fun _ _ => List.cons_ne_nil _ _
  have hFolders := isWritten_alternatives hParts
  rwa [Ne, List.map_eq_nil_iff] at hFolders

theorem isWritten_rulePart (r : FieldRule) : IsWritten (rulePart r) (r.isComplete = true) := by
  cases hComplete : r.isComplete with
  | false => exact ⟨by simp [rulePart_eq_none hComplete], by simp [rulePart_eq_none hComplete]⟩
  | true =>
      have hBoth : r.name.isEmpty = false ∧ r.wanted ≠ [] := by
        simpa [FieldRule.isComplete] using hComplete
      have hParts : ∀ part ∈ r.wanted.map (fun value =>
          "contains(".toList ++ r.name.toList ++ ", ".toList ++ literal value.toList ++ [')']),
          part ≠ [] := List.forall_mem_map.2 fun _ _ => by simp
      have hValues := isWritten_alternatives hParts
      rw [Ne, List.map_eq_nil_iff] at hValues
      simpa [rulePart, hBoth] using hValues

theorem isWritten_rulesPart (f : Filter) : IsWritten f.rulesPart (f.hasCompleteRule = true) := by
  have hClauses : ∀ clause ∈ f.rules.filterMap rulePart, clause ≠ [] := by
    intro clause hClause
    obtain ⟨r, -, hPart⟩ := List.mem_filterMap.1 hClause
    exact (isWritten_rulePart r).ne_nil clause hPart
  have hNone : f.rules.filterMap rulePart = [] ↔ ¬f.hasCompleteRule = true := by
    simp [List.filterMap_eq_nil_iff, (isWritten_rulePart _).eq_none_iff, hasCompleteRule]
  rw [rulesPart.eq_def]
  split
  · next hEmpty => exact ⟨by simpa using hNone.1 hEmpty, by simp⟩
  · next hSome =>
    refine ⟨by simpa using mt hNone.2 hSome, ?_⟩
    rintro _ ⟨⟩
    exact joined_ne_nil hSome hClauses

theorem source_eq_empty_iff (f : Filter) :
    f.compile.source = "" ↔ f.folderNames = [] ∧ f.tagNames = [] := by
  have hFolders := f.isWritten_folderPart
  have hTags := f.isWritten_tagPart
  have hClauses : ∀ clause ∈ f.folderPart.toList ++ f.tagPart.toList, clause ≠ [] := by
    simp only [List.mem_append, Option.mem_toList]
    rintro clause (h | h)
    · exact hFolders.ne_nil clause h
    · exact hTags.ne_nil clause h
  rw [compile, String.ofList_eq_empty_iff, conjunction_eq_nil_iff hClauses]
  simp [hFolders.eq_none_iff, hTags.eq_none_iff]

theorem query_eq_empty_iff (f : Filter) : f.compile.query = "" ↔ f.takesAll = true := by
  have hFolders := f.isWritten_folderPart
  have hTags := f.isWritten_tagPart
  have hRules := f.isWritten_rulesPart
  have hClauses : ∀ clause ∈ f.folderPart.toList ++ f.tagPart.toList ++ f.rulesPart.toList,
      clause ≠ [] := by
    simp only [List.mem_append, Option.mem_toList]
    rintro clause ((h | h) | h)
    · exact hFolders.ne_nil clause h
    · exact hTags.ne_nil clause h
    · exact hRules.ne_nil clause h
  rw [compile, String.ofList_eq_empty_iff, conjunction_eq_nil_iff hClauses]
  simp [hFolders.eq_none_iff, hTags.eq_none_iff, hRules.eq_none_iff, takesAll, and_assoc,
    and_left_comm]

theorem condition_eq_nil_iff (f : Filter) :
    f.compile.condition = [] ↔ f.hasCompleteRule = false := by
  rw [← List.isEmpty_iff, compile, isEmpty_ofRules]
  simp

theorem compileAny_eq_empty_iff (fs : List Filter) :
    compileAny fs = "" ↔ fs = [] ∨ ∃ f ∈ fs, f.takesAll = true := by
  have hAny : (fs.map fun f => f.compile.query).any String.isEmpty = true ↔
      ∃ f ∈ fs, f.takesAll = true := by
    simp [query_eq_empty_iff]
  rw [← hAny]
  cases hEmpty : (fs.map fun f => f.compile.query).any String.isEmpty with
  | true => simp [compileAny, hEmpty]
  | false =>
      have hQueries : ∀ f ∈ fs, f.compile.query.toList ≠ [] := by
        simpa using List.any_eq_false.1 hEmpty
      rcases fs with _ | ⟨first, _ | ⟨second, rest⟩⟩
      · exact iff_of_true rfl (.inl rfl)
      · have hFirst := hQueries first List.mem_cons_self
        simpa [compileAny, hEmpty] using hFirst
      · have hJoined : joined " OR " ((first :: second :: rest).map fun f =>
            asOperand f.compile.query.toList) ≠ [] := by
          refine joined_ne_nil (List.cons_ne_nil _ _) (List.forall_mem_map.2 fun f hf => ?_)
          exact asOperand_ne_nil (hQueries f hf)
        rw [compileAny_eq_joined hEmpty, String.ofList_eq_empty_iff]
        exact iff_of_false hJoined (by simp)

/-- The query of a filter is empty exactly if the filter takes everything, which is the case exactly
if neither a provider is asked for something nor a condition is left; there is a condition exactly
if a rule is complete, and without one every note passes. The query of several filters is empty
exactly if there are none or one of them takes everything. -/
theorem compile_everything (K : Type) [Numeral K] (f : Filter) (fs : List Filter) :
    (f.compile.query = "" ↔ f.takesAll = true) ∧
      (f.takesAll = true ↔ f.compile.source = "" ∧ f.compile.condition = []) ∧
      (f.compile.condition = [] ↔ f.hasCompleteRule = false) ∧
      (f.takesAll = true →
        ∀ fields : Option (Frontmatter K), f.compile.condition.holds fields = true) ∧
      (compileAny fs = "" ↔ fs = [] ∨ ∃ f ∈ fs, f.takesAll = true) := by
  have hParts : f.takesAll = true ↔ f.compile.source = "" ∧ f.compile.condition = [] := by
    rw [source_eq_empty_iff, condition_eq_nil_iff]
    simp [takesAll, and_comm]
  refine ⟨f.query_eq_empty_iff, hParts, f.condition_eq_nil_iff, ?_, compileAny_eq_empty_iff fs⟩
  intro hAll
  exact (Condition.forall_holds_iff K).2 (hParts.1 hAll).2

/-- Entries of blanks, hashes and quotes, a rule without a key and one without values. -/
example : (⟨" #, ##,", "\"\", \" \"", [⟨" ", "done"⟩, ⟨"status", " , "⟩]⟩ : Filter).compile.query =
    "" := by
  decide +kernel

end Filter
end NoteBoard
