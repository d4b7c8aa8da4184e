import NoteBoard.Proofs.Filter.Meaning

/-! One query for several filters. Their queries are put in parentheses where OR would take them
apart, so that together they take what any of them takes. -/
namespace NoteBoard
namespace Filter

open Query

/-- A rule without a key or without values writes no clause. -/
theorem rulePart_eq_none {r : FieldRule} (h : r.isComplete = false) : rulePart r = none := by
  unfold rulePart
  split
  · rfl
  · next hName =>
    have hWanted : r.wanted = [] := by
      simpa [FieldRule.isComplete, hName] using h
    rw [hWanted]
    rfl

/-- Without complete rules all of a query is sent to a provider. -/
theorem query_eq_source {f : Filter} (h : f.hasCompleteRule = false) :
    f.compile.query = f.compile.source := by
  have hNone : f.rules.filterMap rulePart = [] := by
    rw [List.filterMap_eq_nil_iff]
    intro r hr
    exact rulePart_eq_none (by simpa using List.any_eq_false.1 h r hr)
  simp only [compile, rulesPart, hNone, Option.toList_none, List.append_nil]

/-- Several queries that are not empty are joined by OR. -/
theorem compileAny_eq_joined {first second : Filter} {rest : List Filter}
    (hNone : ((first :: second :: rest).map fun f => f.compile.query).any String.isEmpty = false) :
    compileAny (first :: second :: rest) = String.ofList (joined " OR "
      ((first :: second :: rest).map fun f => asOperand f.compile.query.toList)) := by
  simp only [compileAny, hNone]
  simp only [List.map_cons, List.map_map, Function.comp_def, if_false, Bool.false_eq_true]

section Union

variable {fs : List Filter} (hRules : ∀ f ∈ fs, f.hasCompleteRule = false)
  (hPlain : ∀ f ∈ fs, ∀ tag ∈ f.tagNames, ∀ c ∈ tag.toList, Token.endsWord c = false)

include hRules hPlain

/-- A filter with an empty query takes everything, and so do all of them together. -/
theorem exists_takesAll (hEmpty : (fs.map fun f => f.compile.query).any String.isEmpty = true) :
    compileAny fs = "" ∧ ∃ f ∈ fs, f.sourceTree = .all := by
  refine ⟨by simp only [compileAny, hEmpty, if_true], ?_⟩
  rw [List.any_map, List.any_eq_true] at hEmpty
  obtain ⟨f, hf, hQuery⟩ := hEmpty
  have hSource : f.compile.source = "" := by
    rw [← query_eq_source (hRules f hf)]
    simpa using hQuery
  have hText := ofText_source_of_plain (hPlain f hf)
  rw [hSource, Tree.ofText_empty] at hText
  exact ⟨f, hf, (Except.ok.inj hText).symm⟩

/-- A query that is not empty stands as an operand of OR, in parentheses if it must. -/
theorem denotesOperand_query
    (hNone : (fs.map fun f => f.compile.query).any String.isEmpty = false) :
    ∀ f ∈ fs, Tree.DenotesOperand (asOperand f.compile.query.toList) f.sourceTree := by
  intro f hf
  rw [query_eq_source (hRules f hf)]
  rcases source_cases (hPlain f hf) with ⟨hEmpty, -⟩ | ⟨-, hOperand⟩
  · rw [List.any_map, List.any_eq_false] at hNone
    have hQuery := hNone f hf
    simp [query_eq_source (hRules f hf), hEmpty] at hQuery
  · exact hOperand

/-- The query of several filters is read as a tree that takes what any of their trees takes. -/
theorem exists_ofText_compileAny (hSome : fs ≠ []) : ∃ e, Tree.ofText (compileAny fs) = .ok e ∧
    ∀ tags path, e.takes tags path = fs.any fun f => f.sourceTree.takes tags path := by
  cases hEmpty : (fs.map fun f => f.compile.query).any String.isEmpty with
  | true =>
      obtain ⟨hQuery, f, hf, hAll⟩ := exists_takesAll hRules hPlain hEmpty
      refine ⟨.all, by rw [hQuery, Tree.ofText_empty], fun tags path => ?_⟩
      have hTakes : (fs.any fun f => f.sourceTree.takes tags path) = true :=
        List.any_eq_true.2 ⟨f, hf, by rw [hAll]; rfl⟩
      rw [hTakes]
      rfl
  | false =>
      rcases fs with _ | ⟨first, _ | ⟨second, rest⟩⟩
      · exact absurd rfl hSome
      · have hFirst : first ∈ [first] := List.mem_cons_self
        have hQuery : compileAny [first] = first.compile.source := by
          simp only [compileAny, hEmpty, ← query_eq_source (hRules first hFirst)]
          rfl
        refine ⟨first.sourceTree, ?_, fun tags path => by simp⟩
        rw [hQuery, ofText_source_of_plain (hPlain first hFirst)]
      · obtain ⟨hFirst, hRest⟩ :=
          List.forall_mem_cons.1 (denotesOperand_query hRules hPlain hEmpty)
        refine ⟨((second :: rest).map sourceTree).foldl .or first.sourceTree, ?_,
          fun tags path => ?_⟩
        · rw [compileAny_eq_joined hEmpty, List.map_cons]
          exact (denotes_joined hFirst.denotes hRest).ofText
        · rw [Tree.takes_foldl_or, List.any_cons, List.any_map, List.any_cons]
          rfl

end Union

/-- The query of several filters without complete rules, whose tags could be words of a text,
selects what any of their own queries selects, neither more nor less. -/
theorem compileAny_takes_iff {fs : List Filter} (hSome : fs ≠ [])
    (hRules : ∀ f ∈ fs, f.hasCompleteRule = false)
    (hPlain : ∀ f ∈ fs, ∀ tag ∈ f.tagNames, ∀ c ∈ tag.toList,
      Text.isBlank c = false ∧ c ≠ '(' ∧ c ≠ ')' ∧ c ≠ '"') :
    ∃ e, Tree.ofText (compileAny fs) = .ok e ∧ ∀ tags path, e.takes tags path = true ↔
      ∃ f ∈ fs, ∃ own, Tree.ofText f.compile.source = .ok own ∧ own.takes tags path = true := by
  have hWords : ∀ f ∈ fs, ∀ tag ∈ f.tagNames, ∀ c ∈ tag.toList, Token.endsWord c = false := by
    intro f hf tag hTag c hc
    simpa [Token.endsWord, and_assoc] using hPlain f hf tag hTag c hc
  obtain ⟨e, hText, hTakes⟩ := exists_ofText_compileAny hRules hWords hSome
  refine ⟨e, hText, fun tags path => ?_⟩
  rw [hTakes, List.any_eq_true]
  constructor
  · rintro ⟨f, hf, hOwn⟩
    exact ⟨f, hf, f.sourceTree, ofText_source_of_plain (hWords f hf), hOwn⟩
  · rintro ⟨f, hf, own, hOwnText, hOwn⟩
    rw [ofText_source_of_plain (hWords f hf)] at hOwnText
    exact ⟨f, hf, Except.ok.inj hOwnText ▸ hOwn⟩

/-- Tags with folders that have an operator, a quote or parentheses in their names, tags alone, and
a folder alone. -/
def searches : List Filter :=
  [⟨"work, home", "Plans (old), \"x\" OR y", []⟩, ⟨"#a, b/c", "", [⟨"status", " "⟩]⟩,
    ⟨"", "AND", []⟩]

theorem searches_take : searches ≠ [] ∧ (∀ f ∈ searches, f.hasCompleteRule = false) ∧
    (∀ f ∈ searches, ∀ tag ∈ f.tagNames, ∀ c ∈ tag.toList,
      Text.isBlank c = false ∧ c ≠ '(' ∧ c ≠ ')' ∧ c ≠ '"') ∧
    ∃ e, Tree.ofText (compileAny searches) = .ok e ∧
      (e.takes ["home"] "Plans (old)/a.md" = true ∧ e.takes ["home"] "b.md" = false ∧
        e.takes ["B/c/d"] "b.md" = true) ∧
      ∀ tags path, e.takes tags path = true ↔ ∃ f ∈ searches, ∃ own,
        Tree.ofText f.compile.source = .ok own ∧ own.takes tags path = true := by
  have hSome : searches ≠ [] := by decide
  have hRules : ∀ f ∈ searches, f.hasCompleteRule = false := by decide +kernel
  have hNames : searches.map tagNames = [["work", "home"], ["a", "b/c"], []] := by decide +kernel
  have hChars : ∀ tags ∈ [["work", "home"], ["a", "b/c"], []], ∀ tag ∈ tags, ∀ c ∈ tag.toList,
      Text.isBlank c = false ∧ c ≠ '(' ∧ c ≠ ')' ∧ c ≠ '"' := by simp [Text.isBlank]
  have hPlain : ∀ f ∈ searches, ∀ tag ∈ f.tagNames, ∀ c ∈ tag.toList,
      Text.isBlank c = false ∧ c ≠ '(' ∧ c ≠ ')' ∧ c ≠ '"' :=
    fun f hf => hChars f.tagNames (hNames ▸ List.mem_map_of_mem hf)
  obtain ⟨e, hText, hTakes⟩ := compileAny_takes_iff hSome hRules hPlain
  have hRun : (Tree.ofText (compileAny searches)).toOption.map (fun e =>
      (e.takes ["home"] "Plans (old)/a.md", e.takes ["home"] "b.md",
        e.takes ["B/c/d"] "b.md")) = some (true, false, true) := by decide +kernel
  rw [hText] at hRun
  exact ⟨hSome, hRules, hPlain, e, hText, by simpa [Except.toOption] using hRun, hTakes⟩

/-- Folders and tags together are in parentheses before OR; a single folder or list of tags is not
put in further ones. -/
example : compileAny searches =
    "((\"Plans (old)\" OR \"x\\\" OR y\") AND (#work OR #home)) OR (#a OR #b/c) OR \"AND\"" := by
  decide +kernel

end Filter
end NoteBoard
