import NoteBoard.Filter.Compile
import NoteBoard.Proofs.Query.Tree

/-! The query text of a filter, read back: folders always come out as they were put in, and tags do
when they could be words of a text. -/
namespace NoteBoard

/-- The trees with OR between them, grouped to the left. -/
def Query.Tree.anyOf : List Query.Tree → Option Query.Tree
  | [] => none
  | e :: rest => some (rest.foldl .or e)

namespace Filter

open Query

theorem escapeQuotes_cons (c : Char) (rest : List Char) :
    escapeQuotes (c :: rest) =
      (if c = '\\' ∨ c = '"' then ['\\', c] else [c]) ++ escapeQuotes rest :=
  List.flatMap_cons

/-- Inside quotes an escaped text is read as the text itself. -/
theorem scan_escapeQuotes (text read : List Char) (tokens : List Token) :
    Token.scan ⟨.quoted read, tokens⟩ (escapeQuotes text) =
      .ok ⟨.quoted (text.reverse ++ read), tokens⟩ := by
  induction text generalizing read with
  | nil => rfl
  | cons c rest ih =>
      have hNext : Token.scan ⟨.quoted read, tokens⟩
          (if c = '\\' ∨ c = '"' then ['\\', c] else [c]) = .ok ⟨.quoted (c :: read), tokens⟩ := by
        by_cases hEscaped : c = '\\' ∨ c = '"'
        · rw [if_pos hEscaped]
          rfl
        · rw [if_neg hEscaped]
          rw [not_or] at hEscaped
          have hStep : Token.step ⟨.quoted read, tokens⟩ c = .ok ⟨.quoted (c :: read), tokens⟩ := by
            simp [Token.step, hEscaped]
          rw [Token.scan_cons hStep, Token.scan_nil]
      rw [escapeQuotes_cons, Token.scan_append hNext, ih, List.reverse_cons, List.append_assoc,
        List.singleton_append]

/-- A text in quotes is read as a folder, whatever characters it has. -/
theorem reads_literal (text : List Char) :
    Token.Reads (literal text) [.folder (String.ofList text)] := by
  intro tokens
  have hQuote : Token.step ⟨.gap, tokens⟩ '"' = .ok ⟨.quoted [], tokens⟩ := rfl
  have hEnd : Token.step ⟨.quoted text.reverse, tokens⟩ '"' =
      .ok ⟨.gap, .folder (String.ofList text) :: tokens⟩ := by
    simp [Token.step]
  have hText := scan_escapeQuotes text [] tokens
  rw [List.append_nil] at hText
  refine ⟨_, ?_, Token.rests_gap _⟩
  rw [literal, List.cons_append, Token.scan_cons hQuote, Token.scan_append hText,
    Token.scan_cons hEnd, Token.scan_nil]
  rfl

/-- A text that has no white space outside quotes and parentheses, and leaves none open. -/
def IsCompact (text : List Char) : Prop :=
  ∀ depth : Int, 0 ≤ depth → ∀ rest,
    isSpread depth false false (text ++ rest) = isSpread depth false false rest

theorem isSpread_escapeQuotes (depth : Int) (text rest : List Char) :
    isSpread depth true false (escapeQuotes text ++ rest) = isSpread depth true false rest := by
  induction text with
  | nil => rfl
  | cons c text ih =>
      rw [escapeQuotes_cons]
      by_cases hEscaped : c = '\\' ∨ c = '"'
      · rw [if_pos hEscaped]
        simpa [isSpread] using ih
      · rw [if_neg hEscaped]
        rw [not_or] at hEscaped
        simpa [isSpread, hEscaped] using ih

theorem isCompact_literal (text : List Char) : IsCompact (literal text) := by
  intro depth _ rest
  have hInside := isSpread_escapeQuotes depth text ('"' :: rest)
  simpa [literal, isSpread] using hInside

theorem isCompact_of_plain {text : List Char} (h : ∀ c ∈ text, Token.endsWord c = false) :
    IsCompact text := by
  intro depth _ rest
  induction text with
  | nil => rfl
  | cons c text ih =>
      obtain ⟨hFirst, hRest⟩ := List.forall_mem_cons.1 h
      simp only [Token.endsWord, Bool.or_eq_false_iff, beq_eq_false_iff_ne] at hFirst
      obtain ⟨⟨⟨hBlank, hOpening⟩, hClosing⟩, hQuote⟩ := hFirst
      rw [List.cons_append, isSpread]
      simpa [hBlank, hOpening, hClosing, hQuote] using ih hRest

/-- In parentheses a text is compact if it would be but for its white space. -/
theorem isCompact_parenthesized {text : List Char} (h : ∀ depth : Int, 0 < depth → ∀ rest,
    isSpread depth false false (text ++ rest) = isSpread depth false false rest) :
    IsCompact ('(' :: text ++ [')']) := by
  intro depth hDepth rest
  have hOpening (rest : List Char) :
      isSpread depth false false ('(' :: rest) = isSpread (depth + 1) false false rest := by
    simp [isSpread]
  have hClosing (rest : List Char) :
      isSpread (depth + 1) false false (')' :: rest) = isSpread depth false false rest := by
    simp [isSpread]
  rw [List.cons_append, List.cons_append, hOpening, List.append_assoc, h (depth + 1) (by omega),
    List.singleton_append, hClosing]

theorem asOperand_of_isCompact {text : List Char} (h : IsCompact text) : asOperand text = text := by
  have hSpread := h 0 (Int.le_refl 0) []
  rw [List.append_nil] at hSpread
  rw [asOperand, hSpread]
  rfl

/-- A text that stands as an operand of AND as it is. -/
structure IsClause (text : List Char) (e : Tree) : Prop where
  denotes : Tree.DenotesOperand text e
  compact : IsCompact text

section Alternatives

variable {α : Type} {part : α → List Char} {leaf : α → Tree}

theorem joined_append (word : String) (first second : List Char) (rest : List (List Char)) :
    joined word ((first ++ second) :: rest) = first ++ joined word (second :: rest) := by
  cases rest with
  | nil => simp [joined]
  | cons third rest => simp [joined]

theorem joined_cons (word : String) (first second : List Char) (rest : List (List Char)) :
    joined word (first :: second :: rest) =
      first ++ (word.toList ++ joined word (second :: rest)) := by
  simp [joined]

theorem denotes_joined {first : List Char} {e : Tree} (hFirst : Tree.Denotes first e)
    {items : List α} (hItems : ∀ a ∈ items, Tree.DenotesOperand (part a) (leaf a)) :
    Tree.Denotes (joined " OR " (first :: items.map part)) ((items.map leaf).foldl .or e) := by
  induction items generalizing first e with
  | nil => simpa [joined] using hFirst
  | cons a rest ih =>
      obtain ⟨hNext, hRest⟩ := List.forall_mem_cons.1 hItems
      have hBoth := ih (hFirst.or hNext) hRest
      rwa [joined_append, joined_append, ← joined_cons, ← List.map_cons] at hBoth

/-- Inside parentheses the spaces around OR do not count. -/
theorem isSpread_joined {depth : Int} (hDepth : 0 < depth) (first : α) (items : List α)
    (hItems : ∀ a ∈ first :: items, IsClause (part a) (leaf a)) (rest : List Char) :
    isSpread depth false false (joined " OR " ((first :: items).map part) ++ rest) =
      isSpread depth false false rest := by
  have hInside : depth ≠ 0 := by omega
  induction items generalizing first with
  | nil =>
      have hFirst := (hItems first List.mem_cons_self).compact depth (Int.le_of_lt hDepth) rest
      simpa [joined] using hFirst
  | cons second items ih =>
      obtain ⟨hFirst, hRest⟩ := List.forall_mem_cons.1 hItems
      have hOr (text : List Char) : isSpread depth false false (" OR ".toList ++ text) =
          isSpread depth false false text := by
        simp [isSpread, hInside]
      rw [List.map_cons, List.map_cons, joined_cons, List.append_assoc, List.append_assoc,
        hFirst.compact depth (Int.le_of_lt hDepth), hOr, ← List.map_cons, ih second hRest]

/-- Alternatives are a clause of their trees, if there are any. -/
theorem alternatives_isClause {items : List α}
    (hItems : ∀ a ∈ items, IsClause (part a) (leaf a)) :
    Option.Rel IsClause (alternatives (items.map part)) (Tree.anyOf (items.map leaf)) := by
  rcases items with _ | ⟨first, _ | ⟨second, rest⟩⟩
  · exact .none
  · exact .some (hItems first List.mem_cons_self)
  · obtain ⟨hFirst, hRest⟩ := List.forall_mem_cons.1 hItems
    have hJoined := denotes_joined hFirst.denotes.denotes fun a ha => (hRest a ha).denotes
    refine .some ⟨hJoined.parenthesized, ?_⟩
    apply isCompact_parenthesized
    intro depth hDepth
    exact isSpread_joined hDepth first (second :: rest) hItems

end Alternatives

/-- Two clauses that must both hold stand in parentheses as an operand of OR. -/
theorem asOperand_and {first second : List Char} (hFirst : IsCompact first) :
    asOperand (first ++ (" AND ".toList ++ second)) =
      '(' :: (first ++ (" AND ".toList ++ second)) ++ [')'] := by
  have hSpread : isSpread 0 false false (first ++ (" AND ".toList ++ second)) = true := by
    rw [hFirst 0 (Int.le_refl 0)]
    rfl
  rw [asOperand, if_pos hSpread]

/-- The tree that the text of a filter is meant for: any of the folders and any of the tags. -/
def sourceTree (f : Filter) : Tree :=
  match Tree.anyOf (f.folderNames.map .folder),
      Tree.anyOf (f.tagNames.map fun tag => .tag ("#" ++ tag)) with
  | none, none => .all
  | some folders, none => folders
  | none, some tags => tags
  | some folders, some tags => .and folders tags

theorem folder_isClause (folder : String) : IsClause (literal folder.toList) (.folder folder) := by
  have hReads := reads_literal folder.toList
  rw [String.ofList_toList] at hReads
  exact ⟨⟨_, hReads, Tree.isOperand_folder folder⟩, isCompact_literal folder.toList⟩

theorem tag_isClause {tag : String} (hTag : tag.toList ≠ [])
    (hPlain : ∀ c ∈ tag.toList, Token.endsWord c = false) :
    IsClause ('#' :: tag.toList) (.tag ("#" ++ tag)) := by
  have hText : String.ofList ('#' :: tag.toList) = "#" ++ tag := by
    rw [← String.toList_inj, String.toList_ofList, String.toList_append]
    rfl
  have hReads := Token.reads_tag hTag hPlain
  rw [hText] at hReads
  refine ⟨⟨_, hReads, Tree.isOperand_tag _⟩, isCompact_of_plain ?_⟩
  exact List.forall_mem_cons.2 ⟨by decide, hPlain⟩

theorem toList_ne_nil_of_mem_tagNames {f : Filter} {tag : String} (h : tag ∈ f.tagNames) :
    tag.toList ≠ [] := by
  rw [tagNames, List.mem_eraseDups, Text.entriesWith, List.mem_map] at h
  obtain ⟨piece, hPiece, rfl⟩ := h
  rw [String.toList_ofList]
  simpa using (List.mem_filter.1 hPiece).2

/-- The part of a query that is sent to a provider is empty, or says what the filter asks for on
its own and as an operand. -/
theorem source_cases {f : Filter}
    (hPlain : ∀ tag ∈ f.tagNames, ∀ c ∈ tag.toList, Token.endsWord c = false) :
    f.compile.source = "" ∧ f.sourceTree = .all ∨
      Tree.Denotes f.compile.source.toList f.sourceTree ∧
        Tree.DenotesOperand (asOperand f.compile.source.toList) f.sourceTree := by
  have hFolders : Option.Rel IsClause f.folderPart (Tree.anyOf (f.folderNames.map .folder)) :=
    alternatives_isClause fun folder _ => folder_isClause folder
  have hTags : Option.Rel IsClause f.tagPart
      (Tree.anyOf (f.tagNames.map fun tag => .tag ("#" ++ tag))) :=
    alternatives_isClause fun tag hTag =>
      tag_isClause (toList_ne_nil_of_mem_tagNames hTag) (hPlain tag hTag)
  have hOne {clause : List Char} {e : Tree} (h : IsClause clause e) :
      Tree.Denotes (String.ofList clause).toList e ∧
        Tree.DenotesOperand (asOperand (String.ofList clause).toList) e := by
    rw [String.toList_ofList, asOperand_of_isCompact h.compact]
    exact ⟨h.denotes.denotes, h.denotes⟩
  rw [sourceTree, compile]
  generalize Tree.anyOf (f.folderNames.map .folder) = folders at *
  generalize Tree.anyOf (f.tagNames.map fun tag => .tag ("#" ++ tag)) = tags at *
  generalize f.folderPart = folderPart at *
  generalize f.tagPart = tagPart at *
  cases hFolders with
  | none =>
      cases hTags with
      | none => exact .inl ⟨rfl, rfl⟩
      | some hTag => exact .inr (hOne hTag)
  | @some folder _ hFolder =>
      cases hTags with
      | none => exact .inr (hOne hFolder)
      | @some tag _ hTag =>
          have hBoth := hFolder.denotes.and hTag.denotes
          have hText : conjunction [folder, tag] = folder ++ (" AND ".toList ++ tag) := by
            simp [conjunction, joined, asOperand_of_isCompact hFolder.compact,
              asOperand_of_isCompact hTag.compact]
          refine .inr ?_
          simp only [Option.toList_some, List.singleton_append, hText, String.toList_ofList,
            asOperand_and hFolder.compact]
          exact ⟨hBoth, hBoth.parenthesized⟩

theorem ofText_source_of_plain {f : Filter}
    (hPlain : ∀ tag ∈ f.tagNames, ∀ c ∈ tag.toList, Token.endsWord c = false) :
    Tree.ofText f.compile.source = .ok f.sourceTree := by
  rcases source_cases hPlain with ⟨hEmpty, hAll⟩ | ⟨hDenotes, -⟩
  · rw [hEmpty, hAll]
    exact Tree.ofText_empty
  · have hText := hDenotes.ofText
    rwa [String.ofList_toList] at hText

theorem isPlain_foldl_or {e : Tree} {rest : List Tree} (h : (rest.foldl .or e).IsPlain) :
    ∀ e' ∈ e :: rest, e'.IsPlain := by
  induction rest generalizing e with
  | nil => simpa using h
  | cons next rest ih =>
      obtain ⟨hBoth, hRest⟩ := List.forall_mem_cons.1 (ih h)
      exact List.forall_mem_cons.2 ⟨hBoth.1, List.forall_mem_cons.2 ⟨hBoth.2, hRest⟩⟩

theorem isPlain_anyOf {es : List Tree} {e : Tree} (hAny : Tree.anyOf es = some e)
    (h : e.IsPlain) : ∀ e' ∈ es, e'.IsPlain := by
  cases es with
  | nil => cases hAny
  | cons first rest =>
      cases hAny
      exact isPlain_foldl_or h

/-- The tree of a filter is plain only if its tags are. -/
theorem plain_of_isPlain_sourceTree {f : Filter} (h : f.sourceTree.IsPlain) :
    ∀ tag ∈ f.tagNames, ∀ c ∈ tag.toList, Token.endsWord c = false := by
  intro tag hTag c hc
  have hLeaf : Tree.tag ("#" ++ tag) ∈ f.tagNames.map fun tag => .tag ("#" ++ tag) :=
    List.mem_map_of_mem hTag
  have hTags : ∀ e, Tree.anyOf (f.tagNames.map fun tag => .tag ("#" ++ tag)) = some e →
      e.IsPlain := by
    intro e he
    rw [sourceTree, he] at h
    cases hFolders : Tree.anyOf (f.folderNames.map .folder) with
    | none =>
        rw [hFolders] at h
        exact h
    | some folders =>
        rw [hFolders] at h
        exact h.2
  cases hAny : Tree.anyOf (f.tagNames.map fun tag => .tag ("#" ++ tag)) with
  | none =>
      generalize (f.tagNames.map fun tag => Tree.tag ("#" ++ tag)) = leaves at *
      cases leaves with
      | nil => exact absurd hLeaf List.not_mem_nil
      | cons first rest => cases hAny
  | some tags =>
      have hPlain := isPlain_anyOf hAny (hTags tags hAny) _ hLeaf
      apply hPlain c
      rw [String.toList_append]
      exact List.mem_append_right _ hc

/-- The part of a filter's query that is sent to a provider is read back as what the filter asks
for, exactly if no tag has white space, parentheses or quotes in it. Folders may have anything in
them, and come out as they were put in. -/
theorem ofText_source (f : Filter) :
    (Tree.ofText f.compile.source = .ok f.sourceTree ↔
      ∀ tag ∈ f.tagNames, ∀ c ∈ tag.toList,
        Text.isBlank c = false ∧ c ≠ '(' ∧ c ≠ ')' ∧ c ≠ '"') ∧
      ∀ folder : String, Token.ofChars (literal folder.toList) = .ok [.folder folder] := by
  have hEnds (c : Char) : Token.endsWord c = false ↔
      Text.isBlank c = false ∧ c ≠ '(' ∧ c ≠ ')' ∧ c ≠ '"' := by
    simp [Token.endsWord, and_assoc]
  simp only [← hEnds]
  refine ⟨⟨?_, ofText_source_of_plain⟩, ?_⟩
  · intro hText
    exact plain_of_isPlain_sourceTree (Tree.isPlain_ofText hText)
  · intro folder
    have hReads := reads_literal folder.toList
    rw [String.ofList_toList] at hReads
    exact hReads.ofChars

end Filter
end NoteBoard
