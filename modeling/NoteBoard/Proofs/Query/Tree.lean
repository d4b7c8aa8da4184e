import NoteBoard.Proofs.Query.Token
import NoteBoard.Query.Tree

/-! What the reader of queries makes of tokens: the trees of operands and of whole expressions. -/
namespace NoteBoard.Query
namespace Tree

namespace Build

/-- The reader after some tokens. -/
def read (b : Build) (tokens : List Token) : Except Error Build :=
  tokens.foldlM step b

@[simp] theorem read_nil (b : Build) : b.read [] = .ok b := rfl

theorem read_cons {b b' : Build} {token : Token} (h : b.step token = .ok b')
    (rest : List Token) : b.read (token :: rest) = b'.read rest := by
  rw [read, List.foldlM_cons, h]
  rfl

theorem read_append {b b' : Build} {tokens : List Token} (h : b.read tokens = .ok b')
    (rest : List Token) : b.read (tokens ++ rest) = b'.read rest := by
  rw [read] at h
  rw [read, List.foldlM_append, h]
  rfl

end Build

/-- Tokens that make an operand, wherever one is due. -/
def IsOperand (tokens : List Token) (e : Tree) : Prop :=
  ∀ level outer, Build.read ⟨level, outer, true⟩ tokens = .ok ⟨level.operand e, outer, false⟩

/-- Tokens that make a conjunction, wherever one is due. -/
def IsConjunction (tokens : List Token) (e : Tree) : Prop :=
  ∀ ors outer, Build.read ⟨⟨ors, none⟩, outer, true⟩ tokens = .ok ⟨⟨ors, some e⟩, outer, false⟩

/-- Tokens that make an expression: what they leave open is closed as the tree. -/
def IsExpression (tokens : List Token) (e : Tree) : Prop :=
  ∀ outer, ∃ level last, Build.read ⟨.start, outer, true⟩ tokens = .ok ⟨level, outer, false⟩ ∧
    level.ands = some last ∧ level.close last = e

theorem isOperand_tag (text : String) : IsOperand [.tag text] (.tag text) :=
  fun _ _ => rfl

theorem isOperand_folder (text : String) : IsOperand [.folder text] (.folder text) :=
  fun _ _ => rfl

theorem IsOperand.isConjunction {tokens : List Token} {e : Tree} (h : IsOperand tokens e) :
    IsConjunction tokens e :=
  fun ors outer => h ⟨ors, none⟩ outer

theorem IsConjunction.isExpression {tokens : List Token} {e : Tree} (h : IsConjunction tokens e) :
    IsExpression tokens e :=
  fun outer => ⟨_, e, h none outer, rfl, rfl⟩

/-- An expression in parentheses is an operand. -/
theorem IsExpression.parenthesized {tokens : List Token} {e : Tree} (h : IsExpression tokens e) :
    IsOperand (.opening :: tokens ++ [.closing]) e := by
  intro level outer
  obtain ⟨inner, last, hRead, hLast, hClose⟩ := h (level :: outer)
  have hOpening : Build.step ⟨level, outer, true⟩ .opening = .ok ⟨.start, level :: outer, true⟩ :=
    rfl
  have hClosing : Build.step ⟨inner, level :: outer, false⟩ .closing =
      .ok ⟨level.operand e, outer, false⟩ := by
    simp only [Build.step, hLast, Build.stepOperator, hClose]
  rw [List.cons_append, Build.read_cons hOpening, Build.read_append hRead,
    Build.read_cons hClosing, Build.read_nil]

/-- An operand behind AND becomes the right side of the conjunction before it. -/
theorem IsConjunction.and {tokens tokens' : List Token} {e e' : Tree} (h : IsConjunction tokens e)
    (h' : IsOperand tokens' e') : IsConjunction (tokens ++ .and :: tokens') (.and e e') := by
  intro ors outer
  have hAnd : Build.step ⟨⟨ors, some e⟩, outer, false⟩ .and = .ok ⟨⟨ors, some e⟩, outer, true⟩ :=
    rfl
  rw [Build.read_append (h ors outer), Build.read_cons hAnd, h' _ outer]
  rfl

/-- A conjunction behind OR becomes the right side of all that is before it. -/
theorem IsExpression.or {tokens tokens' : List Token} {e e' : Tree} (h : IsExpression tokens e)
    (h' : IsConjunction tokens' e') : IsExpression (tokens ++ .or :: tokens') (.or e e') := by
  intro outer
  obtain ⟨level, last, hRead, hLast, hClose⟩ := h outer
  have hOr : Build.step ⟨level, outer, false⟩ .or = .ok ⟨⟨some e, none⟩, outer, true⟩ := by
    simp only [Build.step, hLast, Build.stepOperator, hClose]
  refine ⟨⟨some e, some e'⟩, e', ?_, rfl, rfl⟩
  rw [Build.read_append hRead, Build.read_cons hOr, h' (some e) outer]

theorem IsExpression.ofTokens {tokens : List Token} {e : Tree} (h : IsExpression tokens e) :
    ofTokens tokens = .ok e := by
  obtain ⟨level, last, hRead, hLast, hClose⟩ := h []
  rw [Build.read] at hRead
  rw [Tree.ofTokens, hRead]
  change Build.finish ⟨level, [], false⟩ = .ok e
  simp [Build.finish, hLast, hClose]

/-- A text of a tree that stands as an operand. -/
def DenotesOperand (text : List Char) (e : Tree) : Prop :=
  ∃ tokens, Token.Reads text tokens ∧ IsOperand tokens e

/-- A text of a tree that stands on its own, or in parentheses. -/
def Denotes (text : List Char) (e : Tree) : Prop :=
  ∃ tokens, Token.Reads text tokens ∧ IsExpression tokens e

theorem DenotesOperand.denotes {text : List Char} {e : Tree} (h : DenotesOperand text e) :
    Denotes text e := by
  obtain ⟨tokens, hReads, hOperand⟩ := h
  exact ⟨tokens, hReads, hOperand.isConjunction.isExpression⟩

theorem Denotes.parenthesized {text : List Char} {e : Tree} (h : Denotes text e) :
    DenotesOperand ('(' :: text ++ [')']) e := by
  obtain ⟨tokens, hReads, hExpression⟩ := h
  exact ⟨_, hReads.parenthesized, hExpression.parenthesized⟩

theorem Denotes.or {text text' : List Char} {e e' : Tree} (h : Denotes text e)
    (h' : DenotesOperand text' e') : Denotes (text ++ (" OR ".toList ++ text')) (.or e e') := by
  obtain ⟨tokens, hReads, hExpression⟩ := h
  obtain ⟨tokens', hReads', hOperand⟩ := h'
  exact ⟨_, hReads.append_space (Token.reads_or.append_space hReads'),
    hExpression.or hOperand.isConjunction⟩

theorem DenotesOperand.and {text text' : List Char} {e e' : Tree} (h : DenotesOperand text e)
    (h' : DenotesOperand text' e') : Denotes (text ++ (" AND ".toList ++ text')) (.and e e') := by
  obtain ⟨tokens, hReads, hOperand⟩ := h
  obtain ⟨tokens', hReads', hOperand'⟩ := h'
  exact ⟨_, hReads.append_space (Token.reads_and.append_space hReads'),
    (hOperand.isConjunction.and hOperand').isExpression⟩

/-- A text of a tree is read as the tree. -/
theorem Denotes.ofText {text : List Char} {e : Tree} (h : Denotes text e) :
    ofText (String.ofList text) = .ok e := by
  obtain ⟨tokens, hReads, hExpression⟩ := h
  have hTokens : tokens ≠ [] := by
    rintro rfl
    obtain ⟨level, last, hNothing, -⟩ := hExpression []
    cases hNothing
  rw [Tree.ofText, String.toList_ofList, hReads.ofChars]
  change (if tokens.isEmpty then pure all else Tree.ofTokens tokens) = .ok e
  rw [if_neg (by simpa using hTokens), hExpression.ofTokens]

theorem ofText_empty : ofText "" = .ok .all := by
  have hNothing : Token.ofChars "".toList = .ok [] := Token.reads_nil.ofChars
  rw [Tree.ofText, hNothing]
  rfl

/-- Whether all tags of a tree could be words of a text. -/
def IsPlain : Tree → Prop
  | .tag text => (Token.tag text).IsPlain
  | .and left right => left.IsPlain ∧ right.IsPlain
  | .or left right => left.IsPlain ∧ right.IsPlain
  | _ => True

/-- An expression whose parts are plain as far as it is read. -/
structure Level.IsPlain (l : Level) : Prop where
  ors : ∀ e ∈ l.ors, e.IsPlain
  ands : ∀ e ∈ l.ands, e.IsPlain

theorem Level.IsPlain.operand {l : Level} {e : Tree} (h : l.IsPlain) (he : e.IsPlain) :
    (l.operand e).IsPlain := by
  refine ⟨h.ors, ?_⟩
  intro e' hNew
  cases hNew
  cases hAnds : l.ands with
  | none => exact he
  | some left => exact ⟨h.ands left hAnds, he⟩

theorem Level.IsPlain.close {l : Level} {last : Tree} (h : l.IsPlain) (hLast : last.IsPlain) :
    (l.close last).IsPlain := by
  unfold Level.close
  cases hOrs : l.ors with
  | none => exact hLast
  | some left => exact ⟨h.ors left hOrs, hLast⟩

/-- A reader all of whose expressions are plain as far as they are read. -/
structure Build.IsPlain (b : Build) : Prop where
  level : b.level.IsPlain
  outer : ∀ l ∈ b.outer, l.IsPlain

theorem isPlain_start : Level.start.IsPlain :=
  ⟨by simp [Level.start], by simp [Level.start]⟩

theorem Build.IsPlain.stepOperand {b b' : Build} {token : Token} (h : b.IsPlain)
    (hToken : token.IsPlain) (hStep : b.stepOperand token = .ok b') : b'.IsPlain := by
  cases token with
  | tag text =>
      cases hStep
      exact ⟨h.level.operand hToken, h.outer⟩
  | folder text =>
      cases hStep
      exact ⟨h.level.operand trivial, h.outer⟩
  | opening =>
      cases hStep
      exact ⟨isPlain_start, List.forall_mem_cons.2 ⟨h.level, h.outer⟩⟩
  | closing => cases hStep
  | and => cases hStep
  | or => cases hStep

theorem Build.IsPlain.stepOperator {b b' : Build} {last : Tree} {token : Token} (h : b.IsPlain)
    (hLast : last.IsPlain) (hStep : b.stepOperator last token = .ok b') : b'.IsPlain := by
  have hClose := h.level.close hLast
  cases token with
  | and =>
      cases hStep
      exact ⟨h.level, h.outer⟩
  | or =>
      cases hStep
      refine ⟨⟨?_, by simp⟩, h.outer⟩
      intro e hNew
      cases hNew
      exact hClose
  | closing =>
      cases hOuter : b.outer with
      | nil =>
          simp only [Build.stepOperator, hOuter] at hStep
          cases hStep
      | cons l outer =>
          simp only [Build.stepOperator, hOuter] at hStep
          cases hStep
          obtain ⟨hLevel, hRest⟩ := List.forall_mem_cons.1 (hOuter ▸ h.outer)
          exact ⟨hLevel.operand hClose, hRest⟩
  | opening => cases hStep
  | tag text => cases hStep
  | folder text => cases hStep

theorem Build.IsPlain.step {b b' : Build} {token : Token} (h : b.IsPlain)
    (hToken : token.IsPlain) (hStep : b.step token = .ok b') : b'.IsPlain := by
  unfold Build.step at hStep
  split at hStep
  · next last _ hLast => exact h.stepOperator (h.level.ands last hLast) hStep
  · exact h.stepOperand hToken hStep

theorem Build.IsPlain.read {b b' : Build} {tokens : List Token} (h : b.IsPlain)
    (hTokens : ∀ token ∈ tokens, token.IsPlain) (hRead : b.read tokens = .ok b') :
    b'.IsPlain := by
  induction tokens generalizing b with
  | nil =>
      cases hRead
      exact h
  | cons token rest ih =>
      obtain ⟨hFirst, hRest⟩ := List.forall_mem_cons.1 hTokens
      cases hStep : b.step token with
      | error e =>
          rw [Build.read, List.foldlM_cons, hStep] at hRead
          cases hRead
      | ok next =>
          rw [Build.read_cons hStep] at hRead
          exact ih (h.step hFirst hStep) hRest hRead

theorem Build.IsPlain.finish {b : Build} {e : Tree} (h : b.IsPlain) (hFinish : b.finish = .ok e) :
    e.IsPlain := by
  unfold Build.finish at hFinish
  split at hFinish
  · next last _ hLast =>
    split at hFinish
    · cases hFinish
      exact h.level.close (h.level.ands last hLast)
    · cases hFinish
  · cases hFinish

/-- Whatever the text is, the tags of the tree that is read in it have no characters that end
words. -/
theorem isPlain_ofText {text : String} {e : Tree} (h : ofText text = .ok e) : e.IsPlain := by
  cases hTokens : Token.ofChars text.toList with
  | error e =>
      rw [ofText, hTokens] at h
      cases h
  | ok tokens =>
      rw [ofText, hTokens] at h
      change (if tokens.isEmpty then pure all else ofTokens tokens) = .ok e at h
      split at h
      · cases h
        trivial
      · cases hRead : Build.read ⟨.start, [], true⟩ tokens with
        | error e =>
            rw [Build.read] at hRead
            rw [ofTokens, hRead] at h
            cases h
        | ok b =>
            have hStart : (⟨.start, [], true⟩ : Build).IsPlain := ⟨isPlain_start, by simp⟩
            have hPlain := hStart.read (Token.isPlain_ofChars hTokens) hRead
            rw [Build.read] at hRead
            rw [ofTokens, hRead] at h
            exact hPlain.finish h

end Tree
end NoteBoard.Query
