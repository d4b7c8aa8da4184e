import NoteBoard.Proofs.Query.Tree

/-! The grammar of queries. An expression is one or more conjunctions with OR between them, a
conjunction one or more operands with AND between them, and an operand a tag, a folder or an
expression in parentheses. The reader takes exactly what the grammar derives, each in one way. -/
namespace NoteBoard.Query

/-- The phrases of queries. -/
inductive PhraseKind where
  | operand
  | conjunction
  | expression

/-- A derivation of a phrase. Where phrases of one kind are repeated, those before the last one are
derived first. -/
inductive Phrase : PhraseKind → Type where
  | tag (text : String) : Phrase .operand
  | folder (text : String) : Phrase .operand
  | parenthesized (inner : Phrase .expression) : Phrase .operand
  | operand (only : Phrase .operand) : Phrase .conjunction
  | and (before : Phrase .conjunction) (last : Phrase .operand) : Phrase .conjunction
  | conjunction (only : Phrase .conjunction) : Phrase .expression
  | or (before : Phrase .expression) (last : Phrase .conjunction) : Phrase .expression

namespace Phrase

/-- The tokens that are derived. -/
def tokens : {kind : PhraseKind} → Phrase kind → List Token
  | _, tag text => [.tag text]
  | _, folder text => [.folder text]
  | _, parenthesized inner => .opening :: inner.tokens ++ [.closing]
  | _, operand only => only.tokens
  | _, and before last => before.tokens ++ .and :: last.tokens
  | _, conjunction only => only.tokens
  | _, or before last => before.tokens ++ .or :: last.tokens

/-- The tree of a phrase: both operators group to the left, and parentheses leave no trace. -/
def tree : {kind : PhraseKind} → Phrase kind → Tree
  | _, tag text => .tag text
  | _, folder text => .folder text
  | _, parenthesized inner => inner.tree
  | _, operand only => only.tree
  | _, and before last => .and before.tree last.tree
  | _, conjunction only => only.tree
  | _, or before last => .or before.tree last.tree

/-- Tokens in front of a phrase that cannot belong to a larger phrase of its kind. -/
def EndsBefore : PhraseKind → List Token → Prop
  | .operand, _ => True
  | .conjunction, before => before.getLast? ≠ some .and
  | .expression, before => before.getLast? ≠ some .and ∧ before.getLast? ≠ some .or

theorem append_tokens_parenthesized (before : List Token) (inner : Phrase .expression) :
    before ++ inner.parenthesized.tokens =
      before ++ [.opening] ++ inner.tokens ++ [.closing] := by
  simp [tokens]

theorem append_tokens_and (before : List Token) (front : Phrase .conjunction)
    (last : Phrase .operand) :
    before ++ (front.and last).tokens = before ++ front.tokens ++ [.and] ++ last.tokens := by
  simp [tokens]

theorem append_tokens_or (before : List Token) (front : Phrase .expression)
    (last : Phrase .conjunction) :
    before ++ (front.or last).tokens = before ++ front.tokens ++ [.or] ++ last.tokens := by
  simp [tokens]

/-- A phrase is known from the tokens that end in it. -/
theorem eq_of_append_tokens {kind : PhraseKind} (p q : Phrase kind) {before before' : List Token}
    (h : EndsBefore kind before) (h' : EndsBefore kind before')
    (hTokens : before ++ p.tokens = before' ++ q.tokens) : p = q ∧ before = before' := by
  -- The last token of both tells an operand. Behind the last operator stands a smaller phrase,
  -- which is known already, and what is in front of that ends in the operator.
  induction p generalizing before before' with
  | tag text =>
      have hLast := congrArg List.getLast? hTokens
      cases q with
      | tag text' => simp_all [tokens]
      | folder text' => simp [tokens, List.getLast?_cons] at hLast
      | parenthesized inner' => simp [tokens, List.getLast?_cons] at hLast
  | folder text =>
      have hLast := congrArg List.getLast? hTokens
      cases q with
      | tag text' => simp [tokens, List.getLast?_cons] at hLast
      | folder text' => simp_all [tokens]
      | parenthesized inner' => simp [tokens, List.getLast?_cons] at hLast
  | parenthesized inner ih =>
      have hLast := congrArg List.getLast? hTokens
      cases q with
      | tag text' => simp [tokens, List.getLast?_cons] at hLast
      | folder text' => simp [tokens, List.getLast?_cons] at hLast
      | parenthesized inner' =>
          rw [append_tokens_parenthesized, append_tokens_parenthesized] at hTokens
          obtain ⟨rfl, hBefore⟩ := ih inner' (by simp [EndsBefore]) (by simp [EndsBefore])
            (List.append_cancel_right hTokens)
          simpa using hBefore
  | operand only ih =>
      cases q with
      | operand only' =>
          obtain ⟨rfl, hBefore⟩ := ih only' trivial trivial hTokens
          exact ⟨rfl, hBefore⟩
      | and front last =>
          rw [append_tokens_and] at hTokens
          obtain ⟨-, rfl⟩ := ih last trivial trivial hTokens
          simp [EndsBefore] at h
  | and front last ihFront ihLast =>
      cases q with
      | operand only' =>
          rw [append_tokens_and] at hTokens
          obtain ⟨-, rfl⟩ := ihLast only' trivial trivial hTokens
          simp [EndsBefore] at h'
      | and front' last' =>
          rw [append_tokens_and, append_tokens_and] at hTokens
          obtain ⟨rfl, hFront⟩ := ihLast last' trivial trivial hTokens
          obtain ⟨rfl, hBefore⟩ := ihFront front' h h' (List.append_cancel_right hFront)
          exact ⟨rfl, hBefore⟩
  | conjunction only ih =>
      cases q with
      | conjunction only' =>
          obtain ⟨rfl, hBefore⟩ := ih only' h.1 h'.1 hTokens
          exact ⟨rfl, hBefore⟩
      | or front last =>
          rw [append_tokens_or] at hTokens
          obtain ⟨-, rfl⟩ := ih last h.1 (by simp [EndsBefore]) hTokens
          simp [EndsBefore] at h
  | or front last ihFront ihLast =>
      cases q with
      | conjunction only' =>
          rw [append_tokens_or] at hTokens
          obtain ⟨-, rfl⟩ := ihLast only' (by simp [EndsBefore]) h'.1 hTokens
          simp [EndsBefore] at h'
      | or front' last' =>
          rw [append_tokens_or, append_tokens_or] at hTokens
          obtain ⟨rfl, hFront⟩ := ihLast last' (by simp [EndsBefore]) (by simp [EndsBefore]) hTokens
          obtain ⟨rfl, hBefore⟩ := ihFront front' h h' (List.append_cancel_right hFront)
          exact ⟨rfl, hBefore⟩

/-- An expression has one derivation. -/
theorem tokens_injective : Function.Injective fun p : Phrase .expression => p.tokens :=
  fun p q h => (@eq_of_append_tokens _ p q [] [] (by simp [EndsBefore]) (by simp [EndsBefore]) h).1

/-- What the reader makes of a phrase. -/
def IsRead : {kind : PhraseKind} → Phrase kind → Prop
  | .operand, p => Tree.IsOperand p.tokens p.tree
  | .conjunction, p => Tree.IsConjunction p.tokens p.tree
  | .expression, p => Tree.IsExpression p.tokens p.tree

/-- Every phrase is read as its tree. -/
theorem isRead {kind : PhraseKind} (p : Phrase kind) : p.IsRead := by
  induction p with
  | tag text => exact Tree.isOperand_tag text
  | folder text => exact Tree.isOperand_folder text
  | parenthesized inner ih => exact Tree.IsExpression.parenthesized ih
  | operand only ih => exact Tree.IsOperand.isConjunction ih
  | and before last ihBefore ihLast => exact Tree.IsConjunction.and ihBefore ihLast
  | conjunction only ih => exact Tree.IsConjunction.isExpression ih
  | or before last ihBefore ihLast => exact Tree.IsExpression.or ihBefore ihLast

end Phrase

namespace Tree

/-- Tokens of an expression up to a place where an operand is due: none, or all in front of an OR
or an AND. -/
inductive Level.Awaits : Level → List Token → Prop where
  | start : Awaits .start []
  | or (p : Phrase .expression) : Awaits ⟨some p.tree, none⟩ (p.tokens ++ [.or])
  | and {ors : Option Tree} {tokens : List Token} (before : Awaits ⟨ors, none⟩ tokens)
      (p : Phrase .conjunction) : Awaits ⟨ors, some p.tree⟩ (tokens ++ p.tokens ++ [.and])

/-- Tokens of an expression up to the end of an operand. -/
inductive Level.Holds : Level → List Token → Prop where
  | mk {ors : Option Tree} {tokens : List Token} (before : Awaits ⟨ors, none⟩ tokens)
      (p : Phrase .conjunction) : Holds ⟨ors, some p.tree⟩ (tokens ++ p.tokens)

theorem Level.Awaits.operand {l : Level} {tokens : List Token} (h : l.Awaits tokens)
    (p : Phrase .operand) : (l.operand p.tree).Holds (tokens ++ p.tokens) := by
  cases h with
  | start => exact .mk .start (.operand p)
  | or q => exact .mk (.or q) (.operand p)
  | @and ors tokens before q =>
      rw [← Phrase.append_tokens_and]
      exact .mk before (.and q p)

theorem Level.Holds.and {l : Level} {tokens : List Token} (h : l.Holds tokens) :
    l.Awaits (tokens ++ [.and]) := by
  cases h with
  | mk before p => exact .and before p

theorem Level.Holds.close {l : Level} {tokens : List Token} (h : l.Holds tokens) :
    ∃ last, l.ands = some last ∧
      ∃ p : Phrase .expression, p.tokens = tokens ∧ p.tree = l.close last := by
  cases h with
  | mk before p =>
      refine ⟨p.tree, rfl, ?_⟩
      cases before with
      | start => exact ⟨.conjunction p, rfl, rfl⟩
      | or q => exact ⟨.or q p, by simp [Phrase.tokens], rfl⟩

/-- Tokens up to a parenthesis, whose expressions have all been begun. -/
inductive Opened : List Level → List Token → Prop where
  | nil : Opened [] []
  | cons {l : Level} {outer : List Level} {tokens tokens' : List Token}
      (before : Opened outer tokens) (last : l.Awaits tokens') :
      Opened (l :: outer) (tokens ++ tokens' ++ [.opening])

/-- The tokens that a reader has read. -/
inductive Build.Holds : Build → List Token → Prop where
  | due {l : Level} {outer : List Level} {tokens tokens' : List Token}
      (before : Opened outer tokens) (last : l.Awaits tokens') :
      Holds ⟨l, outer, true⟩ (tokens ++ tokens')
  | done {l : Level} {outer : List Level} {tokens tokens' : List Token}
      (before : Opened outer tokens) (last : l.Holds tokens') :
      Holds ⟨l, outer, false⟩ (tokens ++ tokens')

/-- After one more token it is still the beginning of an expression. -/
theorem Build.Holds.step {b b' : Build} {tokens : List Token} {token : Token} (h : b.Holds tokens)
    (hStep : b.step token = .ok b') : b'.Holds (tokens ++ [token]) := by
  cases h with
  | @due l outer tokens tokens' before last =>
      cases token with
      | tag text =>
          cases hStep
          rw [List.append_assoc]
          exact .done before (last.operand (.tag text))
      | folder text =>
          cases hStep
          rw [List.append_assoc]
          exact .done before (last.operand (.folder text))
      | opening =>
          cases hStep
          have hInner := Holds.due (before.cons last) .start
          simpa using hInner
      | closing => cases hStep
      | and => cases hStep
      | or => cases hStep
  | @done l outer tokens tokens' before last =>
      obtain ⟨last', hLast, p, rfl, hTree⟩ := last.close
      simp only [Build.step, hLast] at hStep
      cases token with
      | and =>
          cases hStep
          rw [List.append_assoc]
          exact .due before last.and
      | or =>
          cases hStep
          rw [List.append_assoc, ← hTree]
          exact .due before (.or p)
      | closing =>
          cases before with
          | nil => cases hStep
          | @cons l' outer tokens tokens' before outside =>
              cases hStep
              rw [← Phrase.append_tokens_parenthesized, List.append_assoc, ← hTree]
              exact .done before (outside.operand (.parenthesized p))
      | opening => cases hStep
      | tag text => cases hStep
      | folder text => cases hStep

theorem Build.Holds.read {b b' : Build} {read tokens : List Token} (h : b.Holds read)
    (hRead : b.read tokens = .ok b') : b'.Holds (read ++ tokens) := by
  induction tokens generalizing b read with
  | nil =>
      cases hRead
      rwa [List.append_nil]
  | cons token rest ih =>
      cases hStep : b.step token with
      | error e =>
          rw [Build.read, List.foldlM_cons, hStep] at hRead
          cases hRead
      | ok next =>
          rw [Build.read_cons hStep] at hRead
          have hRest := ih (h.step hStep) hRead
          rwa [List.append_assoc] at hRest

theorem Build.Holds.finish {b : Build} {tokens : List Token} {e : Tree} (h : b.Holds tokens)
    (hFinish : b.finish = .ok e) : ∃ p : Phrase .expression, p.tokens = tokens ∧ p.tree = e := by
  cases h with
  | due before last => cases hFinish
  | @done l outer tokens tokens' before last =>
      obtain ⟨last', hLast, p, rfl, hTree⟩ := last.close
      simp only [Build.finish, hLast] at hFinish
      cases before with
      | nil =>
          cases hFinish
          exact ⟨p, rfl, hTree⟩
      | cons before outside => cases hFinish

theorem ofTokens_eq_ok_iff {tokens : List Token} {e : Tree} :
    ofTokens tokens = .ok e ↔ ∃ p : Phrase .expression, p.tokens = tokens ∧ p.tree = e := by
  constructor
  · intro h
    cases hRead : Build.read ⟨.start, [], true⟩ tokens with
    | error e =>
        rw [Build.read] at hRead
        rw [ofTokens, hRead] at h
        cases h
    | ok b =>
        have hHolds := (Build.Holds.due .nil .start).read hRead
        rw [Build.read] at hRead
        rw [ofTokens, hRead] at h
        exact hHolds.finish h
  · rintro ⟨p, rfl, rfl⟩
    exact IsExpression.ofTokens p.isRead

/-- A text is a query if it has no tokens, or those of an expression. -/
theorem ofText_eq_ok_iff {text : String} {e : Tree} :
    ofText text = .ok e ↔ ∃ tokens, Token.ofChars text.toList = .ok tokens ∧
      (tokens = [] ∧ e = .all ∨ ∃ p : Phrase .expression, p.tokens = tokens ∧ p.tree = e) := by
  rw [ofText]
  cases hTokens : Token.ofChars text.toList with
  | error error =>
      refine iff_of_false (fun h => by cases h) ?_
      rintro ⟨tokens, hOther, -⟩
      cases hOther
  | ok tokens =>
      by_cases hEmpty : tokens = []
      · subst hEmpty
        have hNone : ¬∃ p : Phrase .expression, p.tokens = [] ∧ p.tree = e := by
          intro hPhrase
          have hNothing : ofTokens [] = .ok e := ofTokens_eq_ok_iff.2 hPhrase
          cases hNothing
        constructor
        · intro h
          cases h
          exact ⟨[], rfl, .inl ⟨rfl, rfl⟩⟩
        · rintro ⟨_, hNothing, hTree⟩
          cases hNothing
          rcases hTree with ⟨-, rfl⟩ | hPhrase
          · rfl
          · exact absurd hPhrase hNone
      · change (if tokens.isEmpty then pure .all else ofTokens tokens) = .ok e ↔ _
        rw [if_neg (by simpa using hEmpty), ofTokens_eq_ok_iff]
        simp [hEmpty]

/-- The tokens of a tree with parentheses around all that is put together. -/
def rendered : Tree → List Token
  | .all => []
  | .tag text => [.tag text]
  | .folder text => [.folder text]
  | .and left right => .opening :: left.rendered ++ .and :: right.rendered ++ [.closing]
  | .or left right => .opening :: left.rendered ++ .or :: right.rendered ++ [.closing]

/-- Whether a tree is put together from tags and folders. -/
def IsComposed : Tree → Prop
  | .all => False
  | .tag _ => True
  | .folder _ => True
  | .and left right => left.IsComposed ∧ right.IsComposed
  | .or left right => left.IsComposed ∧ right.IsComposed

theorem exists_operand {e : Tree} (h : e.IsComposed) :
    ∃ p : Phrase .operand, p.tokens = e.rendered ∧ p.tree = e := by
  induction e with
  | all => exact h.elim
  | tag text => exact ⟨.tag text, rfl, rfl⟩
  | folder text => exact ⟨.folder text, rfl, rfl⟩
  | and left right ihLeft ihRight =>
      obtain ⟨p, hp, hLeft⟩ := ihLeft h.1
      obtain ⟨q, hq, hRight⟩ := ihRight h.2
      exact ⟨.parenthesized (.conjunction (.and (.operand p) q)),
        by simp [Phrase.tokens, rendered, hp, hq], by simp [Phrase.tree, hLeft, hRight]⟩
  | or left right ihLeft ihRight =>
      obtain ⟨p, hp, hLeft⟩ := ihLeft h.1
      obtain ⟨q, hq, hRight⟩ := ihRight h.2
      exact ⟨.parenthesized (.or (.conjunction (.operand p)) (.operand q)),
        by simp [Phrase.tokens, rendered, hp, hq], by simp [Phrase.tree, hLeft, hRight]⟩

/-- A list of tokens is read exactly if the grammar derives an expression with these tokens, which
it does in one way, and then as the tree of the derivation. So a text is a query exactly if it can
be taken apart into no tokens, which ask for everything, or into those of an expression. Whatever is
put together from tags and folders is read back from its tokens in parentheses. -/
theorem ofTokens_iff_derived :
    (∀ tokens e, ofTokens tokens = .ok e ↔
      ∃ p : Phrase .expression, p.tokens = tokens ∧ p.tree = e) ∧
    (Function.Injective fun p : Phrase .expression => p.tokens) ∧
    (∀ text e, ofText text = .ok e ↔ ∃ tokens, Token.ofChars text.toList = .ok tokens ∧
      (tokens = [] ∧ e = .all ∨ ∃ p : Phrase .expression, p.tokens = tokens ∧ p.tree = e)) ∧
    ∀ e : Tree, e.IsComposed → ofTokens e.rendered = .ok e := by
  refine ⟨fun _ _ => ofTokens_eq_ok_iff, Phrase.tokens_injective, fun _ _ => ofText_eq_ok_iff,
    fun e he => ?_⟩
  obtain ⟨p, hTokens, hTree⟩ := exists_operand he
  exact ofTokens_eq_ok_iff.2 ⟨.conjunction (.operand p), hTokens, hTree⟩

/-- Alternatives inside and outside of conjunctions, on both sides. -/
def nested : Tree :=
  .or (.and (.or (.tag "#a") (.folder "Work, old")) (.and (.tag "#b") (.tag "#c/d")))
    (.or (.folder "") (.and (.tag "#a") (.tag "#a")))

theorem nested_derived :
    let p : Phrase .expression := .or (.conjunction (.operand (.tag "#a")))
      (.and (.and (.operand (.folder "b")) (.tag "#c")) (.parenthesized
        (.conjunction (.operand (.tag "#d")))))
    p.tokens = [.tag "#a", .or, .folder "b", .and, .tag "#c", .and, .opening, .tag "#d", .closing] ∧
      ofTokens p.tokens =
        .ok (.or (.tag "#a") (.and (.and (.folder "b") (.tag "#c")) (.tag "#d"))) ∧
      nested.IsComposed ∧ ofTokens nested.rendered = .ok nested := by
  intro p
  obtain ⟨hTokens, -, -, hRendered⟩ := ofTokens_iff_derived
  have hNested : nested.IsComposed := by simp [nested, IsComposed]
  exact ⟨rfl, (hTokens _ _).2 ⟨p, rfl, rfl⟩, hNested, hRendered nested hNested⟩

end Tree
end NoteBoard.Query
