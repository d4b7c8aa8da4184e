import NoteBoard.Proofs.Query.Tree
import NoteBoard.Query.Descent

/-! Reading by descent ends, and agrees with reading token by token: on every list of tokens both
give the same tree or the same error. What has been taken by descent, up to the cursor, is what the
state between two tokens holds. -/
namespace NoteBoard.Query

open NoteBoard.Query.Tree

/-- Reads on to the end of the tokens. -/
def Tree.Build.complete (b : Build) (tokens : List Token) : Except Error Tree :=
  (b.read tokens).bind Build.finish

namespace Descent

section State

variable {b b' : Build} {token : Token}

theorem complete_cons (h : b.step token = .ok b') (rest : List Token) :
    b.complete (token :: rest) = b'.complete rest := by
  rw [Build.complete, Build.read_cons h, Build.complete]

theorem complete_cons_error {e : Error} (h : b.step token = .error e) (rest : List Token) :
    b.complete (token :: rest) = .error e := by
  rw [Build.complete, Build.read, List.foldlM_cons, h]
  rfl

/-- Where no operator follows and nothing can be closed, only the end of the tokens is in place, and
only outside of parentheses. -/
theorem complete_of_stopped {level : Level} {outer : List Level} {last : Tree} {rest : List Token}
    (hLast : level.ands = some last) (hAnd : rest.head? ≠ some .and) (hOr : rest.head? ≠ some .or)
    (hClosing : rest.head? = some .closing → outer = []) :
    Build.complete ⟨level, outer, false⟩ rest =
      if rest = [] ∧ outer = [] then .ok (level.close last)
      else .error (if outer = [] then .trailingInput else .unbalanced) := by
  have hMisplaced : Build.misplaced ⟨level, outer, false⟩ =
      if outer = [] then .trailingInput else .unbalanced := by
    simp [Build.misplaced, List.isEmpty_iff]
  cases rest with
  | nil =>
      have hFinish : Build.complete ⟨level, outer, false⟩ [] =
          if outer.isEmpty then .ok (level.close last) else .error .unbalanced := by
        show Build.finish _ = _
        simp only [Build.finish, hLast]
      rw [hFinish]
      by_cases hOuter : outer = [] <;> simp [hOuter]
  | cons token rest =>
      rw [if_neg (by simp), ← hMisplaced]
      apply complete_cons_error
      simp only [Build.step, hLast]
      cases token with
      | and => exact absurd rfl hAnd
      | or => exact absurd rfl hOr
      | closing =>
          obtain rfl := hClosing rfl
          rfl
      | opening => rfl
      | tag text => rfl
      | folder text => rfl

end State

variable {tokens : List Token}

theorem drop_of_getElem? {pos : Nat} {token : Token} (h : tokens[pos]? = some token) :
    tokens.drop pos = token :: tokens.drop (pos + 1) := by
  obtain ⟨hPos, hToken⟩ := List.getElem?_eq_some_iff.1 h
  rw [List.drop_eq_getElem_cons hPos, hToken]

/-- What descent answers at a position agrees with what a state makes of the tokens from there on:
an error is the one it ends with, and behind a tree it goes on in a state which holds that tree. -/
inductive Agrees (tokens : List Token) (b : Build) (pos : Nat) (Holds : Tree → Nat → Build → Prop) :
    Answer → Prop where
  | failed {e : Error} (h : b.complete (tokens.drop pos) = .error e) :
      Agrees tokens b pos Holds (some (.error e))
  | taken {e : Tree} {behind : Nat} {b' : Build} (hBehind : pos ≤ behind)
      (hWithin : behind ≤ tokens.length) (hHolds : Holds e behind b')
      (h : b.complete (tokens.drop pos) = b'.complete (tokens.drop behind)) :
      Agrees tokens b pos Holds (some (.ok (e, behind)))

variable {b b' : Build} {pos start : Nat} {Holds Holds' : Tree → Nat → Build → Prop}
  {answer : Answer}

/-- The same from one token on, with which the state gets to another one. -/
theorem Agrees.step {token : Token} (hToken : tokens[pos]? = some token)
    (hStep : b.step token = .ok b') (h : Agrees tokens b' (pos + 1) Holds answer) :
    Agrees tokens b pos Holds answer := by
  have hSame : b.complete (tokens.drop pos) = b'.complete (tokens.drop (pos + 1)) := by
    rw [drop_of_getElem? hToken, complete_cons hStep]
  cases h with
  | failed h => exact .failed (hSame.trans h)
  | taken hBehind hWithin hHolds h =>
      exact .taken (Nat.le_of_succ_le hBehind) hWithin hHolds (hSame.trans h)

theorem Agrees.andThen {next : Tree → Nat → Answer} (h : Agrees tokens b pos Holds answer)
    (hNext : ∀ e behind b', pos ≤ behind → behind ≤ tokens.length → Holds e behind b' →
      Agrees tokens b' behind Holds' (next e behind)) :
    Agrees tokens b pos Holds' (answer.andThen next) := by
  cases h with
  | failed h => exact .failed h
  | @taken e behind b' hBehind hWithin hHolds h =>
      have hRest := hNext e behind b' hBehind hWithin hHolds
      show Agrees tokens b pos Holds' (next e behind)
      generalize next e behind = answer at hRest ⊢
      cases hRest with
      | failed hFailed => exact .failed (h.trans hFailed)
      | taken hLater hWithin hHolds hTaken =>
          exact .taken (Nat.le_trans hBehind hLater) hWithin hHolds (h.trans hTaken)

theorem Agrees.imp (h : Agrees tokens b pos Holds answer)
    (hHolds : ∀ e behind b', pos ≤ behind → Holds e behind b' → Holds' e behind b') :
    Agrees tokens b pos Holds' answer := by
  cases h with
  | failed h => exact .failed h
  | taken hBehind hWithin hHeld h =>
      exact .taken hBehind hWithin (hHolds _ _ _ hBehind hHeld) h

section Chain

variable {operator : Token} {join : Tree → Tree → Tree} {operand : Nat → Answer} {fuel : Nat}
  (hOperator : ∀ left pos b, start ≤ pos → Holds left pos b → tokens[pos]? = some operator →
    Agrees tokens b pos (fun right behind b' => pos < behind ∧ Holds (join left right) behind b')
      (operand (pos + 1)))

include hOperator

/-- Operands are taken up to the first one that has no operator before it. -/
theorem agrees_more {left : Tree} (hStart : start ≤ pos) (hWithin : pos ≤ tokens.length)
    (hFuel : tokens.length - pos < fuel) (hHolds : Holds left pos b) :
    Agrees tokens b pos (fun e behind b' => tokens[behind]? ≠ some operator ∧ Holds e behind b')
      (more tokens operator join operand fuel left pos) := by
  induction fuel generalizing left pos b with
  | zero => exact absurd hFuel (Nat.not_lt_zero _)
  | succ fuel ih =>
      rw [more]
      split
      · next hNext =>
        refine (hOperator left pos b hStart hHolds hNext).andThen ?_
        rintro right behind b' - hWithin ⟨hBehind, hHolds⟩
        exact ih (by omega) hWithin (by omega) hHolds
      · next hNext => exact .taken (Nat.le_refl pos) hWithin ⟨hNext, hHolds⟩ rfl

theorem agrees_chain (hFuel : tokens.length - start ≤ fuel)
    (hFirst : Agrees tokens b start (fun e behind b' => start < behind ∧ Holds e behind b')
      (operand start)) :
    Agrees tokens b start (fun e behind b' => start < behind ∧
        tokens[behind]? ≠ some operator ∧ Holds e behind b')
      (chain tokens operator join operand fuel start) := by
  refine hFirst.andThen ?_
  rintro e behind b' - hWithin ⟨hBehind, hHolds⟩
  have hMore : Agrees tokens b' behind _ (more tokens operator join operand fuel e behind) :=
    agrees_more hOperator (Nat.le_of_lt hBehind) hWithin (by omega) hHolds
  exact hMore.imp fun _ _ _ hLater hHolds => ⟨Nat.lt_of_lt_of_le hBehind hLater, hHolds⟩

end Chain

/-- A state with a tree behind the last OR. -/
def HoldsConjunction (ors : Option Tree) (outer : List Level) (e : Tree) (_ : Nat) (b : Build) :
    Prop :=
  b = ⟨⟨ors, some e⟩, outer, false⟩

/-- A state in which what has been read inside of outer levels is a tree, and no AND follows. -/
def HoldsExpression (tokens : List Token) (outer : List Level) (e : Tree) (behind : Nat)
    (b : Build) : Prop :=
  tokens[behind]? ≠ some .and ∧ ∃ level last, level.ands = some last ∧ level.close last = e ∧
    b = ⟨level, outer, false⟩

/-- A reader of expressions agrees with a state that has just been opened. -/
def AgreesInside (tokens : List Token) (inner : Nat → Answer) (pos : Nat) : Prop :=
  ∀ outer, Agrees tokens ⟨.start, outer, true⟩ pos (fun e behind b' => pos < behind ∧
    tokens[behind]? ≠ some .or ∧ HoldsExpression tokens outer e behind b') (inner pos)

/-- Behind an expression that no parenthesis closes, reading stops. -/
theorem HoldsExpression.complete_eq {outer : List Level} {e : Tree} {behind : Nat}
    (h : HoldsExpression tokens outer e behind b) (hOr : tokens[behind]? ≠ some .or)
    (hClosing : tokens[behind]? = some .closing → outer = []) :
    b.complete (tokens.drop behind) =
      if tokens.drop behind = [] ∧ outer = [] then .ok e
      else .error (if outer = [] then .trailingInput else .unbalanced) := by
  obtain ⟨hAnd, level, last, hLast, rfl, rfl⟩ := h
  rw [← List.head?_drop] at hAnd hOr hClosing
  exact complete_of_stopped hLast hAnd hOr hClosing

theorem agrees_operand {inner : Nat → Answer}
    (hInner : pos < tokens.length → AgreesInside tokens inner (pos + 1)) (level : Level)
    (outer : List Level) :
    Agrees tokens ⟨level, outer, true⟩ pos
      (fun e behind b' => pos < behind ∧ b' = ⟨level.operand e, outer, false⟩)
      (operand tokens inner pos) := by
  cases hToken : tokens[pos]? with
  | none =>
      have hEnd : tokens.drop pos = [] :=
        List.drop_eq_nil_iff.2 (List.getElem?_eq_none_iff.1 hToken)
      simp only [operand, hToken]
      exact .failed (by rw [hEnd]; rfl)
  | some token =>
      have hWithin : pos < tokens.length := (List.getElem?_eq_some_iff.1 hToken).1
      have hNone {e : Error} (hStep : Build.step ⟨level, outer, true⟩ token = .error e) :
          Build.complete ⟨level, outer, true⟩ (tokens.drop pos) = .error e := by
        rw [drop_of_getElem? hToken, complete_cons_error hStep]
      have hTaken {e : Tree}
          (hStep : Build.step ⟨level, outer, true⟩ token = .ok ⟨level.operand e, outer, false⟩) :
          Agrees tokens ⟨level, outer, true⟩ pos
            (fun e behind b' => pos < behind ∧ b' = ⟨level.operand e, outer, false⟩)
            (some (.ok (e, pos + 1))) :=
        .step hToken hStep (.taken (Nat.le_refl _) hWithin ⟨Nat.lt_succ_self pos, rfl⟩ rfl)
      simp only [operand, hToken]
      cases token with
      | tag text => exact hTaken rfl
      | folder text => exact hTaken rfl
      | and => exact .failed (hNone rfl)
      | or => exact .failed (hNone rfl)
      | closing => exact .failed (hNone rfl)
      | opening =>
          refine .step hToken rfl ((hInner hWithin (level :: outer)).andThen ?_)
          rintro e behind b' - - ⟨hBehind, hOr, hHolds⟩
          split
          · next hClosing =>
            obtain ⟨-, inside, last, hLast, rfl, rfl⟩ := hHolds
            have hStep : Build.step ⟨inside, level :: outer, false⟩ .closing =
                .ok ⟨level.operand (inside.close last), outer, false⟩ := by
              simp only [Build.step, hLast, Build.stepOperator]
            have hEnd : behind < tokens.length := (List.getElem?_eq_some_iff.1 hClosing).1
            exact .step hClosing hStep (.taken (Nat.le_refl _) hEnd ⟨by omega, rfl⟩ rfl)
          · next hOpen =>
            refine .failed ?_
            rw [hHolds.complete_eq hOr fun h => absurd h hOpen]
            simp

/-- A conjunction goes on as long as AND follows. -/
theorem agrees_conjunction {inner : Nat → Answer} {fuel : Nat}
    (hInner : ∀ pos, start ≤ pos → pos < tokens.length → AgreesInside tokens inner (pos + 1))
    (hFuel : tokens.length - start ≤ fuel) (ors : Option Tree) (outer : List Level) :
    Agrees tokens ⟨⟨ors, none⟩, outer, true⟩ start
      (fun e behind b' => start < behind ∧ tokens[behind]? ≠ some .and ∧
        HoldsConjunction ors outer e behind b')
      (chain tokens .and .and (operand tokens inner) fuel start) := by
  refine agrees_chain ?_ hFuel (agrees_operand (hInner start (Nat.le_refl start)) _ outer)
  rintro left pos b hStart rfl hNext
  have hRight :=
    agrees_operand (hInner (pos + 1) (Nat.le_succ_of_le hStart)) ⟨ors, some left⟩ outer
  refine .step hNext rfl (hRight.imp ?_)
  rintro right behind b' - ⟨hBehind, rfl⟩
  exact ⟨Nat.lt_of_succ_lt hBehind, rfl⟩

/-- An expression goes on as long as OR follows. Each inner expression needs less fuel. -/
theorem agrees_expression {fuel : Nat} (hFuel : tokens.length - start < fuel) :
    AgreesInside tokens (expression tokens fuel) start := by
  induction fuel generalizing start with
  | zero => exact absurd hFuel (Nat.not_lt_zero _)
  | succ fuel ih =>
      intro outer
      have hInner (pos : Nat) (hStart : start ≤ pos) : ∀ p, pos ≤ p → p < tokens.length →
          AgreesInside tokens (expression tokens fuel) (p + 1) :=
        fun p _ _ => ih (by omega)
      have hFuel (pos : Nat) (hStart : start ≤ pos) : tokens.length - pos ≤ fuel := by omega
      have hConjunction (pos : Nat) (hStart : start ≤ pos) (ors : Option Tree) :=
        agrees_conjunction (hInner pos hStart) (hFuel pos hStart) ors outer
      have hFirst := hConjunction start (Nat.le_refl start) none
      refine agrees_chain ?_ (hFuel start (Nat.le_refl start)) (hFirst.imp ?_)
      · rintro left pos b hStart ⟨hAnd, level, last, hLast, rfl, rfl⟩ hNext
        have hStep : Build.step ⟨level, outer, false⟩ .or =
            .ok ⟨⟨some (level.close last), none⟩, outer, true⟩ := by
          simp only [Build.step, hLast, Build.stepOperator]
        refine .step hNext hStep ((hConjunction (pos + 1) (by omega) _).imp ?_)
        rintro right behind b' - ⟨hBehind, hAnd, rfl⟩
        exact ⟨Nat.lt_of_succ_lt hBehind, hAnd, _, right, rfl, rfl, rfl⟩
      · rintro e behind b' - ⟨hBehind, hAnd, rfl⟩
        exact ⟨hBehind, hAnd, _, e, rfl, rfl, rfl⟩

/-- With fuel for one more than all tokens, reading by descent ends, and it gives the tree or the
error that reading token by token gives. -/
theorem tree?_eq_ofTokens (tokens : List Token) :
    tree? tokens (tokens.length + 1) = some (ofTokens tokens) := by
  have hAll : ofTokens tokens = Build.complete ⟨.start, [], true⟩ (tokens.drop 0) := rfl
  have hInside : AgreesInside tokens (expression tokens (tokens.length + 1)) 0 :=
    agrees_expression (Nat.lt_succ_self tokens.length)
  have hExpression := hInside []
  rw [tree?, hAll]
  generalize expression tokens (tokens.length + 1) 0 = answer at hExpression
  cases hExpression with
  | failed h => rw [h]
  | @taken e behind b' hBehind hWithin hHolds h =>
      obtain ⟨-, hOr, hHolds⟩ := hHolds
      have hClosing : tokens[behind]? = some .closing → ([] : List Level) = [] := fun _ => rfl
      rw [h, hHolds.complete_eq hOr hClosing]
      by_cases hEnd : behind = tokens.length
      · simp [hEnd]
      · have hMore : ¬tokens.length ≤ behind := by omega
        simp [hEnd, hMore]

end Descent
end NoteBoard.Query
