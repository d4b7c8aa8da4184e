import NoteBoard.Query.Tree

/-!
Queries read by descent. An expression takes conjunctions off the tokens, these take operands, and
an operand can be an expression in parentheses. They share a cursor, the position of the next token.
Fuel bounds how deep they go and how often they go on.
-/

namespace NoteBoard.Query
namespace Descent

/-- A tree and the position behind its tokens, or why there is none. There is no answer at all
where the fuel is used up. -/
abbrev Answer := Option (Except Error (Tree × Nat))

/-- Goes on behind a tree. -/
def Answer.andThen (answer : Answer) (next : Tree → Nat → Answer) : Answer :=
  match answer with
  | some (.ok (e, pos)) => next e pos
  | some (.error e) => some (.error e)
  | none => none

variable (tokens : List Token)

/-- Takes further operands, as long as the operator stands before them. -/
def more (operator : Token) (join : Tree → Tree → Tree) (operand : Nat → Answer) :
    Nat → Tree → Nat → Answer
  | 0, _, _ => none
  | fuel + 1, left, pos =>
    if tokens[pos]? = some operator then
      (operand (pos + 1)).andThen fun right pos =>
        more operator join operand fuel (join left right) pos
    else some (.ok (left, pos))

/-- Takes operands with the operator between each two, and groups them to the left. -/
def chain (operator : Token) (join : Tree → Tree → Tree) (operand : Nat → Answer) (fuel pos : Nat) :
    Answer :=
  (operand pos).andThen (more tokens operator join operand fuel)

/-- Takes a tag, a folder, or an inner expression and the parentheses around it. -/
def operand (inner : Nat → Answer) (pos : Nat) : Answer :=
  match tokens[pos]? with
  | some (.tag text) => some (.ok (.tag text, pos + 1))
  | some (.folder text) => some (.ok (.folder text, pos + 1))
  | some .opening => (inner (pos + 1)).andThen fun e pos =>
    if tokens[pos]? = some .closing then some (.ok (e, pos + 1)) else some (.error .unbalanced)
  | some token => some (.error (.unexpectedToken token))
  | none => some (.error .endsEarly)

/-- Takes conjunctions with OR between each two. -/
def expression : Nat → Nat → Answer
  | 0, _ => none
  | fuel + 1, pos =>
    let conjunction := chain tokens .and .and (operand tokens (expression fuel)) fuel
    chain tokens .or .or conjunction fuel pos

/-- The tree of all tokens, if there is fuel enough. -/
def tree? (fuel : Nat) : Option (Except Error Tree) :=
  match expression tokens fuel 0 with
  | some (.ok (e, pos)) =>
    some (if pos = tokens.length then .ok e else .error .trailingInput)
  | some (.error e) => some (.error e)
  | none => none

end Descent
end NoteBoard.Query
