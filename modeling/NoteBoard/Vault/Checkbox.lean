import NoteBoard.Text.Blank
import NoteBoard.Text.Digit

/-!
Checkbox items: lines with a bullet or a number, and a mark in brackets.
-/

namespace NoteBoard

/-- A checkbox line, taken apart at its mark. -/
structure Checkbox where
  before : List Char
  mark : Char
  after : List Char
deriving DecidableEq

namespace Checkbox

/-- What follows the bullet or the number with its point or parenthesis. -/
def afterBullet? (text : List Char) : Option (List Char) :=
  match text with
  | [] => none
  | c :: rest =>
    if c = '-' ∨ c = '*' ∨ c = '+' then some rest
    else if Text.isDecimalDigit c then
      match rest.dropWhile Text.isDecimalDigit with
      | d :: rest => if d = '.' ∨ d = ')' then some rest else none
      | [] => none
    else none

/-- What follows white space and an opening bracket. -/
def afterBracket? (text : List Char) : Option (List Char) :=
  match text with
  | c :: rest =>
    if Text.isBlank c then
      match rest.dropWhile Text.isBlank with
      | '[' :: rest => some rest
      | _ => none
    else none
  | [] => none

/-- Takes a line apart, if it is a checkbox item: after white space a bullet, white space again,
and any one character in brackets; no line break may follow. -/
def ofLine? (line : List Char) : Option Checkbox := do
  let marked ← afterBracket? (← afterBullet? (line.dropWhile Text.isBlank))
  match marked with
  | mark :: ']' :: rest =>
    if mark ≠ ']' ∧ '\n' ∉ rest then
      return ⟨line.take (line.length - marked.length), mark, ']' :: rest⟩
    else none
  | _ => none

def line (b : Checkbox) : List Char :=
  b.before ++ b.mark :: b.after

/-- Whether the item is done. -/
def isChecked (b : Checkbox) : Bool :=
  b.mark != ' '

/-- The item with its mark flipped: a blank becomes an x, and any other mark a blank. -/
def toggle (b : Checkbox) : Checkbox :=
  { b with mark := if b.mark = ' ' then 'x' else ' ' }

end Checkbox
end NoteBoard
