import NoteBoard.Number.Basic
import NoteBoard.Number.Decimal

/-!
Numbers with decimal text: how a number is written in plain, signed and document form, and how
numerals are read.
-/

namespace NoteBoard

/-- Numbers that can be taken apart into sign and size, and made from a decimal. -/
class Numeral (K : Type) extends Number K where
  /-- The sign, which zero has too. -/
  isNegative : K → Bool
  /-- The exact size of a finite number, as a quotient. -/
  size? : K → Option (Nat × Nat)
  /-- The shortest decimal that reads back as the size of a finite number. -/
  shortest : Tie → K → Decimal
  /-- The number nearest to a decimal, negated if asked. -/
  ofDecimal : Bool → Decimal → K

namespace Numeral

/-- The decimal digits of a natural number, with zeros in front up to the width `least`. -/
def digits (least n : Nat) : List Char :=
  let text := Nat.toDigits 10 n
  List.replicate (least - text.length) '0' ++ text

/-- A point before the last `places` digits. -/
def pointed (places : Nat) (text : List Char) : List Char :=
  let whole := text.length - places
  text.take whole ++ '.' :: text.drop whole

/-- Positional notation without an exponent, and without a point for a whole number. -/
def positional (d : Decimal) : List Char :=
  match d.exponent with
  | .ofNat zeros => Nat.toDigits 10 (d.digits * tenTo zeros)
  | .negSucc k => pointed (k + 1) (digits (k + 2) d.digits)

/-- Notation with an exponent that always has a sign. -/
def scientific (d : Decimal) : List Char :=
  let text := Nat.toDigits 10 d.digits
  let lead := d.exponent + text.length - 1
  let mantissa := if text.length = 1 then text else pointed (text.length - 1) text
  let sign := if lead < 0 then '-' else '+'
  mantissa ++ 'e' :: sign :: Nat.toDigits 10 lead.natAbs

/-- The document form of a size: positional with a point for leading places `-5` to `15`, else
with an exponent. -/
def documentForm (d : Decimal) : List Char :=
  let lead := d.exponent + Decimal.width d.digits - 1
  if d.digits = 0 then ['0', '.', '0']
  else if -5 ≤ lead ∧ lead ≤ 15 then
    if 0 ≤ d.exponent then positional d ++ ['.', '0'] else positional d
  else scientific d

variable {K : Type} [Numeral K]

/-- A minus for negative numbers. -/
def sign (x : K) : List Char :=
  if Numeral.isNegative x then ['-'] else []

/-- The text of a number for people: positional, however long, with the fewest digits that read
back. -/
def plain (x : K) : String :=
  if Number.isNaN x then "NaN"
  else if Number.isFinite x then String.ofList (sign x ++ positional (Numeral.shortest .up x))
  else String.ofList (sign x ++ "inf".toList)

/-- The text of a number in documents; what is not finite has none. -/
def documentText? (x : K) : Option String :=
  if Number.isFinite x then
    some (String.ofList (sign x ++ documentForm (Numeral.shortest .toEven x)))
  else none

/-- Signed text with a fixed count of decimal places; a tie goes to the even neighbour. -/
def signedFixed (places : Nat) (x : K) : String :=
  let sign := if Numeral.isNegative x then '-' else '+'
  match Numeral.size? x with
  | some (num, den) =>
    let scaled := Decimal.roundDiv .toEven (num * tenTo places) den
    String.ofList (sign :: pointed places (digits (places + 1) scaled))
  | none => if Number.isNaN x then "NaN" else String.ofList (sign :: "inf".toList)

/-- Signed text of a difference: without places for whole numbers below `10 ^ 15`, else with
two. -/
def signed (x : K) : String :=
  match Numeral.size? x with
  | some (num, den) =>
    if num % den = 0 ∧ num / den < tenTo 15 then
      let sign := if Numeral.isNegative x && num != 0 then '-' else '+'
      String.ofList (sign :: Nat.toDigits 10 (num / den))
    else signedFixed 2 x
  | none => signedFixed 2 x

/-- The number that decimal digits denote. -/
def ofDigits (text : List Char) : Nat :=
  text.foldl (fun n c => 10 * n + (c.toNat - '0'.toNat)) 0

/-- The exponent part of a numeral: nothing, or `e`, an optional sign and digits. -/
def exponent? (text : List Char) : Option Int :=
  let ofText (ds : List Char) : Option Nat :=
    if ds.isEmpty || !ds.all Char.isDigit then none else some (ofDigits ds)
  match text with
  | [] => some 0
  | e :: rest =>
    if e.toLower != 'e' then none
    else match rest with
      | '-' :: ds => (ofText ds).map fun n => -(n : Int)
      | '+' :: ds => (ofText ds).map Int.ofNat
      | ds => (ofText ds).map Int.ofNat

/-- The decimal that a numeral without sign denotes: digits with at most one point, at least one
digit, and an optional exponent. -/
def unsigned? (text : List Char) : Option Decimal := do
  let whole := text.takeWhile Char.isDigit
  let rest := text.dropWhile Char.isDigit
  let (fraction, rest) := match rest with
    | '.' :: rest => (rest.takeWhile Char.isDigit, rest.dropWhile Char.isDigit)
    | rest => ([], rest)
  if whole.isEmpty && fraction.isEmpty then none
  else return ⟨ofDigits (whole ++ fraction), (← exponent? rest) - fraction.length⟩

/-- Reads a numeral: an optional sign, then digits or, in any case, one of the words for what is
not finite. -/
def read? (text : String) : Option K :=
  let (negative, body) := match text.toList with
    | '-' :: body => (true, body)
    | '+' :: body => (false, body)
    | body => (false, body)
  let word := String.ofList (body.map Char.toLower)
  let special : Option K :=
    if word = "inf" ∨ word = "infinity" then some (1 / 0)
    else if word = "nan" then some (0 / 0)
    else none
  match special with
  | some x => some (if negative then -x else x)
  | none => (unsigned? body).map (Numeral.ofDecimal negative)

end Numeral
end NoteBoard
