import NoteBoard.Json.Basic
import NoteBoard.Number.Numeral

/-!
The value of a JSON number literal. Whole numbers that fit in 64 bits stay whole. All others are
formed from the digits that fit in 64 bits and a power of ten, by one multiplication or division
of machine numbers, so their last digit may differ from the nearest number's.
-/

namespace NoteBoard.Json.Literal

/-- The largest significand. -/
def significandLimit : Nat := twoTo 64 - 1

/-- The largest power of ten applied at once. -/
def powerLimit : Nat := 308

/-- Takes digits into a significand while it stays in range; the count is of those left over. -/
def absorb (significand : Nat) : List Char → Nat × Nat
  | [] => (significand, 0)
  | c :: rest =>
    let next := 10 * significand + (c.toNat - '0'.toNat)
    if significandLimit < next then (significand, rest.length + 1) else absorb next rest

variable {K : Type} [Numeral K]

/-- Divides by a power of ten in steps; zero stays zero. -/
def scaleDown (x : K) (power : Nat) : K :=
  if power ≤ powerLimit then x / Numeral.ofDecimal false ⟨1, power⟩
  else if x == 0 then x
  else scaleDown (x / Numeral.ofDecimal false ⟨1, powerLimit⟩) (power - powerLimit)
termination_by power
decreasing_by simp [powerLimit] at *; omega

/-- `significand · 10 ^ exponent`, or `none` where that leaves the finite range. -/
def scale? (significand : Nat) (exponent : Int) : Option K :=
  let x : K := Number.ofNat significand
  match exponent with
  | .ofNat power =>
    if power ≤ powerLimit then
      let y := x * Numeral.ofDecimal false ⟨1, power⟩
      if Number.isFinite y then some y else none
    else if significand = 0 then some x else none
  | .negSucc k => some (scaleDown x (k + 1))

/-- The parts of a literal as written. -/
structure Parts where
  negative : Bool
  whole : List Char
  fraction : Option (List Char)
  exponent : Option (Bool × List Char)

/-- Digits and what follows them, if there is a digit at all. -/
def digits? (text : List Char) : Option (List Char × List Char) :=
  let ds := text.takeWhile Char.isDigit
  if ds.isEmpty then none else some (ds, text.dropWhile Char.isDigit)

/-- The whole digits of a literal: one zero, or digits that do not start with zero. -/
def whole? (text : List Char) : Option (List Char × List Char) := do
  let (ds, rest) ← digits? text
  if ds.head? = some '0' ∧ ds.length ≠ 1 then none else return (ds, rest)

/-- Takes a literal apart; `none` if it is not well formed. -/
def parts? (text : List Char) : Option Parts := do
  let (negative, rest) := match text with
    | '-' :: rest => (true, rest)
    | rest => (false, rest)
  let (whole, rest) ← whole? rest
  let (fraction, rest) ← match rest with
    | '.' :: rest => (digits? rest).map fun (ds, rest) => (some ds, rest)
    | rest => some (none, rest)
  match rest with
  | [] => return ⟨negative, whole, fraction, none⟩
  | e :: rest =>
    if e ≠ 'e' ∧ e ≠ 'E' then none
    else
      let (down, rest) := match rest with
        | '-' :: rest => (true, rest)
        | '+' :: rest => (false, rest)
        | rest => (false, rest)
      let (ds, rest) ← digits? rest
      if rest.isEmpty then return ⟨negative, whole, fraction, some (down, ds)⟩ else none

/-- The value of a literal with fraction or exponent, or with too many digits. Exponents beyond
31 bits make zero, or leave the range. -/
def real? (p : Parts) : Option K :=
  let (significand, left) := absorb 0 p.whole
  let fraction := p.fraction.getD []
  let (significand, unread) := absorb significand fraction
  let place : Int := left - (fraction.length - unread : Nat)
  let size : Option K := match p.exponent with
    | none => scale? significand place
    | some (down, ds) =>
      let power := Numeral.ofDigits ds
      if power < twoTo 31 then
        scale? significand (if down then place - power else place + power)
      else if significand ≠ 0 ∧ !down then none
      else some 0
  size.map fun x => if p.negative then -x else x

/-- The value of a literal. -/
def value (p : Parts) : Json K :=
  let real : Json K := match real? p with
    | some x => .real x
    | none => .unusable
  if p.fraction.isSome || p.exponent.isSome then real
  else
    let n := Numeral.ofDigits p.whole
    if p.negative then
      if 0 < n ∧ n ≤ twoTo 63 then .integer (-n) else real
    else if n ≤ significandLimit then .integer n else real

end NoteBoard.Json.Literal
