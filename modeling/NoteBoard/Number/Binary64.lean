import NoteBoard.Number.Numeral

/-!
The numbers of IEEE 754 binary64 as board numbers. Everything that is not one machine operation
is computed from the fields of the encoding in natural numbers.
-/

namespace NoteBoard
namespace Binary64

/-- The sign bit. -/
def isNegative (x : Float) : Bool :=
  x.toBits >>> 63 == 1

/-- The encoding without the sign bit; it grows with the size of the number. -/
def sizeBits (x : Float) : Nat :=
  (x.toBits &&& 0x7FFFFFFFFFFFFFFF).toNat

/-- Mantissa and exponent of a finite number's size `mantissa · 2 ^ exponent`. -/
def parts (x : Float) : Nat × Int :=
  let fraction := sizeBits x % twoTo 52
  match sizeBits x / twoTo 52 with
  | 0 => (fraction, -1074)
  | e + 1 => (twoTo 52 + fraction, (e : Int) - 1074)

/-- `n · 2 ^ exponent` as a quotient. -/
def scaled (n : Nat) (exponent : Int) : Nat × Nat :=
  (n * twoTo exponent.toNat, twoTo (-exponent).toNat)

/-- The exact size of a finite number. -/
def size? (x : Float) : Option (Nat × Nat) :=
  if x.isFinite then some (scaled (parts x).1 (parts x).2) else none

/-- The decimals that read back as the size of a finite number. They reach half way to either
neighbour, which below a power of two is half as far away, and include the ends where a tie goes
to this number's even mantissa. -/
def readsBack (x : Float) : Decimal.Interval :=
  let (m, e) := parts x
  let closeBelow := m == twoTo 52 && e != -1074
  let unit := scaled 1 (e - 2)
  ⟨(4 * m - if closeBelow then 1 else 2) * unit.1, (4 * m + 2) * unit.1, unit.2, m % 2 == 0⟩

/-- The shortest decimal that reads back as the size of a finite number. -/
def shortest (tie : Tie) (x : Float) : Decimal :=
  let (m, e) := parts x
  if m = 0 then ⟨0, 0⟩
  else
    let (num, den) := scaled m e
    (readsBack x).shortest tie num den

/-- The number nearest to a decimal. Leading places beyond `310` overflow and those below `-330`
vanish, so no power larger than that is formed. -/
def ofDecimal (negative : Bool) (d : Decimal) : Float :=
  let lead := d.exponent + Decimal.width d.digits
  let size : Float :=
    if d.digits = 0 ∨ lead < -330 then 0
    else if 310 < lead then 1 / 0
    else OfScientific.ofScientific d.digits (d.exponent < 0) d.exponent.natAbs
  if negative then -size else size

/-- A whole number with a given sign. -/
def ofSize (negative : Bool) (n : Nat) : Float :=
  if negative then -Float.ofNat n else Float.ofNat n

/-- Replaces the size of a finite number by a whole number computed from it; sizes with no
fraction stay. -/
def toWhole (whole : Nat → Nat → Nat) (x : Float) : Float :=
  match size? x with
  | some (num, den) => if num % den = 0 then x else ofSize (isNegative x) (whole num den)
  | none => x

/-- The largest whole number not above `x`. -/
def floor (x : Float) : Float :=
  toWhole (fun num den => if isNegative x then num / den + 1 else num / den) x

/-- The nearest whole number; a half goes away from zero. -/
def round (x : Float) : Float :=
  toWhole (Decimal.roundDiv .up) x

/-- The order of the encodings, negative ones reversed: it puts `-0` before `0` and the
non-numbers at the two ends. -/
def totalOrder (x y : Float) : Ordering :=
  let key (z : Float) : Int :=
    if isNegative z then -(sizeBits z : Int) - 1 else (sizeBits z : Int)
  compare (key x) (key y)

end Binary64

instance : Numeral Float where
  ofNat := Float.ofNat
  ofInt := Float.ofInt
  isNaN := Float.isNaN
  isFinite := Float.isFinite
  floor := Binary64.floor
  round := Binary64.round
  totalOrder := Binary64.totalOrder
  decidableLT := Float.decLt
  decidableLE := Float.decLe
  isNegative := Binary64.isNegative
  size? := Binary64.size?
  shortest := Binary64.shortest
  ofDecimal := Binary64.ofDecimal

end NoteBoard
