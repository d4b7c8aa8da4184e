import NoteBoard.Number.Numeral

/-!
Exact numbers: the rationals with two infinities and a value that is not a number. Sums, products
and quotients of finite numbers are never rounded. Zero has no sign.
-/

namespace NoteBoard

/-- A rational number, an infinity, or what is not a number. -/
inductive Exact where
  | finite (value : Rat)
  | infinite (negative : Bool)
  | undefined
deriving DecidableEq

namespace Exact

def isNaN : Exact → Bool
  | .undefined => true
  | _ => false

def isFinite : Exact → Bool
  | .finite _ => true
  | _ => false

/-- Below zero. -/
def isNegative : Exact → Bool
  | .finite a => decide (a < 0)
  | .infinite negative => negative
  | .undefined => false

/-- The infinity on one side, unless it is zero that is stretched. -/
def stretched (a : Exact) (negative : Bool) : Exact :=
  match a with
  | .finite a => if a = 0 then .undefined else .infinite (decide (a < 0) != negative)
  | .infinite other => .infinite (other != negative)
  | .undefined => .undefined

def add : Exact → Exact → Exact
  | .finite a, .finite b => .finite (a + b)
  | .finite _, .infinite n => .infinite n
  | .infinite n, .finite _ => .infinite n
  | .infinite m, .infinite n => if m = n then .infinite m else .undefined
  | _, _ => .undefined

def neg : Exact → Exact
  | .finite a => .finite (-a)
  | .infinite n => .infinite (!n)
  | .undefined => .undefined

def mul : Exact → Exact → Exact
  | .finite a, .finite b => .finite (a * b)
  | a, .infinite n => a.stretched n
  | .infinite n, b => b.stretched n
  | _, _ => .undefined

/-- A finite number over an infinite one is zero, and one that is not zero over zero is
infinite. -/
def div : Exact → Exact → Exact
  | .finite a, .finite b =>
    if b = 0 then stretched (.finite a) false else .finite (a / b)
  | .finite _, .infinite _ => .finite 0
  | .infinite n, .finite b => .infinite (n != decide (b < 0))
  | _, _ => .undefined

/-- Below, which what is not a number neither is nor has. -/
protected def lt : Exact → Exact → Prop
  | .finite a, .finite b => a < b
  | .finite _, .infinite n => n = false
  | .infinite n, .finite _ => n = true
  | .infinite m, .infinite n => m = true ∧ n = false
  | _, _ => False

/-- Equal numbers; what is not a number does not equal itself. -/
def eqv (a b : Exact) : Bool :=
  !a.isNaN && decide (a = b)

instance : LT Exact := ⟨Exact.lt⟩

instance : LE Exact := ⟨fun a b => Exact.lt a b ∨ a.eqv b⟩

instance decidableLT : (a b : Exact) → Decidable (a < b)
  | .finite a, .finite b => inferInstanceAs (Decidable (a < b))
  | .finite _, .infinite n => inferInstanceAs (Decidable (n = false))
  | .infinite n, .finite _ => inferInstanceAs (Decidable (n = true))
  | .infinite m, .infinite n => inferInstanceAs (Decidable (m = true ∧ n = false))
  | .undefined, .finite _ | .undefined, .infinite _ | .undefined, .undefined
  | .finite _, .undefined | .infinite _, .undefined => inferInstanceAs (Decidable False)

instance decidableLE (a b : Exact) : Decidable (a ≤ b) :=
  inferInstanceAs (Decidable (a < b ∨ a.eqv b))

/-- A whole number computed from a finite one. -/
def mapWhole (f : Rat → Int) : Exact → Exact
  | .finite a => .finite (f a)
  | a => a

/-- The nearest whole number; a half goes away from zero. -/
def nearestWhole (a : Rat) : Int :=
  if a < 0 then -(1 / 2 - a).floor else (a + 1 / 2).floor

/-- The order by size; what is not a number comes last. -/
def totalOrder (a b : Exact) : Ordering :=
  if a < b then .lt
  else if b < a then .gt
  else compare a.isNaN.toNat b.isNaN.toNat

/-- The exact size of a finite number, as a quotient. -/
def size? : Exact → Option (Nat × Nat)
  | .finite a => some (a.num.natAbs, a.den)
  | _ => none

/-- A number of seventeen digits near a size. -/
def shortest (tie : Tie) (a : Exact) : Decimal :=
  match a.size? with
  | some (num, den) =>
    if num = 0 then ⟨0, 0⟩
    else (Decimal.nearest tie num den (Decimal.leadingPlace num den - 16)).strip
  | none => ⟨0, 0⟩

/-- The number that a decimal writes. -/
def ofDecimal (negative : Bool) (d : Decimal) : Exact :=
  let size : Rat := d.digits * tenTo d.exponent.toNat / tenTo (-d.exponent).toNat
  .finite (if negative then -size else size)

instance : Numeral Exact where
  add := add
  sub a b := add a (neg b)
  mul := mul
  div := div
  neg := neg
  beq := eqv
  lt := Exact.lt
  le a b := Exact.lt a b ∨ a.eqv b
  ofNat n := .finite n
  ofInt n := .finite n
  isNaN := isNaN
  isFinite := isFinite
  floor := mapWhole Rat.floor
  round := mapWhole nearestWhole
  totalOrder := totalOrder
  decidableLT := decidableLT
  decidableLE := decidableLE
  isNegative := isNegative
  size? := size?
  shortest := shortest
  ofDecimal := ofDecimal

@[simp] theorem finite_add (a b : Rat) : Exact.finite a + .finite b = .finite (a + b) := rfl

@[simp] theorem finite_sub (a b : Rat) : Exact.finite a - .finite b = .finite (a - b) := by
  rw [Rat.sub_eq_add_neg]; rfl

@[simp] theorem finite_mul (a b : Rat) : Exact.finite a * .finite b = .finite (a * b) := rfl

theorem finite_div (a : Rat) {b : Rat} (h : b ≠ 0) :
    Exact.finite a / .finite b = .finite (a / b) :=
  if_neg h

@[simp] theorem finite_lt {a b : Rat} : Exact.finite a < .finite b ↔ a < b := Iff.rfl

@[simp] theorem finite_le {a b : Rat} : Exact.finite a ≤ .finite b ↔ a ≤ b := by
  show a < b ∨ eqv (.finite a) (.finite b) = true ↔ a ≤ b
  simp [eqv, isNaN, Rat.le_iff_lt_or_eq]

end Exact
end NoteBoard
