/-!
Powers of two and of ten, and the range of whole numbers that a word of 64 bits holds.
-/

namespace NoteBoard

/-- Two to the power of `n`. -/
def twoTo (n : Nat) : Nat := Nat.pow 2 n

/-- Ten to the power of `n`. -/
def tenTo (n : Nat) : Nat := Nat.pow 10 n

/-- Whether a whole number fits in 64 bits with a sign. -/
def fitsSigned64 (n : Int) : Bool :=
  decide (-(twoTo 63 : Int) ≤ n ∧ n < (twoTo 63 : Int))

theorem tenTo_pos (n : Nat) : 0 < tenTo n := Nat.pow_pos (by decide)

theorem twoTo_pos (n : Nat) : 0 < twoTo n := Nat.pow_pos (by decide)

end NoteBoard
