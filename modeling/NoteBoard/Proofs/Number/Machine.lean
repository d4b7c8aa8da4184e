import NoteBoard.Number.Binary64
import NoteBoard.Proofs.Number.Extended

/-! Machine numbers outside the finite range. What is computed is rounded, and then packed into 64
bits. A rounded number is finite, with an exponent that may be too large for these: packing can make
it infinite, but never one that is not a number. -/
namespace NoteBoard
namespace Binary64

open Float.Model Float.Model.UnpackedFloat

section Unpacked

theorem isNaN_of_isFinite {u : UnpackedFloat} (h : u.isFinite = true) : u.isNaN = false := by
  cases u with
  | notANumber => cases h
  | _ => rfl

theorem isFinite_roundWithAccuracy (spec : Format) (s : Sign) (m : Nat) (e : Int) (a : Accuracy) :
    (roundWithAccuracy spec s m e a).isFinite = true := by
  unfold roundWithAccuracy
  dsimp only
  split <;> rfl

theorem isFinite_normalize (spec : Format) (m e : Int) (s : Sign) :
    (UnpackedFloat.normalize spec m e s).isFinite = true := by
  unfold UnpackedFloat.normalize
  split
  · exact isFinite_roundWithAccuracy ..
  · rfl
  · exact isFinite_roundWithAccuracy ..

/-- Where one summand is finite, a sum is not a number only because of the other one. -/
theorem isNaN_add {u v : UnpackedFloat} (spec : Format)
    (h : u.isFinite = true ∨ v.isFinite = true) :
    (UnpackedFloat.add spec u v).isNaN = (u.isNaN || v.isNaN) := by
  cases u with
  | notANumber => rfl
  | infinity s =>
      cases v with
      | infinity t => cases h <;> contradiction
      | _ => rfl
  | zero s =>
      cases v with
      | zero t => cases s <;> cases t <;> rfl
      | _ => rfl
  | finite s m e hm =>
      cases v with
      | finite t n f hn => exact isNaN_of_isFinite (isFinite_normalize ..)
      | _ => rfl

theorem isNaN_sub {u v : UnpackedFloat} (spec : Format)
    (h : u.isFinite = true ∨ v.isFinite = true) :
    (UnpackedFloat.sub spec u v).isNaN = (u.isNaN || v.isNaN) := by
  cases u with
  | notANumber => rfl
  | infinity s =>
      cases v with
      | infinity t => cases h <;> contradiction
      | _ => rfl
  | zero s =>
      cases v with
      | zero t => cases s <;> cases t <;> rfl
      | _ => rfl
  | finite s m e hm =>
      cases v with
      | finite t n f hn => exact isNaN_of_isFinite (isFinite_normalize ..)
      | _ => rfl

theorem add_infinity {u : UnpackedFloat} (spec : Format) (hu : u.isFinite = true) (s : Sign) :
    UnpackedFloat.add spec u (.infinity s) = .infinity s := by
  cases u with
  | notANumber => cases hu
  | infinity t => cases hu
  | _ => rfl

/-- A quotient of finite numbers is a number, unless that is divided by is zero. -/
theorem isNaN_div {u v : UnpackedFloat} (spec : Format) (hu : u.isFinite = true)
    (hv : v.isFinite = true) (hZero : ∀ s, v ≠ .zero s) :
    (UnpackedFloat.div spec u v).isNaN = false := by
  cases v with
  | notANumber => cases hv
  | infinity s => cases hv
  | zero s => exact absurd rfl (hZero s)
  | finite s m e hm =>
      cases u with
      | notANumber => cases hu
      | infinity t => cases hu
      | zero t => rfl
      | finite t n f hn => exact isNaN_of_isFinite (isFinite_roundWithAccuracy ..)

/-- What is divided by a positive number was not a number before, or both are infinite. -/
theorem isNaN_div_of_pos (spec : Format) (u : UnpackedFloat) {v : UnpackedFloat}
    (hv : (UnpackedFloat.zero .positive).lt v = true) :
    (UnpackedFloat.div spec u v).isNaN = (u.isNaN || !u.isFinite && !v.isFinite) := by
  cases v with
  | notANumber => cases hv
  | zero t => cases hv
  | infinity t => cases u <;> rfl
  | finite t n f hn =>
      cases u with
      | finite s m e hm => exact isNaN_of_isFinite (isFinite_roundWithAccuracy ..)
      | _ => rfl

theorem isNaN_mul_finite (spec : Format) (u : UnpackedFloat) (s : Sign) (m : Nat) (e : Int)
    (hm : 0 < m) : (UnpackedFloat.mul spec u (.finite s m e hm)).isNaN = u.isNaN := by
  cases u with
  | finite t n f hn => exact isNaN_of_isFinite (isFinite_roundWithAccuracy ..)
  | _ => rfl

theorem isNaN_ofScientific (spec : Format) (m : Nat) (e : Int) :
    (UnpackedFloat.ofScientific spec m e).isNaN = false := by
  unfold UnpackedFloat.ofScientific
  split
  · rfl
  split
  · rfl
  split
  · rfl
  split
  · exact isNaN_mul_finite ..
  · exact isNaN_of_isFinite (isFinite_roundWithAccuracy ..)

theorem not_lt_notANumber (u : UnpackedFloat) :
    u.lt .notANumber = false ∧ UnpackedFloat.lt .notANumber u = false := by
  cases u <;> exact ⟨rfl, rfl⟩

theorem not_infinity_lt (u : UnpackedFloat) : UnpackedFloat.lt (.infinity .positive) u = false := by
  cases u with
  | infinity s => cases s <;> rfl
  | _ => rfl

theorem lt_infinity {u : UnpackedFloat} (hu : u.isFinite = true) :
    u.lt (.infinity .positive) = true ∧ UnpackedFloat.lt (.infinity .negative) u = true ∧
      u.lt (.infinity .negative) = false := by
  cases u with
  | notANumber => cases hu
  | infinity s => cases hu
  | zero s => exact ⟨rfl, rfl, rfl⟩
  | finite s m e hm => cases s <;> exact ⟨rfl, rfl, rfl⟩

theorem le_of_lt {u v : UnpackedFloat} (h : u.lt v = true) : u.le v = true := by
  rw [UnpackedFloat.lt, beq_iff_eq] at h
  rw [UnpackedFloat.le, h]
  rfl

theorem le_self {u : UnpackedFloat} (hu : u.isFinite = true) : u.le u = true := by
  cases u with
  | notANumber => cases hu
  | infinity s => cases hu
  | zero s => rfl
  | finite s m e hm => cases s <;> simp [UnpackedFloat.le, UnpackedFloat.compare]

/-- What lies between finite numbers is finite. -/
theorem isFinite_of_lt_of_lt {u v w : UnpackedFloat} (hu : u.isFinite = true) (huv : u.lt v = true)
    (hvw : v.lt w = true) : v.isFinite = true := by
  cases v with
  | notANumber => simp [not_lt_notANumber] at huv
  | infinity s =>
      cases s with
      | negative => simp [lt_infinity hu] at huv
      | positive => simp [not_infinity_lt] at hvw
  | _ => rfl

theorem not_lt_self (u : UnpackedFloat) : u.lt u = false := by
  cases u with
  | infinity s => cases s <;> rfl
  | finite s m e hm => cases s <;> simp [UnpackedFloat.lt, UnpackedFloat.compare]
  | _ => rfl

theorem compare_swap (u v : UnpackedFloat) :
    UnpackedFloat.compare v u = (UnpackedFloat.compare u v).map Ordering.swap := by
  have hFinite (m n : Nat) (e f : Int) :
      (compare f e).then (compare n m) = ((compare e f).then (compare m n)).swap := by
    rw [Ordering.swap_then, Int.compare_swap, Nat.compare_swap]
  rcases u with (_ | _) | _ | s | ⟨(_ | _), m, e, hm⟩ <;>
    rcases v with (_ | _) | _ | t | ⟨(_ | _), n, f, hn⟩ <;> try rfl
  · exact congrArg (some ∘ Ordering.swap) (hFinite m n e f)
  · exact congrArg some (hFinite m n e f)

/-- All that are numbers are comparable. -/
theorem exists_compare {u v : UnpackedFloat} (hu : u.isNaN = false) (hv : v.isNaN = false) :
    ∃ o, UnpackedFloat.compare u v = some o := by
  rcases u with (_ | _) | _ | s | ⟨(_ | _), m, e, hm⟩ <;>
    rcases v with (_ | _) | _ | t | ⟨(_ | _), n, f, hn⟩ <;>
    first | exact ⟨_, rfl⟩ | exact Bool.noConfusion hu | exact Bool.noConfusion hv

theorem lt_eq_false_iff {u v : UnpackedFloat} (hu : u.isNaN = false) (hv : v.isNaN = false) :
    u.lt v = false ↔ v.le u = true := by
  obtain ⟨o, ho⟩ := exists_compare hu hv
  rw [UnpackedFloat.lt, UnpackedFloat.le, compare_swap u v, ho]
  cases o <;> decide

theorem isNaN_of_le {u v : UnpackedFloat} (h : u.le v = true) :
    u.isNaN = false ∧ v.isNaN = false := by
  cases u <;> cases v <;> first | exact ⟨rfl, rfl⟩ | cases h

theorem isFinite_unpack {b : BitVec Format.binary64.numBits} (h : unpackExponent b ≠ -1#_) :
    (UnpackedFloat.unpack .binary64 b).isFinite = true := by
  unfold UnpackedFloat.unpack
  dsimp only
  rw [if_neg h]
  split
  · split <;> rfl
  · rfl

/-- A finite number is packed as one, or as an infinite one if its exponent does not fit. -/
theorem pack_finite (s : Sign) (m : Nat) (e : Int) (hm : 0 < m) :
    let b := UnpackedFloat.pack .binary64 (.finite s m e hm)
    unpackExponent b ≠ -1#_ ∨ 971 < e ∧ b = packedInfinity .binary64 s := by
  have hBias : (e + Format.binary64.exponentBias +
      Format.binary64.mantissaBitsWithoutImplicit).toNat = (e + 1075).toNat := by
    show (e + (2 ^ (11 - 1) - 1 : Nat) + (52 : Nat)).toNat = (e + 1075).toNat
    omega
  simp only [UnpackedFloat.pack, hBias]
  split
  · next hLarge => exact .inr ⟨by omega, rfl⟩
  · next hFits =>
    left
    split
    · rw [unpackExponent_packComponents]
      intro hSame
      have hNat := congrArg BitVec.toNat hSame
      simp at hNat
      omega
    · rw [unpackExponent_packComponents]
      decide

theorem unpack_pack_infinity (s : Sign) :
    UnpackedFloat.unpack .binary64 (UnpackedFloat.pack .binary64 (.infinity s)) = .infinity s := by
  cases s <;> rfl

theorem isFinite_unpack_pack (s : Sign) (m : Nat) {e : Int} (hm : 0 < m) (he : e ≤ 971) :
    (UnpackedFloat.unpack .binary64
      (UnpackedFloat.pack .binary64 (.finite s m e hm))).isFinite = true :=
  isFinite_unpack ((pack_finite s m e hm).resolve_right fun h => by omega)

theorem isNaN_unpack_pack (u : UnpackedFloat) :
    (UnpackedFloat.unpack .binary64 (UnpackedFloat.pack .binary64 u)).isNaN = u.isNaN := by
  cases u with
  | notANumber => rfl
  | infinity s => cases s <;> rfl
  | zero s => cases s <;> rfl
  | finite s m e hm =>
      rcases pack_finite s m e hm with hExponent | ⟨-, hPacked⟩
      · exact isNaN_of_isFinite (isFinite_unpack hExponent)
      · rw [hPacked]
        cases s <;> rfl

/-- The exponents of numbers that were unpacked fit. -/
theorem exponent_le {b : BitVec Format.binary64.numBits} {s : Sign} {m : Nat} {e : Int} {hm : 0 < m}
    (h : UnpackedFloat.unpack .binary64 b = .finite s m e hm) : e ≤ 971 := by
  have hField : (unpackExponent b).toNat < 2 ^ 11 := (unpackExponent b).isLt
  have hBias : ((Format.binary64.exponentBias : Nat) : Int) = 1023 := rfl
  have hBits : ((Format.binary64.mantissaBitsWithoutImplicit : Nat) : Int) = 52 := rfl
  unfold UnpackedFloat.unpack at h
  dsimp only at h
  split at h
  · split at h <;> cases h
  · next hNot =>
    have hNe : (unpackExponent b).toNat ≠ 2 ^ 11 - 1 := fun hSame =>
      hNot (BitVec.eq_of_toNat_eq hSame)
    split at h
    · split at h
      · cases h
      · next hZero _ =>
        cases h
        rw [hZero]
        decide
    · cases h
      rw [hBias, hBits]
      omega

end Unpacked

/-- A machine number taken apart. -/
def unpacked (x : Float) : UnpackedFloat := x.toModel.unpack

theorem isFinite_iff {x : Float} : Number.isFinite x = true ↔ (unpacked x).isFinite = true :=
  Iff.rfl

theorem isNaN_iff_unpacked {x : Float} : Number.isNaN x = true ↔ unpacked x = .notANumber :=
  UnpackedFloat.isNaN_iff

theorem lt_iff {x y : Float} : x < y ↔ (unpacked x).lt (unpacked y) = true :=
  decide_eq_true_iff

theorem le_iff {x y : Float} : x ≤ y ↔ (unpacked x).le (unpacked y) = true :=
  decide_eq_true_iff

theorem unpacked_zero : unpacked (Number.ofNat 0) = .zero .positive := by
  rfl

theorem isOver_iff {x : Float} : Number.IsOver x ↔ unpacked x = .infinity .positive := by
  change (unpacked x).isFinite = false ∧ (Number.ofNat 0 : Float) < x ↔ _
  rw [lt_iff, unpacked_zero]
  cases unpacked x with
  | infinity s => cases s <;> simp [UnpackedFloat.isFinite, UnpackedFloat.lt, UnpackedFloat.compare]
  | _ => simp [UnpackedFloat.isFinite, UnpackedFloat.lt, UnpackedFloat.compare]

theorem unpacked_add (x y : Float) : unpacked (x + y) = UnpackedFloat.unpack .binary64
    (UnpackedFloat.pack .binary64 (UnpackedFloat.add .binary64 (unpacked x) (unpacked y))) := rfl

theorem isNaN_neg (x : Float) : (-x).isNaN = x.isNaN := by
  change (UnpackedFloat.unpack .binary64 (UnpackedFloat.pack .binary64 (unpacked x).neg)).isNaN =
    (unpacked x).isNaN
  rw [isNaN_unpack_pack]
  cases unpacked x <;> rfl

theorem isNaN_ofNat (n : Nat) : (Float.ofNat n).isNaN = false := by
  change (Float.ofScientific n false 0).isNaN = false
  unfold Float.ofScientific
  split
  · have hOne : unpacked Float.exactlyRepresentablePowersOfTen[0] =
        .finite .positive (2 ^ 52) (-52) (by decide) := rfl
    change (UnpackedFloat.unpack .binary64 (UnpackedFloat.pack .binary64 (UnpackedFloat.mul .binary64
      (unpacked n.toUInt64.toFloat)
      (unpacked Float.exactlyRepresentablePowersOfTen[0])))).isNaN = false
    rw [isNaN_unpack_pack, hOne, isNaN_mul_finite]
    exact (isNaN_unpack_pack _).trans (isNaN_of_isFinite (isFinite_normalize ..))
  · exact (isNaN_unpack_pack _).trans (isNaN_ofScientific ..)

theorem isNaN_round (x : Float) : (round x).isNaN = x.isNaN := by
  unfold round toWhole
  split
  · next num den hSize =>
    split
    · rfl
    · have hFinite : x.isFinite = true := by
        by_contra hNot
        simp [size?, hNot] at hSize
      rw [show x.isNaN = false from isNaN_of_isFinite hFinite, ofSize]
      split
      · rw [isNaN_neg, isNaN_ofNat]
      · exact isNaN_ofNat _
  · rfl

instance : Number.Extended Float where
  isFinite_zero := by decide +kernel
  isFinite_one := by decide +kernel
  isNaN_of_isFinite := isNaN_of_isFinite
  le_of_lt := fun h => le_iff.2 (le_of_lt (lt_iff.1 h))
  le_self := fun h => le_iff.2 (le_self h)
  isFinite_of_lt_of_lt := fun ha hax hxb => isFinite_of_lt_of_lt ha (lt_iff.1 hax) (lt_iff.1 hxb)
  not_lt_of_isNaN := by
    intro x a hx
    rw [lt_iff, lt_iff, isNaN_iff_unpacked.1 hx]
    simp [not_lt_notANumber]
  lt_of_isOver := by
    intro a x ha hx
    rw [lt_iff, isOver_iff.1 hx]
    exact (lt_infinity ha).1
  not_lt_of_isOver := by
    intro x a hx
    rw [lt_iff, isOver_iff.1 hx]
    simp [not_infinity_lt]
  lt_of_not_isOver := by
    intro a x ha hx hNaN hOver
    rw [isOver_iff] at hOver
    change (unpacked x).isFinite = false at hx
    change (unpacked x).isNaN = false at hNaN
    rw [lt_iff]
    cases hUnpacked : unpacked x with
    | infinity s =>
        cases s with
        | negative => exact (lt_infinity ha).2.1
        | positive => exact absurd hUnpacked hOver
    | notANumber => simp [hUnpacked, UnpackedFloat.isNaN] at hNaN
    | _ => simp [hUnpacked, UnpackedFloat.isFinite] at hx
  isNaN_add := by
    intro a b ha
    refine (isNaN_unpack_pack _).trans ((isNaN_add _ (.inl ha)).trans ?_)
    rw [isNaN_of_isFinite ha]
    rfl
  isOver_add := by
    intro a b ha hb
    rw [isOver_iff] at hb ⊢
    rw [unpacked_add, hb, add_infinity _ (isFinite_iff.1 ha), unpack_pack_infinity]
  isFinite_add_zero := by
    intro a ha
    rw [isFinite_iff] at ha
    change (unpacked (a + Number.ofNat 0)).isFinite = true
    rw [unpacked_add, unpacked_zero]
    cases hUnpacked : unpacked a with
    | notANumber => simp [hUnpacked, UnpackedFloat.isFinite] at ha
    | infinity s => simp [hUnpacked, UnpackedFloat.isFinite] at ha
    | zero s => cases s <;> rfl
    | finite s m e hm => exact isFinite_unpack_pack s m hm (exponent_le hUnpacked)
  isNaN_div := by
    intro a b ha hb hPositive
    refine (isNaN_unpack_pack _).trans (isNaN_div _ ha hb fun s hZero => hPositive ?_)
    have hUnpacked : unpacked b = .zero s := hZero
    change b ≤ Number.ofNat 0
    rw [le_iff, unpacked_zero, hUnpacked]
    rfl
  isNaN_round := isNaN_round
  round_eq_self := by
    intro x hx
    change x.isFinite = false at hx
    change round x = x
    simp [round, toWhole, size?, hx]

end Binary64
end NoteBoard
