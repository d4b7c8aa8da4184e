import NoteBoard.Proofs.Number.Machine
import NoteBoard.Proofs.Number.Ordered

/-! Machine numbers as they are unpacked: a number has one mantissa and exponent, by which it is
ordered, and differences have the sign that the order says. -/
namespace NoteBoard
namespace Binary64

open Float.Model Float.Model.UnpackedFloat

/-- A mantissa of at most 53 bits, and of no fewer unless the exponent is the least one. -/
structure IsCanonical (m : Nat) (e : Int) : Prop where
  pos : 0 < m
  lt : m < 2 ^ 53
  least : -1074 ≤ e
  full : e = -1074 ∨ 2 ^ 52 ≤ m

section Packing

theorem ofBitVec_unpackSign {spec : Format} (s : Sign) (e : BitVec spec.exponentBits)
    (m : BitVec spec.mantissaBitsWithoutImplicit) :
    Sign.ofBitVec (unpackSign (packComponents spec s e m)) = s := by
  have hBits : unpackSign (packComponents spec s e m) = s.toBitVec := by
    apply BitVec.eq_of_getLsbD_eq
    intro i hi
    obtain rfl : i = 0 := by omega
    simp [unpackSign, packComponents, BitVec.getLsbD_append, BitVec.getElem_append]
  rw [hBits]
  cases s <;> rfl

theorem toNat_one_append (v : BitVec 52) : (1#1 ++ v).toNat = 2 ^ 52 + v.toNat := by
  rw [BitVec.toNat_append, ← Nat.shiftLeft_add_eq_or_of_lt v.isLt]
  simp [Nat.shiftLeft_eq]

theorem isCanonical_of_unpack {b : BitVec Format.binary64.numBits} {s : Sign} {m : Nat} {e : Int}
    {hm : 0 < m} (h : UnpackedFloat.unpack .binary64 b = .finite s m e hm) : IsCanonical m e := by
  have hBias : ((Format.binary64.exponentBias : Nat) : Int) = 1023 := rfl
  have hBits : ((Format.binary64.mantissaBitsWithoutImplicit : Nat) : Int) = 52 := rfl
  have hMantissa : (unpackMantissa b).toNat < 2 ^ 52 := (unpackMantissa b).isLt
  unfold UnpackedFloat.unpack at h
  dsimp only at h
  split at h
  · split at h <;> cases h
  split at h
  · split at h
    · cases h
    · next hZero _ =>
      cases h
      exact ⟨hm, by omega, by rw [hZero]; decide, .inl (by rw [hZero]; rfl)⟩
  · next hNot hNotZero =>
    cases h
    have hPositive : (unpackExponent b).toNat ≠ 0 := fun hSame =>
      hNotZero (BitVec.eq_of_toNat_eq hSame)
    refine ⟨hm, ?_, by rw [hBias, hBits]; omega, .inr ?_⟩
    · rw [toNat_one_append]
      omega
    · rw [toNat_one_append]
      omega

theorem unpack_normal (s : Sign) {x : BitVec 11} (v : BitVec 52) (hNotZero : x ≠ 0#11)
    (hNotFull : x ≠ -1#11) :
    UnpackedFloat.unpack .binary64 (packComponents .binary64 s x v) =
      .finite s (2 ^ 52 + v.toNat) ((x.toNat : Int) - 1075) (by omega) := by
  unfold UnpackedFloat.unpack
  simp only [unpackExponent_packComponents, unpackMantissa_packComponents, ofBitVec_unpackSign,
    hNotFull, hNotZero, if_false, toNat_one_append]
  rfl

theorem unpack_subnormal (s : Sign) {v : BitVec 52} (hNotZero : v ≠ 0#52) :
    UnpackedFloat.unpack .binary64 (packComponents .binary64 s 0#11 v) =
      .finite s v.toNat (-1074) (by simpa [BitVec.toNat_pos, BitVec.pos_iff_ne_zero]) := by
  have hNotFull : (0#11 : BitVec 11) ≠ -1#11 := by decide
  unfold UnpackedFloat.unpack
  simp only [unpackExponent_packComponents, unpackMantissa_packComponents, ofBitVec_unpackSign,
    hNotFull, hNotZero, if_false, if_true]
  rfl

/-- What is canonical is unpacked as it was packed, unless its exponent is too large. -/
theorem unpack_pack {m : Nat} {e : Int} (h : IsCanonical m e) (s : Sign) :
    UnpackedFloat.unpack .binary64 (UnpackedFloat.pack .binary64 (.finite s m e h.pos)) =
      if e ≤ 971 then .finite s m e h.pos else .infinity s := by
  have hLeast := h.least
  have hLt := h.lt
  have hBias : (e + Format.binary64.exponentBias +
      Format.binary64.mantissaBitsWithoutImplicit).toNat = (e + 1075).toNat := by
    show (e + (2 ^ (11 - 1) - 1 : Nat) + (52 : Nat)).toNat = (e + 1075).toNat
    omega
  have hField : (BitVec.ofNat 11 (e + 1075).toNat).toNat = (e + 1075).toNat % 2 ^ 11 :=
    BitVec.toNat_ofNat _ _
  have hMantissa : (BitVec.ofNat 52 m).toNat = m % 2 ^ 52 := BitVec.toNat_ofNat _ _
  simp only [UnpackedFloat.pack, hBias]
  by_cases hFits : e ≤ 971
  · rw [if_pos hFits, if_neg (show ¬ 2 ^ 11 ≤ (e + 1075).toNat + 1 by omega)]
    split
    · next hNormal =>
      have hFull : 2 ^ 52 ≤ m := by
        have hLog := Nat.log2_self_le h.pos.ne'
        have hBits : m.log2 = 52 := by
          change m.log2 + 1 = 53 at hNormal
          omega
        rwa [hBits] at hLog
      rw [unpack_normal]
      · congr 1 <;> omega
      · intro hZero
        rw [hZero] at hField
        simp at hField
        omega
      · intro hOnes
        rw [hOnes] at hField
        simp at hField
        omega
    · next hSubnormal =>
      have hSmall : m < 2 ^ 52 := by
        by_contra hLarge
        have hBits : m.log2 = 52 := (Nat.log2_eq_iff h.pos.ne').2 ⟨by omega, by omega⟩
        exact hSubnormal (by rw [hBits]; rfl)
      have hExponent : e = -1074 := h.full.resolve_right (by omega)
      rw [unpack_subnormal]
      · congr 1 <;> omega
      · intro hZero
        rw [hZero] at hMantissa
        have hPos := h.pos
        simp at hMantissa
        omega
  · rw [if_neg hFits, if_pos (show 2 ^ 11 ≤ (e + 1075).toNat + 1 by omega)]
    exact unpack_pack_infinity s

end Packing

section Rounding

theorem mantissa_shiftRight (em : ExtendedMantissa) (k : Nat) :
    (em >>> k).mantissa = em.mantissa / 2 ^ k := by
  induction k with
  | zero => simp [HShiftRight.hShiftRight, Nat.repeat]
  | succ k ih =>
      change (em >>> k).mantissa / 2 = _
      rw [ih, Nat.div_div_eq_div_mul, pow_succ]

/-- Rounding goes to the mantissa that is left after a shift, or to the next one. -/
theorem roundedMantissa_mem (em : ExtendedMantissa) :
    em.mantissa ≤ em.roundedMantissa ∧ em.roundedMantissa ≤ em.mantissa + 1 := by
  obtain ⟨m, roundBit, stickyBit⟩ := em
  cases roundBit <;> cases stickyBit <;>
    simp [ExtendedMantissa.roundedMantissa, ExtendedMantissa.accuracy,
      Accuracy.roundToNearestEven]
  omega

/-- The exponent that a number is to have: that of a mantissa of 53 bits, or the least one. -/
theorem targetExponent_eq (m : Nat) (e : Int) :
    Format.binary64.targetExponent (totalExponent m e) = max ((m.log2 : Int) + e - 52) (-1074) := by
  have hLeast : Format.binary64.minExponent = -1074 := by decide
  have hBits : ((Format.binary64.mantissaBits : Nat) : Int) = 53 := rfl
  rw [Format.targetExponent, totalExponent, hLeast, hBits]
  congr 1
  omega

/-- A number with a mantissa of at most 53 bits is not shifted. -/
theorem shiftToTargetExponent_of_lt {m : Nat} {e : Int} (hm : m < 2 ^ 53) (he : -1074 ≤ e) :
    shiftToTargetExponent .binary64 m e .exact = (⟨m, false, false⟩, e) := by
  have hLog : m.log2 ≤ 52 := by
    by_cases hZero : m = 0
    · simp [hZero]
    · have := (Nat.log2_lt hZero).2 hm
      omega
  have hNone : (max ((m.log2 : Int) + e - 52) (-1074) - e).toNat = 0 := by omega
  simp [shiftToTargetExponent, shiftToExponent, targetExponent_eq, hNone, HShiftRight.hShiftRight,
    Nat.repeat, ExtendedMantissa.ofMantissaAndAccuracy]

/-- A mantissa that rounding made one bit longer is halved. -/
theorem shiftToTargetExponent_carry {e : Int} (he : -1074 ≤ e) :
    shiftToTargetExponent .binary64 (2 ^ 53) e .exact = (⟨2 ^ 52, false, false⟩, e + 1) := by
  have hOne : (max (((2 ^ 53 : Nat).log2 : Int) + e - 52) (-1074) - e).toNat = 1 := by
    rw [Nat.log2_two_pow]
    omega
  simp only [shiftToTargetExponent, shiftToExponent, targetExponent_eq, hOne]
  rfl

/-- So it is rounded to itself. -/
theorem roundWithAccuracy_of_lt (s : Sign) {m : Nat} {e : Int} (hPos : 0 < m) (hm : m < 2 ^ 53)
    (he : -1074 ≤ e) : roundWithAccuracy .binary64 s m e .exact = .finite s m e hPos := by
  have hRounded : (⟨m, false, false⟩ : ExtendedMantissa).roundedMantissa = m := rfl
  simp [roundWithAccuracy, shiftToTargetExponent_of_lt hm he, hRounded, hPos.ne']

/-- A longer mantissa is shifted to 53 bits and rounded, and shifted once more if that carries over
into another bit. -/
theorem exists_roundWithAccuracy (s : Sign) {m : Nat} {e : Int} (hm : 2 ^ 53 ≤ m)
    (he : -1074 ≤ e) :
    ∃ n f, ∃ h : IsCanonical n f,
      roundWithAccuracy .binary64 s m e .exact = .finite s n f h.pos := by
  have hPos : m ≠ 0 := by omega
  have hLog : 53 ≤ m.log2 := (Nat.le_log2 hPos).2 hm
  obtain ⟨k, hk⟩ : ∃ k, m.log2 = 52 + k := ⟨m.log2 - 52, by omega⟩
  have hShift : (max ((m.log2 : Int) + e - 52) (-1074) - e).toNat = k := by omega
  -- The mantissa that the first shift leaves has 53 bits.
  have hLow : 2 ^ 52 ≤ m / 2 ^ k := by
    rw [Nat.le_div_iff_mul_le (Nat.two_pow_pos k), ← pow_add, ← hk]
    exact Nat.log2_self_le hPos
  have hHigh : m / 2 ^ k < 2 ^ 53 := by
    rw [Nat.div_lt_iff_lt_mul (Nat.two_pow_pos k), ← pow_add,
      show 53 + k = m.log2 + 1 by omega]
    exact Nat.lt_log2_self
  have hFirst : (shiftToTargetExponent .binary64 m e .exact).1.mantissa = m / 2 ^ k ∧
      (shiftToTargetExponent .binary64 m e .exact).2 = e + k := by
    simp only [shiftToTargetExponent, shiftToExponent, targetExponent_eq, hShift,
      mantissa_shiftRight, ExtendedMantissa.ofMantissaAndAccuracy, and_self]
  unfold roundWithAccuracy
  generalize shiftToTargetExponent .binary64 m e .exact = first at hFirst
  obtain ⟨em, e₁⟩ := first
  obtain ⟨hMantissa, rfl⟩ := hFirst
  have hRounded := roundedMantissa_mem em
  dsimp only at hMantissa ⊢
  generalize em.roundedMantissa = r at hRounded
  by_cases hFits : r < 2 ^ 53
  · have hNotZero : r ≠ 0 := by omega
    refine ⟨r, e + k, ⟨by omega, hFits, by omega, .inr (by omega)⟩, ?_⟩
    simp [shiftToTargetExponent_of_lt hFits (show -1074 ≤ e + (k : Int) by omega), hNotZero]
  · obtain rfl : r = 2 ^ 53 := by omega
    refine ⟨2 ^ 52, e + k + 1, ⟨by decide, by decide, by omega, .inr le_rfl⟩, ?_⟩
    rw [shiftToTargetExponent_carry (by omega)]
    rfl

/-- A mantissa of at most 53 bits is shifted to the left, as far as the exponent allows. -/
theorem round_of_lt (s : Sign) {m : Nat} {e t : Int} (hPos : 0 < m) (hm : m < 2 ^ 53)
    (he : -1074 ≤ e) (ht : t = max ((m.log2 : Int) + e - 52) (-1074)) :
    ∃ h : IsCanonical (m <<< (e - t).toNat) t,
      UnpackedFloat.round .binary64 s m e = .finite s (m <<< (e - t).toNat) t h.pos := by
  have hLog : m.log2 < 53 := (Nat.log2_lt hPos.ne').2 hm
  obtain ⟨k, hk⟩ : ∃ k : Nat, e - t = k := ⟨(e - t).toNat, by omega⟩
  rw [hk, Int.toNat_natCast, Nat.shiftLeft_eq]
  have hLow := Nat.log2_self_le hPos.ne'
  have hHigh : m < 2 ^ (m.log2 + 1) := Nat.lt_log2_self
  have hLt : m * 2 ^ k < 2 ^ 53 := by
    calc m * 2 ^ k < 2 ^ (m.log2 + 1) * 2 ^ k :=
          Nat.mul_lt_mul_of_pos_right hHigh (Nat.two_pow_pos k)
      _ = 2 ^ (m.log2 + 1 + k) := (pow_add 2 _ _).symm
      _ ≤ 2 ^ 53 := Nat.pow_le_pow_right (by decide) (by omega)
  have hFull : t = -1074 ∨ 2 ^ 52 ≤ m * 2 ^ k := by
    by_cases hLeast : t = -1074
    · exact .inl hLeast
    · right
      calc 2 ^ 52 = 2 ^ m.log2 * 2 ^ k := by rw [← pow_add]; congr 1; omega
        _ ≤ m * 2 ^ k := Nat.mul_le_mul_right _ hLow
  have hCanonical : IsCanonical (m * 2 ^ k) t :=
    ⟨Nat.mul_pos hPos (Nat.two_pow_pos k), hLt, by omega, hFull⟩
  refine ⟨hCanonical, ?_⟩
  rw [UnpackedFloat.round, targetExponent_eq, ← ht, decreaseExponent, hk, Int.toNat_natCast,
    Nat.shiftLeft_eq, show e - (k : Int) = t by omega]
  exact roundWithAccuracy_of_lt s hCanonical.pos hLt hCanonical.least

/-- Rounding a number that is not zero gives one that is canonical, with the same sign. -/
theorem exists_round (s : Sign) {m : Nat} {e : Int} (hPos : 0 < m) (he : -1074 ≤ e) :
    ∃ n f, ∃ h : IsCanonical n f, UnpackedFloat.round .binary64 s m e = .finite s n f h.pos := by
  by_cases hm : m < 2 ^ 53
  · obtain ⟨h, hRound⟩ := round_of_lt s hPos hm he rfl
    exact ⟨_, _, h, hRound⟩
  · have hLog : 53 ≤ m.log2 := (Nat.le_log2 hPos.ne').2 (not_lt.1 hm)
    have hNone : (e - max ((m.log2 : Int) + e - 52) (-1074)).toNat = 0 := by omega
    have hRound : UnpackedFloat.round .binary64 s m e =
        roundWithAccuracy .binary64 s m e .exact := by
      rw [UnpackedFloat.round, targetExponent_eq, decreaseExponent, hNone]
      simp
    rw [hRound]
    exact exists_roundWithAccuracy s (not_lt.1 hm) he

end Rounding

section Difference

/-- A number that is no larger is no larger either when both are taken to the smaller exponent. -/
theorem shiftLeft_le {m n : Nat} {e f : Int} (hm : IsCanonical m e) (hn : IsCanonical n f)
    (h : ((compare e f).then (compare m n)).isLE = true) :
    m <<< (e - min e f).toNat ≤ n <<< (f - min e f).toNat := by
  have hLt := hm.lt
  rw [Nat.shiftLeft_eq, Nat.shiftLeft_eq]
  rcases lt_trichotomy e f with hLess | rfl | hMore
  · have hFull : 2 ^ 52 ≤ n := hn.full.resolve_left (by have := hm.least; omega)
    obtain ⟨k, hk⟩ : ∃ k, (f - e).toNat = k + 1 := ⟨(f - e).toNat - 1, by omega⟩
    rw [min_eq_left hLess.le, Int.sub_self, hk, pow_succ]
    have hPower : 1 ≤ 2 ^ k := Nat.one_le_two_pow
    calc m * 2 ^ (0 : Int).toNat = m := by simp
      _ ≤ 2 ^ 52 * (1 * 2) := by omega
      _ ≤ n * (2 ^ k * 2) := Nat.mul_le_mul hFull (Nat.mul_le_mul_right 2 hPower)
  · rw [Int.compare_eq_eq.2 rfl, Ordering.eq_then] at h
    exact Nat.mul_le_mul_right _ (Nat.isLE_compare.1 h)
  · rw [Int.compare_eq_gt.2 hMore] at h
    cases h

/-- What a positive number is rounded to is not zero, though it may be infinite. -/
theorem pos_unpack_pack_finite {m : Nat} {e : Int} (h : IsCanonical m e) :
    (UnpackedFloat.zero .positive).lt (UnpackedFloat.unpack .binary64
      (UnpackedFloat.pack .binary64 (.finite .positive m e h.pos))) = true := by
  rw [unpack_pack h]
  split <;> rfl

theorem pos_unpack_pack_normalize {m e : Int} (s : Sign) (hm : 0 < m) (he : -1074 ≤ e) :
    (UnpackedFloat.zero .positive).lt (UnpackedFloat.unpack .binary64
      (UnpackedFloat.pack .binary64 (UnpackedFloat.normalize .binary64 m e s))) = true := by
  obtain ⟨n, f, h, hRound⟩ := exists_round .positive (show 0 < m.toNat by omega) he
  rw [UnpackedFloat.normalize, Int.compare_eq_gt.2 hm]
  dsimp only
  rw [hRound]
  exact pos_unpack_pack_finite h

theorem nonneg_unpack_pack_normalize {m e : Int} (s : Sign) (hm : 0 ≤ m) (he : -1074 ≤ e) :
    (UnpackedFloat.zero .positive).le (UnpackedFloat.unpack .binary64
      (UnpackedFloat.pack .binary64 (UnpackedFloat.normalize .binary64 m e s))) = true := by
  rcases hm.eq_or_lt with rfl | hPos
  · rw [UnpackedFloat.normalize, Int.compare_eq_eq.2 rfl]
    dsimp only
    cases s <;> rfl
  · exact le_of_lt (pos_unpack_pack_normalize s hPos he)

/-- The difference of a number and one that is no larger is not negative. -/
theorem nonneg_unpack_pack_sub {u v : UnpackedFloat}
    (hu : ∀ s m e hm, u = .finite s m e hm → IsCanonical m e)
    (hv : ∀ s m e hm, v = .finite s m e hm → IsCanonical m e) (huFinite : u.isFinite = true)
    (hvFinite : v.isFinite = true) (h : u.le v = true) :
    (UnpackedFloat.zero .positive).le (UnpackedFloat.unpack .binary64
      (UnpackedFloat.pack .binary64 (UnpackedFloat.sub .binary64 v u))) = true := by
  cases u with
  | notANumber => cases huFinite
  | infinity s => cases huFinite
  | zero s =>
      cases v with
      | notANumber => cases hvFinite
      | infinity t => cases hvFinite
      | zero t => cases s <;> cases t <;> rfl
      | finite t n f hn =>
          cases t with
          | negative => cases h
          | positive => exact le_of_lt (pos_unpack_pack_finite (hv _ _ _ _ rfl))
  | finite s m e hm =>
      have hCanonical := hu _ _ _ _ rfl
      cases v with
      | notANumber => cases hvFinite
      | infinity t => cases hvFinite
      | zero t =>
          cases s with
          | negative => exact le_of_lt (pos_unpack_pack_finite hCanonical)
          | positive => cases h
      | finite t n f hn =>
          have hOther := hv _ _ _ _ rfl
          have hDifference : 0 ≤ t.apply (n <<< (f - min f e).toNat : Nat) -
              s.apply (m <<< (e - min f e).toNat : Nat) := by
            cases s with
            | negative =>
                cases t with
                | negative =>
                    change (((compare e f).then (compare m n)).swap).isLE = true at h
                    rw [Ordering.swap_then, Int.compare_swap, Nat.compare_swap] at h
                    have hLe := shiftLeft_le hOther hCanonical h
                    simp only [Sign.apply]
                    omega
                | positive =>
                    generalize n <<< (f - min f e).toNat = a
                    generalize m <<< (e - min f e).toNat = b
                    simp only [Sign.apply]
                    omega
            | positive =>
                cases t with
                | negative => cases h
                | positive =>
                    have hLe := shiftLeft_le hCanonical hOther h
                    rw [min_comm] at hLe
                    simp only [Sign.apply]
                    omega
          exact nonneg_unpack_pack_normalize _ hDifference (le_min hOther.least hCanonical.least)

/-- The sum of a positive number and one that is not negative is positive. -/
theorem pos_unpack_pack_add {u v : UnpackedFloat}
    (hu : ∀ s m e hm, u = .finite s m e hm → IsCanonical m e)
    (hv : ∀ s m e hm, v = .finite s m e hm → IsCanonical m e) (huFinite : u.isFinite = true)
    (hvFinite : v.isFinite = true) (huPos : (UnpackedFloat.zero .positive).lt u = true)
    (hvNonneg : (UnpackedFloat.zero .positive).le v = true) :
    (UnpackedFloat.zero .positive).lt (UnpackedFloat.unpack .binary64
      (UnpackedFloat.pack .binary64 (UnpackedFloat.add .binary64 u v))) = true := by
  cases u with
  | notANumber => cases huFinite
  | infinity s => cases huFinite
  | zero s => cases huPos
  | finite s m e hm =>
      have hCanonical := hu _ _ _ _ rfl
      cases s with
      | negative => cases huPos
      | positive =>
          cases v with
          | notANumber => cases hvFinite
          | infinity t => cases hvFinite
          | zero t => exact pos_unpack_pack_finite hCanonical
          | finite t n f hn =>
              cases t with
              | negative => cases hvNonneg
              | positive =>
                  have hLeast : -1074 ≤ min e f := le_min hCanonical.least (hv _ _ _ _ rfl).least
                  have hSum : (0 : Int) < Sign.positive.apply (m <<< (e - min e f).toNat : Nat) +
                      Sign.positive.apply (n <<< (f - min e f).toNat : Nat) := by
                    have hFirst : 0 < m <<< (e - min e f).toNat := Nat.shiftLeft_pos_iff.2 hm
                    generalize m <<< (e - min e f).toNat = a at hFirst
                    generalize n <<< (f - min e f).toNat = b
                    simp only [Sign.apply]
                    omega
                  exact pos_unpack_pack_normalize _ hSum hLeast

end Difference

section Count

theorem shiftRight_mul_pow (m k : Nat) :
    (⟨m * 2 ^ k, false, false⟩ : ExtendedMantissa) >>> k = ⟨m, false, false⟩ := by
  induction k generalizing m with
  | zero => simp [HShiftRight.hShiftRight, Nat.repeat]
  | succ k ih =>
      change ((⟨m * 2 ^ (k + 1), false, false⟩ : ExtendedMantissa) >>> k).shiftRightOne = _
      rw [show m * 2 ^ (k + 1) = m * 2 * 2 ^ k by ring, ih]
      simp [ExtendedMantissa.shiftRightOne]

/-- A mantissa with as many zeros at the end as it is too long is rounded to itself. -/
theorem roundWithAccuracy_mul_pow (s : Sign) {m : Nat} {e : Int} (hLow : 2 ^ 52 ≤ m)
    (hHigh : m < 2 ^ 53) (he : -1074 ≤ e) :
    roundWithAccuracy .binary64 s (m * 2 ^ 52) (e - 52) .exact =
      .finite s m e (by omega) := by
  have hLog : (m * 2 ^ 52).log2 = 104 :=
    (Nat.log2_eq_iff (by omega)).2 ⟨by omega, by omega⟩
  have hShift :
      (max (((m * 2 ^ 52).log2 : Int) + (e - 52) - 52) (-1074) - (e - 52)).toNat = 52 := by
    rw [hLog]
    omega
  have hFirst : shiftToTargetExponent .binary64 (m * 2 ^ 52) (e - 52) .exact =
      (⟨m, false, false⟩, e) := by
    simp only [shiftToTargetExponent, shiftToExponent, targetExponent_eq, hShift,
      ExtendedMantissa.ofMantissaAndAccuracy, shiftRight_mul_pow]
    congr 1
    omega
  have hRounded : (⟨m, false, false⟩ : ExtendedMantissa).roundedMantissa = m := rfl
  have hNotZero : m ≠ 0 := by omega
  unfold roundWithAccuracy
  rw [hFirst]
  dsimp only
  rw [hRounded, shiftToTargetExponent_of_lt hHigh he]
  exact dif_neg hNotZero

/-- A count of at most 53 bits is a machine number with a full mantissa. -/
theorem exists_unpacked_ofNat {n : Nat} (hPos : 0 < n) (hn : n < 2 ^ 53) :
    ∃ m e hm, unpacked (Float.ofNat n) = .finite .positive m e hm ∧ 2 ^ 52 ≤ m ∧ -52 ≤ e := by
  have hLog : n.log2 < 53 := (Nat.log2_lt hPos.ne').2 hn
  have hTarget : (n.log2 : Int) - 52 = max ((n.log2 : Int) + 0 - 52) (-1074) := by omega
  obtain ⟨hCanonical, hRound⟩ := round_of_lt .positive hPos hn (by decide) hTarget
  generalize n <<< (0 - ((n.log2 : Int) - 52)).toNat = m at hCanonical hRound
  generalize hExponent : (n.log2 : Int) - 52 = e at hCanonical hRound
  have hFull : 2 ^ 52 ≤ m := hCanonical.full.resolve_left (by omega)
  have hPack : UnpackedFloat.unpack .binary64 (UnpackedFloat.pack .binary64
      (.finite .positive m e hCanonical.pos)) = .finite .positive m e hCanonical.pos := by
    rw [unpack_pack hCanonical, if_pos (by omega)]
  refine ⟨m, e, hCanonical.pos, ?_, hFull, by omega⟩
  have hWord : unpacked n.toUInt64.toFloat = .finite .positive m e hCanonical.pos := by
    have hSame : n.toUInt64.toNat = n := UInt64.toNat_ofNat_of_lt (hn.trans (by decide))
    change UnpackedFloat.unpack .binary64 (UnpackedFloat.pack .binary64
      (UnpackedFloat.normalize .binary64 (n.toUInt64.toNat : Int) 0 .positive)) = _
    rw [hSame, UnpackedFloat.normalize, Int.compare_eq_gt.2 (by omega : (0 : Int) < n)]
    dsimp only
    rw [Int.toNat_natCast, hRound, hPack]
  have hOne : unpacked Float.exactlyRepresentablePowersOfTen[0] =
      .finite .positive (2 ^ 52) (-52) (by decide) := rfl
  change unpacked (Float.ofScientific n false 0) = _
  rw [Float.ofScientific, dif_pos ⟨hn, by decide⟩, if_neg Bool.false_ne_true]
  change UnpackedFloat.unpack .binary64 (UnpackedFloat.pack .binary64 (UnpackedFloat.mul .binary64
    (unpacked n.toUInt64.toFloat) (unpacked Float.exactlyRepresentablePowersOfTen[0]))) = _
  rw [hWord, hOne]
  change UnpackedFloat.unpack .binary64 (UnpackedFloat.pack .binary64
    (roundWithAccuracy .binary64 .positive (m * 2 ^ 52) (e - 52) .exact)) = _
  rw [roundWithAccuracy_mul_pow .positive hFull hCanonical.lt hCanonical.least, hPack]

end Count

theorem isCanonical_unpacked (x : Float) :
    ∀ s m e hm, unpacked x = .finite s m e hm → IsCanonical m e :=
  fun _ _ _ _ h => isCanonical_of_unpack h

instance : Number.Ordered Float where
  lt_irrefl := by
    intro a h
    simp [lt_iff, not_lt_self] at h
  not_lt := by
    intro a b ha hb
    rw [lt_iff, le_iff, Bool.not_eq_true]
    exact lt_eq_false_iff ha hb
  isNaN_of_le := fun h => isNaN_of_le (le_iff.1 h)
  one_le_ofNat := by
    intro n hPos hn
    obtain ⟨m, e, hm, hCount, hFull, hExponent⟩ :=
      exists_unpacked_ofNat hPos (hn.trans (by decide))
    constructor
    · change (unpacked (Float.ofNat n)).isFinite = true
      rw [hCount]
      rfl
    · have hOne : unpacked (Number.ofNat 1) = .finite .positive (2 ^ 52) (-52) (by decide) := rfl
      rw [le_iff]
      change (unpacked (Number.ofNat 1)).le (unpacked (Float.ofNat n)) = true
      rw [hOne, hCount]
      change ((compare (-52) e).then (compare (2 ^ 52) m)).isLE = true
      rcases hExponent.eq_or_lt with rfl | hLess
      · rw [Int.compare_eq_eq.2 rfl]
        exact Nat.isLE_compare.2 hFull
      · rw [Int.compare_eq_lt.2 hLess]
        rfl
  add_pos := fun {a b} ha hb hPos hNonneg =>
    lt_iff.2 (pos_unpack_pack_add (isCanonical_unpacked a) (isCanonical_unpacked b) ha hb
      (lt_iff.1 hPos) (le_iff.1 hNonneg))
  sub_nonneg := fun {a b} ha hb h =>
    le_iff.2 (nonneg_unpack_pack_sub (isCanonical_unpacked a) (isCanonical_unpacked b) ha hb
      (le_iff.1 h))
  isNaN_add := by
    intro a b hb
    refine (isNaN_unpack_pack _).trans ((isNaN_add _ (.inr hb)).trans ?_)
    rw [isNaN_of_isFinite hb, Bool.or_false]
    rfl
  isNaN_sub := fun h => (isNaN_unpack_pack _).trans (isNaN_sub _ h)
  isNaN_div := fun {a b} hPos =>
    (isNaN_unpack_pack _).trans (isNaN_div_of_pos _ (unpacked a) (lt_iff.1 hPos))

end Binary64
end NoteBoard
