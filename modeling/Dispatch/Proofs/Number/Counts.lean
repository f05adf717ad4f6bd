import Mathlib

namespace Dispatch

/-! Counts of 64 bits as doubles. A count keeps its value below `2 ^ 53` and is rounded
above; what it was rounded to is a count again, which the next conversion keeps. -/

open Float.Model
open Float.Model.UnpackedFloat

theorem log2_mul_two_pow {count : Nat} (positive : count ≠ 0) (shift : Nat) :
    (count * 2 ^ shift).log2 = count.log2 + shift := by
  refine (Nat.log2_eq_iff (Nat.mul_ne_zero positive (Nat.two_pow_pos shift).ne')).mpr ⟨?_, ?_⟩
  · rw [Nat.pow_add]
    exact Nat.mul_le_mul_right _ (Nat.log2_self_le positive)
  · rw [Nat.add_right_comm, Nat.pow_add]
    exact Nat.mul_lt_mul_of_pos_right Nat.lt_log2_self (Nat.two_pow_pos shift)

/-- The significand of a double that is not subnormal. -/
structure IsSignificand (mantissa : Nat) : Prop where
  lower : 2 ^ 52 ≤ mantissa
  upper : mantissa < 2 ^ 53

namespace IsSignificand

variable {mantissa : Nat}

theorem pos (full : IsSignificand mantissa) : 0 < mantissa :=
  lt_of_lt_of_le (by decide) full.lower

theorem log2 (full : IsSignificand mantissa) : mantissa.log2 = 52 :=
  (Nat.log2_eq_iff full.pos.ne').mpr ⟨full.lower, full.upper⟩

theorem log2_scaled (full : IsSignificand mantissa) (shift : Nat) :
    (mantissa * 2 ^ shift).log2 = 52 + shift := by
  rw [log2_mul_two_pow full.pos.ne', full.log2]

/-- Shifted up until its leading bit stands in front. -/
theorem ofSmall {count : Nat} (positive : 0 < count) (small : count < 2 ^ 53) :
    IsSignificand (count * 2 ^ (52 - count.log2)) := by
  have bound : count.log2 ≤ 52 := by
    have := (Nat.log2_lt positive.ne').mpr small
    omega
  have lower := Nat.mul_le_mul_right (2 ^ (52 - count.log2)) (Nat.log2_self_le positive.ne')
  have upper := Nat.mul_lt_mul_of_pos_right (Nat.lt_log2_self (n := count))
    (Nat.two_pow_pos (52 - count.log2))
  rw [← Nat.pow_add] at lower upper
  rw [show count.log2 + (52 - count.log2) = 52 by omega] at lower
  rw [show count.log2 + 1 + (52 - count.log2) = 53 by omega] at upper
  exact ⟨lower, upper⟩

/-- Cut behind its first 53 bits. -/
theorem ofLarge {count : Nat} (large : 2 ^ 53 ≤ count) :
    IsSignificand (count / 2 ^ (count.log2 - 52)) := by
  have positive : count ≠ 0 := by
    have := Nat.two_pow_pos 53
    omega
  have bound : 53 ≤ count.log2 := (Nat.le_log2 positive).mpr large
  constructor
  · refine (Nat.le_div_iff_mul_le (Nat.two_pow_pos _)).mpr ?_
    rw [← Nat.pow_add, show 52 + (count.log2 - 52) = count.log2 by omega]
    exact Nat.log2_self_le positive
  · refine (Nat.div_lt_iff_lt_mul (Nat.two_pow_pos _)).mpr ?_
    rw [← Nat.pow_add, show 53 + (count.log2 - 52) = count.log2 + 1 by omega]
    exact Nat.lt_log2_self

end IsSignificand

theorem targetExponent_eq (mantissa : Nat) (exponent : Int) :
    Format.binary64.targetExponent (totalExponent mantissa exponent) =
      max (mantissa.log2 + exponent - 52) (-1074) := by
  simp only [Format.targetExponent, totalExponent, Format.mantissaBits, Format.minExponent]
  omega

theorem shifted_zero (extended : ExtendedMantissa) : extended >>> (0 : Nat) = extended :=
  rfl

theorem shifted_succ (extended : ExtendedMantissa) (shift : Nat) :
    extended >>> (shift + 1) = (extended >>> shift).shiftRightOne :=
  rfl

theorem mantissa_shifted (extended : ExtendedMantissa) (shift : Nat) :
    (extended >>> shift).mantissa = extended.mantissa / 2 ^ shift := by
  induction shift with
  | zero => simp [shifted_zero]
  | succ shift induction =>
      simp [shifted_succ, ExtendedMantissa.shiftRightOne, induction, Nat.div_div_eq_div_mul,
        Nat.pow_succ]

/-- Nothing is left over when all bits shifted out are zero. -/
theorem shifted_scaled (mantissa shift : Nat) :
    (⟨mantissa * 2 ^ shift, false, false⟩ : ExtendedMantissa) >>> shift =
      ⟨mantissa, false, false⟩ := by
  induction shift generalizing mantissa with
  | zero => simp [shifted_zero]
  | succ shift induction =>
      rw [shifted_succ, Nat.pow_succ', ← Nat.mul_assoc, induction]
      simp [ExtendedMantissa.shiftRightOne]

theorem roundedMantissa_exact (mantissa : Nat) :
    (⟨mantissa, false, false⟩ : ExtendedMantissa).roundedMantissa = mantissa :=
  rfl

theorem roundedMantissa_bounds (extended : ExtendedMantissa) :
    extended.mantissa ≤ extended.roundedMantissa ∧
      extended.roundedMantissa ≤ extended.mantissa + 1 := by
  obtain ⟨mantissa, round, sticky⟩ := extended
  cases round <;> cases sticky <;>
    simp [ExtendedMantissa.roundedMantissa, ExtendedMantissa.accuracy,
      Accuracy.roundToNearestEven]
  omega

/-- A scaled significand is brought back to itself. -/
theorem shiftToTargetExponent_scaled {mantissa : Nat} (full : IsSignificand mantissa)
    (shift : Nat) (exponent : Int) (normal : -1074 ≤ exponent + shift) :
    shiftToTargetExponent .binary64 (mantissa * 2 ^ shift) exponent .exact =
      (⟨mantissa, false, false⟩, exponent + shift) := by
  have target : Format.binary64.targetExponent
      (totalExponent (mantissa * 2 ^ shift) exponent) = exponent + shift := by
    rw [targetExponent_eq, full.log2_scaled]
    push_cast
    omega
  have amount : (exponent + shift - exponent).toNat = shift := by omega
  simp only [shiftToTargetExponent, target, shiftToExponent, amount,
    ExtendedMantissa.ofMantissaAndAccuracy, shifted_scaled]

theorem shiftToTargetExponent_full {mantissa : Nat} (full : IsSignificand mantissa)
    (exponent : Int) (normal : -1074 ≤ exponent) :
    shiftToTargetExponent .binary64 mantissa exponent .exact =
      (⟨mantissa, false, false⟩, exponent) := by
  simpa using shiftToTargetExponent_scaled full 0 exponent (by simpa using normal)

/-- The double of a count has a significand and an exponent; the largest exponent is that of
`2 ^ 64` alone. -/
structure IsRounded (mantissa : Nat) (exponent : Int) : Prop where
  full : IsSignificand mantissa
  lower : -52 ≤ exponent
  upper : exponent ≤ 12
  last : exponent = 12 → mantissa = 2 ^ 52

theorem roundWithAccuracy_scaled {mantissa : Nat} (full : IsSignificand mantissa)
    (shift : Nat) (exponent : Int) (normal : -1074 ≤ exponent + shift) :
    roundWithAccuracy .binary64 .positive (mantissa * 2 ^ shift) exponent .exact =
      .finite .positive mantissa (exponent + shift) full.pos := by
  simp only [roundWithAccuracy, shiftToTargetExponent_scaled full shift exponent normal,
    roundedMantissa_exact, shiftToTargetExponent_full full _ normal, full.pos.ne', ↓reduceDIte]

theorem round_small {count : Nat} (positive : 0 < count) (small : count < 2 ^ 53) :
    UnpackedFloat.round .binary64 .positive count 0 =
      .finite .positive (count * 2 ^ (52 - count.log2)) (-(52 - count.log2 : Nat))
        (IsSignificand.ofSmall positive small).pos := by
  have bound : count.log2 ≤ 52 := by
    have := (Nat.log2_lt positive.ne').mpr small
    omega
  have target : Format.binary64.targetExponent (totalExponent count 0) =
      -(52 - count.log2 : Nat) := by
    rw [targetExponent_eq]
    omega
  have amount : (0 - (-(52 - count.log2 : Nat) : Int)).toNat = 52 - count.log2 := by omega
  have full := IsSignificand.ofSmall positive small
  have rounded := roundWithAccuracy_scaled full 0 (-(52 - count.log2 : Nat))
    (by omega)
  simp only [UnpackedFloat.round, target, decreaseExponent, amount, Nat.shiftLeft_eq]
  simpa using rounded

/-- A whole multiple of a power of two whose quotient is a significand is not rounded. -/
theorem round_scaled {mantissa : Nat} (full : IsSignificand mantissa) (shift : Nat) :
    UnpackedFloat.round .binary64 .positive (mantissa * 2 ^ shift) 0 =
      .finite .positive mantissa shift full.pos := by
  have target : Format.binary64.targetExponent
      (totalExponent (mantissa * 2 ^ shift) 0) = shift := by
    rw [targetExponent_eq, full.log2_scaled]
    push_cast
    omega
  have amount : ((0 : Int) - shift).toNat = 0 := by omega
  have rounded := roundWithAccuracy_scaled full shift 0 (by omega)
  simp only [UnpackedFloat.round, target, decreaseExponent, amount, Nat.shiftLeft_eq]
  simpa using rounded

/-- How finely the count is divided before it is rounded makes no difference. -/
theorem roundWithAccuracy_large {count : Nat} (large : 2 ^ 53 ≤ count)
    (bounded : count < 2 ^ 64) (fine : Nat) :
    ∃ (mantissa shift : Nat) (rounded : IsRounded mantissa shift),
      roundWithAccuracy .binary64 .positive (count * 2 ^ fine) (-fine) .exact =
        .finite .positive mantissa shift rounded.full.pos := by
  have positive : count ≠ 0 := by
    have := Nat.two_pow_pos 53
    omega
  have lower : 53 ≤ count.log2 := (Nat.le_log2 positive).mpr large
  have upper : count.log2 < 64 := (Nat.log2_lt positive).mpr bounded
  obtain ⟨shift, same⟩ : ∃ shift, count.log2 = 52 + shift := ⟨count.log2 - 52, by omega⟩
  have target : Format.binary64.targetExponent (totalExponent (count * 2 ^ fine) (-fine)) =
      shift := by
    rw [targetExponent_eq, log2_mul_two_pow positive, same]
    push_cast
    omega
  have quotient := IsSignificand.ofLarge large
  rw [same, Nat.add_sub_cancel_left] at quotient
  -- the first shift cuts the count, and rounding adds at most one
  obtain ⟨extended, first, cut⟩ : ∃ extended : ExtendedMantissa,
      shiftToTargetExponent .binary64 (count * 2 ^ fine) (-fine) .exact =
          (extended, (shift : Int)) ∧
        extended.mantissa = count / 2 ^ shift := by
    have amount : ((shift : Int) - -(fine : Int)).toNat = fine + shift := by omega
    refine ⟨(⟨count * 2 ^ fine, false, false⟩ : ExtendedMantissa) >>> (fine + shift), ?_, ?_⟩
    · simp only [shiftToTargetExponent, target, shiftToExponent, amount,
        ExtendedMantissa.ofMantissaAndAccuracy]
      congr 1
      omega
    · rw [mantissa_shifted, Nat.pow_add, ← Nat.div_div_eq_div_mul,
        Nat.mul_div_cancel _ (Nat.two_pow_pos fine)]
  have bounds := roundedMantissa_bounds extended
  rw [cut] at bounds
  rcases Nat.lt_or_ge extended.roundedMantissa (2 ^ 53) with short | carried
  · have full : IsSignificand extended.roundedMantissa :=
      ⟨le_trans quotient.lower bounds.1, short⟩
    refine ⟨extended.roundedMantissa, shift, ⟨full, by omega, by omega, by omega⟩, ?_⟩
    have second := shiftToTargetExponent_full full shift (by omega)
    simp only [roundWithAccuracy, first, second, full.pos.ne', ↓reduceDIte]
  · -- the carry makes a power of two, which has one more trailing zero
    have exact : extended.roundedMantissa = 2 ^ 52 * 2 ^ 1 := by
      have := quotient.upper
      omega
    have full : IsSignificand (2 ^ 52) := ⟨le_refl _, by decide⟩
    refine ⟨2 ^ 52, shift + 1, ⟨full, by omega, by omega, fun _ => rfl⟩, ?_⟩
    have second := shiftToTargetExponent_scaled full 1 shift (by omega)
    simp only [roundWithAccuracy, first, exact, second, full.pos.ne', ↓reduceDIte]
    rfl

theorem round_large {count : Nat} (large : 2 ^ 53 ≤ count) (bounded : count < 2 ^ 64) :
    ∃ (mantissa shift : Nat) (rounded : IsRounded mantissa shift),
      UnpackedFloat.round .binary64 .positive count 0 =
        .finite .positive mantissa shift rounded.full.pos := by
  have lower : 53 ≤ count.log2 := (Nat.le_log2 (by omega)).mpr large
  have target : 0 ≤ Format.binary64.targetExponent (totalExponent count 0) := by
    rw [targetExponent_eq]
    omega
  have amount : (0 - Format.binary64.targetExponent (totalExponent count 0)).toNat = 0 := by
    omega
  have unshifted : UnpackedFloat.round .binary64 .positive count 0 =
      roundWithAccuracy .binary64 .positive (count * 2 ^ 0) (-(0 : Nat)) .exact := by
    simp only [UnpackedFloat.round, decreaseExponent, amount]
    simp
  rw [unshifted]
  exact roundWithAccuracy_large large bounded 0

theorem append_leading_bit (mantissa : BitVec 52) :
    (1#1 ++ mantissa).toNat = 2 ^ 52 + mantissa.toNat := by
  rw [BitVec.toNat_append, ← Nat.shiftLeft_add_eq_or_of_lt mantissa.isLt]
  simp [Nat.shiftLeft_eq]

/-- The three parts of a double have room for a significand and its exponent. -/
theorem unpack_pack {mantissa : Nat} {exponent : Int} (rounded : IsRounded mantissa exponent) :
    (Float.Model.pack (.finite .positive mantissa exponent rounded.full.pos)).unpack =
      .finite .positive mantissa exponent rounded.full.pos := by
  have := rounded.lower
  have := rounded.upper
  have biased : (exponent + Format.binary64.exponentBias + (52 : Nat)).toNat =
      (exponent + 1075).toNat := by
    rw [show (Format.binary64.exponentBias : Int) = 1023 from rfl]
    omega
  have bounded : ¬ 2 ^ 11 ≤ (exponent + 1075).toNat + 1 := by omega
  have kept : (BitVec.ofNat 11 (exponent + 1075).toNat).toNat = (exponent + 1075).toNat := by
    rw [BitVec.toNat_ofNat, Nat.mod_eq_of_lt (by omega)]
  have not_special : BitVec.ofNat 11 (exponent + 1075).toNat ≠ -1#11 := by
    intro equal
    have := kept.symm.trans (congrArg BitVec.toNat equal)
    rw [show (-1#11 : BitVec 11).toNat = 2047 from rfl] at this
    omega
  have not_subnormal : BitVec.ofNat 11 (exponent + 1075).toNat ≠ 0#11 := by
    intro equal
    have := kept.symm.trans (congrArg BitVec.toNat equal)
    rw [BitVec.toNat_zero] at this
    omega
  have leading : (1#1 ++ BitVec.ofNat 52 mantissa).toNat = mantissa := by
    have := rounded.full.lower
    have := rounded.full.upper
    rw [append_leading_bit, BitVec.toNat_ofNat]
    omega
  have normal : mantissa.log2 + 1 = Format.binary64.mantissaBits := by
    rw [rounded.full.log2]
    rfl
  simp only [Float.Model.unpack, Float.Model.pack, UnpackedFloat.pack, biased, if_neg bounded,
    if_pos normal, UnpackedFloat.unpack, unpackMantissa_packComponents,
    unpackExponent_packComponents, unpackSign_packComponents, not_special,
    not_subnormal, ↓reduceIte, leading, kept]
  congr 1
  rw [show (Format.binary64.exponentBias : Int) = 1023 from rfl]
  omega

theorem roundToInt_scaled (mantissa shift : Nat) :
    roundToInt .positive mantissa shift = (mantissa * 2 ^ shift : Nat) := by
  simp [roundToInt, decreaseExponent, shiftToExponent, Nat.shiftLeft_eq, shifted_zero,
    ExtendedMantissa.ofMantissaAndAccuracy, Sign.apply]

theorem roundToInt_fraction (mantissa shift : Nat) :
    roundToInt .positive mantissa (-(shift : Int)) = (mantissa / 2 ^ shift : Nat) := by
  simp [roundToInt, decreaseExponent, shiftToExponent, mantissa_shifted,
    ExtendedMantissa.ofMantissaAndAccuracy, Sign.apply]

theorem toFloat_eq {count : UInt64} (positive : 0 < count.toNat) :
    count.toFloat =
      .ofModel (Float.Model.pack (UnpackedFloat.round .binary64 .positive count.toNat 0)) := by
  have order : compare (count.toNat : Int) 0 = .gt := Int.compare_eq_gt.mpr (by omega)
  simp only [UInt64.toFloat, Float.Model.ofUInt64, UnpackedFloat.ofUInt64,
    UnpackedFloat.ofNat, UnpackedFloat.ofInt, UnpackedFloat.normalize, order, Int.toNat_natCast]

/-- Below `2 ^ 53` a count keeps its value. -/
theorem toUInt64_toFloat_small {count : UInt64} (positive : 0 < count.toNat)
    (small : count.toNat < 2 ^ 53) : count.toFloat.toUInt64 = count := by
  have rounded : IsRounded (count.toNat * 2 ^ (52 - count.toNat.log2))
      (-(52 - count.toNat.log2 : Nat)) :=
    ⟨.ofSmall positive small, by omega, by omega, by omega⟩
  rw [toFloat_eq positive, round_small positive small]
  simp only [Float.toUInt64, Float.Model.toUInt64, unpack_pack rounded,
    UnpackedFloat.toUInt64, UnpackedFloat.toInt, roundToInt_fraction, Int.toNat_natCast]
  rw [Nat.mul_div_cancel _ (Nat.two_pow_pos _)]
  exact UInt64.ofNatClamp_toNat count

/-- What a count was rounded to is not rounded again. -/
theorem toFloat_toUInt64_toFloat (count : UInt64) :
    count.toFloat.toUInt64.toFloat = count.toFloat := by
  rcases Nat.eq_zero_or_pos count.toNat with zero | positive
  · obtain rfl : count = 0 := UInt64.toNat_inj.mp zero
    rfl
  rcases Nat.lt_or_ge count.toNat (2 ^ 53) with small | large
  · rw [toUInt64_toFloat_small positive small]
  obtain ⟨mantissa, shift, rounded, equal⟩ := round_large large count.toNat_lt
  have back : count.toFloat.toUInt64 = UInt64.ofNatClamp (mantissa * 2 ^ shift) := by
    rw [toFloat_eq positive, equal]
    simp only [Float.toUInt64, Float.Model.toUInt64, unpack_pack rounded,
      UnpackedFloat.toUInt64, UnpackedFloat.toInt, roundToInt_scaled, Int.toNat_natCast]
  rw [back]
  rcases Nat.lt_or_ge (mantissa * 2 ^ shift) UInt64.size with fits | exceeds
  · have kept := UInt64.toNat_ofNatClamp_of_lt fits
    have present : 0 < (UInt64.ofNatClamp (mantissa * 2 ^ shift)).toNat := by
      rw [kept]
      exact Nat.mul_pos rounded.full.pos (Nat.two_pow_pos shift)
    rw [toFloat_eq positive, equal, toFloat_eq present, kept, round_scaled rounded.full]
  · -- only `2 ^ 64` itself is too large, and its neighbour below is rounded up to it
    have top : (shift : Int) = 12 := by
      by_contra lower
      have := rounded.upper
      have bound : mantissa * 2 ^ shift < 2 ^ 53 * 2 ^ 11 :=
        Nat.mul_lt_mul_of_lt_of_le rounded.full.upper
          (Nat.pow_le_pow_right (by decide) (by omega)) (by decide)
      exact absurd exceeds (Nat.not_le.mpr bound)
    obtain rfl := rounded.last top
    obtain rfl : shift = 12 := by omega
    rw [toFloat_eq positive, equal]
    rfl

end Dispatch
