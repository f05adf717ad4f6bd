import Dispatch.Proofs.Json.Tokens
import Dispatch.Proofs.Number.Counts

namespace Dispatch

/-! The doubles of whole numerals. A count of 64 bits is read as a double within range, so a
file that holds it can be read. -/

open Float.Model
open Float.Model.UnpackedFloat

namespace IsRounded

variable {mantissa : Nat} {exponent : Int}

/-- The double with that significand and exponent. -/
def double (rounded : IsRounded mantissa exponent) : Float :=
  .ofModel (Float.Model.pack (.finite .positive mantissa exponent rounded.full.pos))

theorem isFinite_double (rounded : IsRounded mantissa exponent) :
    rounded.double.isFinite = true := by
  simp only [double, Float.isFinite, Float.Model.isFinite, unpack_pack rounded,
    UnpackedFloat.isFinite]

theorem unpack_one : (Float.ofBits 0x3FF0000000000000).toModel.unpack =
    .finite .positive (2 ^ 52) (-52) (Nat.two_pow_pos 52) :=
  rfl

/-- A double keeps its significand when it is multiplied by one. -/
theorem double_mul_one (rounded : IsRounded mantissa exponent) :
    rounded.double * Float.ofBits 0x3FF0000000000000 = rounded.double := by
  have exact := roundWithAccuracy_scaled rounded.full 52 (exponent + -52)
    (by have := rounded.lower; omega)
  rw [show exponent + -52 + (52 : Nat) = exponent by omega] at exact
  change Float.ofModel (Float.Model.pack (UnpackedFloat.mul .binary64
    (Float.Model.pack (.finite .positive mantissa exponent rounded.full.pos)).unpack
    (Float.ofBits 0x3FF0000000000000).toModel.unpack)) = _
  rw [unpack_pack rounded, unpack_one]
  exact congrArg (fun unpacked => Float.ofModel (Float.Model.pack unpacked)) exact

end IsRounded

/-- Every count of 64 bits but zero has a significand and an exponent. -/
theorem exists_ofScientific {count : Nat} (positive : 0 < count) (bounded : count < 2 ^ 64) :
    ∃ (mantissa : Nat) (exponent : Int) (rounded : IsRounded mantissa exponent),
      Float.ofScientific count false 0 = rounded.double := by
  rcases Nat.lt_or_ge count (2 ^ 53) with small | large
  · have kept : count.toUInt64.toNat = count := Nat.mod_eq_of_lt bounded
    have rounded : IsRounded (count * 2 ^ (52 - count.log2)) (-(52 - count.log2 : Nat)) :=
      ⟨.ofSmall positive small, by omega, by omega, by omega⟩
    have double : count.toUInt64.toFloat = rounded.double := by
      rw [toFloat_eq (kept.symm ▸ positive), kept, round_small positive small]
      rfl
    refine ⟨_, _, rounded, ?_⟩
    rw [Float.ofScientific, dif_pos ⟨small, Nat.zero_le 22⟩, double]
    exact rounded.double_mul_one
  · obtain ⟨mantissa, shift, rounded, equal⟩ := roundWithAccuracy_large large bounded 53
    refine ⟨mantissa, shift, rounded, ?_⟩
    rw [Float.ofScientific, dif_neg fun both => Nat.not_lt.mpr large both.1]
    have bias : (0 : Int) ≤ 2 ^ Format.binary64.exponentBits := by decide
    have near : ¬(0 : Int) > 2 ^ Format.binary64.exponentBits := not_lt.mpr bias
    have far : ¬(0 : Int) < -(2 ^ Format.binary64.exponentBits + count.log2) := by omega
    have unpacked : UnpackedFloat.ofScientific .binary64 count 0 =
        .finite .positive mantissa shift rounded.full.pos := by
      rw [UnpackedFloat.ofScientific, dif_neg positive.ne', if_neg near, if_neg far,
        if_pos (le_refl 0), ← equal, ← Nat.mul_one (count * 2 ^ 53), ← Nat.shiftLeft_eq]
      rfl
    exact congrArg (fun unpacked => Float.ofModel (Float.Model.pack unpacked)) unpacked

namespace Decimal

theorem nearest_zero : nearest 0 0 = 0 := by
  decide +kernel

theorem nearest_one : nearest 1 0 = Float.ofBits 0x3FF0000000000000 := by
  decide +kernel

theorem nearest_count {count : Nat} (positive : 0 < count) (bounded : count < 2 ^ 64) :
    nearest count 0 = Float.ofScientific count false 0 := by
  have short : (toString count).length ≤ 20 :=
    (Nat.length_repr_le_iff (by decide)).mpr (lt_of_lt_of_le bounded (by decide))
  have in_range : ¬(count = 0 ∨ Int.ofNat (toString count).length + 0 < -330) := by
    simp only [Int.ofNat_eq_natCast]
    omega
  have in_reach : ¬330 < Int.ofNat (toString count).length + 0 := by
    simp only [Int.ofNat_eq_natCast]
    omega
  rw [nearest, if_neg in_range, if_neg in_reach]
  rfl

theorem scaled_zero (value : Float) :
    scaled value 0 = value * Float.ofBits 0x3FF0000000000000 := by
  rw [scaled, if_neg (by decide), timesPower, if_pos (by decide), ← nearest_one]
  rfl

theorem le_naturalFrom (number : Nat) (digits : List Nat) :
    number ≤ naturalFrom number digits := by
  induction digits generalizing number with
  | nil => exact le_refl number
  | cons digit rest induction =>
      have longer : number ≤ 10 * number + digit := by omega
      exact longer.trans (induction (10 * number + digit))

/-- No digit is left over while the number fits 64 bits. -/
theorem leading_eq {number : Nat} {digits : List Nat}
    (bounded : naturalFrom number digits < 2 ^ 64) :
    leading number digits = (naturalFrom number digits, 0) := by
  induction digits generalizing number with
  | nil => rfl
  | cons digit rest induction =>
      have longer : 10 * number + digit < Nat.pow 2 64 :=
        lt_of_le_of_lt (le_naturalFrom (10 * number + digit) rest) bounded
      rw [leading, if_pos longer]
      exact induction bounded

end Decimal

open Decimal

/-- What a file says of a count is a double within range. -/
theorem Json.isSome_double?_count {count : Nat} (bounded : count < 2 ^ 64) :
    (Json.double? (.count count)).isSome = true := by
  obtain ⟨digits, read, value⟩ := read?_toString count
  have led := leading_eq (value.symm ▸ bounded : naturalFrom 0 digits < 2 ^ 64)
  have whole : Numeral.toFloat ⟨false, digits, [], none⟩ =
      nearest count 0 * Float.ofBits 0x3FF0000000000000 := by
    rw [Numeral.toFloat, Numeral.toLeading, led, value]
    exact scaled_zero (nearest count 0)
  have finite : (Numeral.toFloat ⟨false, digits, [], none⟩).isFinite = true := by
    rw [whole]
    rcases Nat.eq_zero_or_pos count with rfl | positive
    · rw [nearest_zero]
      decide +kernel
    · obtain ⟨mantissa, exponent, rounded, double⟩ := exists_ofScientific positive bounded
      rw [nearest_count positive bounded, double, rounded.double_mul_one]
      exact rounded.isFinite_double
  rw [Json.double?, Json.count, numeral?, read, Option.bind_some, Numeral.toDouble?, if_pos finite]
  rfl

end Dispatch
