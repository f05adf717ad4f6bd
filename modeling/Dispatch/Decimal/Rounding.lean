import Dispatch.Decimal.Numeral

namespace Dispatch.Decimal

/-! The doubles that numerals name. A numeral in a file is rounded up to three times: its
leading digits, the power of ten and their product or quotient each become a double. With
few digits and a small exponent this is the double nearest to the numeral. -/

/-- The double nearest to `digits * 10 ^ exponent`, infinite beyond the largest one. -/
def nearest (digits : Nat) (exponent : Int) : Float :=
  let length := Int.ofNat (toString digits).length
  if digits = 0 ∨ length + exponent < -330 then 0
  else if 330 < length + exponent then Float.ofBits 0x7FF0000000000000
  else Float.ofScientific digits (decide (exponent < 0)) exponent.natAbs

/-- Continues a number by digits for as long as it fits 64 bits; the count is that of the
digits left over. -/
def leading (number : Nat) : List Nat → Nat × Nat
  | [] => (number, 0)
  | digit :: rest =>
      let longer := 10 * number + digit
      if longer < Nat.pow 2 64 then leading longer rest else (number, rest.length + 1)

/-- The largest power of ten that is a double. -/
def largestPower : Nat := 308

/-- Divides by a power of ten, by the largest one first where it takes several. -/
def dividedByPower (value : Float) (power : Nat) : Float :=
  if power ≤ largestPower then value / nearest 1 power
  else if value == 0 then value
  else dividedByPower (value / nearest 1 largestPower) (power - largestPower)
termination_by power
decreasing_by simp only [largestPower] at *; omega

/-- No double but zero can be multiplied by a power of ten that is not a double. -/
def timesPower (value : Float) (power : Nat) : Float :=
  if power ≤ largestPower then value * nearest 1 power
  else if value == 0 then value
  else Float.ofBits 0x7FF0000000000000

def scaled (value : Float) (exponent : Int) : Float :=
  if exponent < 0 then dividedByPower value exponent.natAbs
  else timesPower value exponent.natAbs

namespace Numeral

def signed (numeral : Numeral) (size : Float) : Float :=
  if numeral.negative then -size else size

/-- The double nearest to the numeral. -/
def toNearest (numeral : Numeral) : Float :=
  numeral.signed (Decimal.nearest (naturalFrom 0 (numeral.whole ++ numeral.fraction))
    (numeral.power.getD 0 - Int.ofNat numeral.fraction.length))

/-- The leading digits as a number, and the exponent that goes with it. -/
def toLeading (numeral : Numeral) : Nat × Int :=
  let (number, skipped) := leading 0 numeral.whole
  let (number, ignored) := leading number numeral.fraction
  (number, Int.ofNat skipped - Int.ofNat (numeral.fraction.length - ignored) +
    numeral.power.getD 0)

/-- The double that a file means by the numeral. -/
def toFloat (numeral : Numeral) : Float :=
  let (number, exponent) := numeral.toLeading
  numeral.signed (scaled (Decimal.nearest number 0) exponent)

/-- A double within range. -/
def toDouble? (numeral : Numeral) : Option Float :=
  let value := numeral.toFloat
  if value.isFinite then some value else none

end Numeral

end Dispatch.Decimal
