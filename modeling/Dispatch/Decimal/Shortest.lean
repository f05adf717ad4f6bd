namespace Dispatch.Decimal

/-! The fewest decimal digits that read back as a given double. A double stands for all
reals that round to it; the ends of that interval belong to it exactly when its mantissa
is even. Digits are looked for on ever finer decimal grids, and on each grid only the two
neighbours of the value can be the nearest hit. -/

/-- A positive number `mantissa * 2 ^ exponent`. The gap to the next double below is half
the gap above where `lowGap` holds. -/
structure Binary where
  mantissa : Nat
  exponent : Int
  lowGap : Bool
deriving DecidableEq, Repr

/-- A positive number `digits * 10 ^ exponent`. -/
structure Digits where
  digits : Nat
  exponent : Int
deriving DecidableEq, Repr

/-- Where to go when a value lies exactly between two candidates. -/
inductive Tie
  | up
  | even
deriving DecidableEq, Repr

namespace Binary

/-- Reads exponent and fraction of the 64-bit pattern, whose sign is ignored. -/
def ofBits (bits : Nat) : Binary :=
  let fraction := bits % Nat.pow 2 52
  let biased := bits / Nat.pow 2 52 % Nat.pow 2 11
  if biased = 0 then ⟨fraction, -1074, false⟩
  else ⟨fraction + Nat.pow 2 52, Int.ofNat biased - 1075, fraction == 0 && decide (1 < biased)⟩

/-- The value, and the ends of its interval, over the common denominator. -/
def value (binary : Binary) : Nat :=
  4 * binary.mantissa * Nat.pow 2 (binary.exponent - 2).toNat

def low (binary : Binary) : Nat :=
  (4 * binary.mantissa - (if binary.lowGap then 1 else 2)) *
    Nat.pow 2 (binary.exponent - 2).toNat

def high (binary : Binary) : Nat :=
  (4 * binary.mantissa + 2) * Nat.pow 2 (binary.exponent - 2).toNat

def denominator (binary : Binary) : Nat :=
  Nat.pow 2 (2 - binary.exponent).toNat

/-- The number of digits before the decimal point; below one, the zeros that follow the
point count against it, and a value is below `10 ^ (-zeros)` exactly when `10 ^ zeros` is
at most the quotient taken here. -/
def point (binary : Binary) : Int :=
  if binary.denominator ≤ binary.value then
    Int.ofNat (toString (binary.value / binary.denominator)).length
  else 1 - Int.ofNat (toString ((binary.denominator - 1) / binary.value)).length

/-- Whether `digits * 10 ^ exponent` lies in the interval. -/
def holds (binary : Binary) (digits : Nat) (exponent : Int) : Bool :=
  let scaled := digits * Nat.pow 10 exponent.toNat * binary.denominator
  let unit := Nat.pow 10 (-exponent).toNat
  if binary.mantissa % 2 = 0 then
    decide (binary.low * unit ≤ scaled) && decide (scaled ≤ binary.high * unit)
  else
    decide (binary.low * unit < scaled) && decide (scaled < binary.high * unit)

/-- The largest grid point that is not above the value. -/
def floorAt (binary : Binary) (exponent : Int) : Nat :=
  binary.value * Nat.pow 10 (-exponent).toNat /
    (binary.denominator * Nat.pow 10 exponent.toNat)

/-- Twice the distance from the grid point below, against the grid's step. -/
def remainderOrder (binary : Binary) (exponent : Int) : Ordering :=
  let step := binary.denominator * Nat.pow 10 exponent.toNat
  compare (2 * (binary.value * Nat.pow 10 (-exponent).toNat % step)) step

def nearest (binary : Binary) (tie : Tie) (exponent : Int) : Nat :=
  let below := binary.floorAt exponent
  match binary.remainderOrder exponent with
  | .lt => below
  | .gt => below + 1
  | .eq =>
      match tie with
      | .up => below + 1
      | .even => below + below % 2

/-- The hit on the grid of step `10 ^ exponent`, the nearer one of two. -/
def hit? (binary : Binary) (tie : Tie) (exponent : Int) : Option Nat :=
  let below := binary.floorAt exponent
  match binary.holds below exponent, binary.holds (below + 1) exponent with
  | true, true => some (binary.nearest tie exponent)
  | true, false => some below
  | false, true => some (below + 1)
  | false, false => none

def search (binary : Binary) (tie : Tie) : Nat → Int → Digits
  | 0, exponent => ⟨binary.nearest tie exponent, exponent⟩
  | finer + 1, exponent =>
      match binary.hit? tie exponent with
      | some digits => ⟨digits, exponent⟩
      | none => search binary tie finer (exponent - 1)

end Binary

/-- Moves zeros at the end of the digits into the exponent. -/
def Digits.trimFrom : Nat → Digits → Digits
  | 0, decimal => decimal
  | steps + 1, decimal =>
      if decimal.digits ≠ 0 ∧ decimal.digits % 10 = 0 then
        trimFrom steps ⟨decimal.digits / 10, decimal.exponent + 1⟩
      else decimal

def Digits.trim (decimal : Digits) : Digits :=
  trimFrom 17 decimal

/-- Seventeen digits always suffice. -/
def shortest (tie : Tie) (binary : Binary) : Digits :=
  (binary.search tie 16 (binary.point - 1)).trim

end Dispatch.Decimal
