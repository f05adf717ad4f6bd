namespace Dispatch

/-! The numbers of a model: its data, bounds, coefficients and variable values.
A program runs at `Float`; a statement about exact flows and balances reads the
same definitions at another instance. -/

class Scalar (K : Type) extends Zero K, One K, Add K, Sub K, Mul K, Div K, Neg K,
    BEq K where
  infinity : K
  isFinite : K → Bool
  below : K → K → Bool
  magnitude : K → K
  /-- The nearest whole value, a half going away from zero. -/
  nearest : K → K

namespace Scalar

variable {K : Type} [Scalar K]

def atMost (left right : K) : Bool :=
  below left right || left == right

/-- Sums start from negative zero, the neutral element of addition. -/
def sum (values : List K) : K :=
  values.foldl (· + ·) (-0)

/-- The second of two equal values is taken, so that the sign of a zero is that of the
second; a value that is not comparable with itself loses. -/
def larger (left right : K) : K :=
  if right == right then
    if below right left then left else right
  else left

/-- The second of two equal values is taken, so that the sign of a zero is that of the
second; a value that is not comparable with itself loses. -/
def smaller (left right : K) : K :=
  if right == right then
    if below left right then left else right
  else left

def sumOfProducts (left right : List K) : K :=
  (left.zip right).foldl (fun total pair => total + pair.1 * pair.2) 0

/-- Only vectors of one length have a dot product. -/
def dotProduct? (left right : List K) : Option K :=
  if left.length = right.length then some (sumOfProducts left right) else none

def same (left right : List K) : Bool :=
  left.length == right.length && (left.zip right).all fun pair => pair.1 == pair.2

end Scalar

/-- From `2 ^ 52` on every double is whole. -/
def wholeFrom : Float := Float.ofBits 0x4330000000000000

/-- Drops the fraction of a double below `2 ^ 63` that is not negative. -/
def Float.wholePart (value : Float) : Float :=
  value.toUInt64.toFloat

def Float.nearestWhole (value : Float) : Float :=
  let size := value.abs
  if size < wholeFrom then
    let base := Float.wholePart size
    let rounded := if size - base < Float.ofBits 0x3FE0000000000000 then base else base + 1
    if value.toBits >>> 63 == 1 then -rounded else rounded
  else value

/-- Finite, not negative and without a fraction. -/
def Float.isCount (value : Float) : Bool :=
  value.isFinite && decide (0 ≤ value) &&
    (decide (wholeFrom ≤ value) || Float.wholePart value == value)

instance : Scalar Float where
  zero := 0
  one := 1
  infinity := Float.ofBits 0x7FF0000000000000
  isFinite := Float.isFinite
  below left right := decide (left < right)
  magnitude := Float.abs
  nearest := Float.nearestWhole

end Dispatch
