namespace Dispatch.Decimal

/-! Decimal numerals as they stand in text. -/

/-- The digits before and after the point, and the exponent part. -/
structure Numeral where
  negative : Bool
  whole : List Nat
  fraction : List Nat
  power : Option Int
deriving DecidableEq, Repr

/-- The number that a run of digits continues. -/
def naturalFrom (number : Nat) (digits : List Nat) : Nat :=
  digits.foldl (fun number digit => 10 * number + digit) number

namespace Numeral

def digitValue (character : Char) : Nat :=
  character.toNat - '0'.toNat

/-- A run of digits and what follows it. -/
def splitDigits (characters : List Char) : List Nat × List Char :=
  ((characters.takeWhile Char.isDigit).map digitValue, characters.dropWhile Char.isDigit)

/-- A fraction part has at least one digit. -/
def splitFraction? (characters : List Char) : Option (List Nat × List Char) :=
  match characters with
  | '.' :: rest =>
      match splitDigits rest with
      | ([], _) => none
      | (digits, rest) => some (digits, rest)
  | _ => some ([], characters)

def signedPower? (negative : Bool) (characters : List Char) : Option (Int × List Char) :=
  match splitDigits characters with
  | ([], _) => none
  | (digits, rest) =>
      let size := Int.ofNat (naturalFrom 0 digits)
      some (if negative then -size else size, rest)

/-- An exponent part has at least one digit. -/
def splitPower? (characters : List Char) : Option (Option Int × List Char) :=
  match characters with
  | mark :: rest =>
      if mark = 'e' ∨ mark = 'E' then
        (match rest with
        | '-' :: rest => signedPower? true rest
        | '+' :: rest => signedPower? false rest
        | _ => signedPower? false rest).map fun (power, rest) => (some power, rest)
      else some (none, characters)
  | [] => some (none, [])

/-- The whole part is `0` or starts with another digit. -/
def isWholePart (digits : List Nat) : Bool :=
  match digits with
  | [] => false
  | [0] => true
  | first :: _ => first != 0

def splitUnsigned? (negative : Bool) (characters : List Char) :
    Option (Numeral × List Char) := do
  let (whole, rest) := splitDigits characters
  if isWholePart whole then
    let (fraction, rest) ← splitFraction? rest
    let (power, rest) ← splitPower? rest
    return ({ negative, whole, fraction, power }, rest)
  else none

/-- The numeral that the text starts with, and the text after it. -/
def split? (characters : List Char) : Option (Numeral × List Char) :=
  match characters with
  | '-' :: rest => splitUnsigned? true rest
  | _ => splitUnsigned? false characters

def read? (text : String) : Option Numeral :=
  match split? text.toList with
  | some (numeral, []) => some numeral
  | _ => none

/-- Without fraction and exponent part. -/
def isWhole (numeral : Numeral) : Bool :=
  numeral.fraction.isEmpty && numeral.power.isNone

/-- A whole numeral without a sign that fits 64 bits. -/
def toCount? (numeral : Numeral) : Option Nat :=
  let number := naturalFrom 0 numeral.whole
  if numeral.isWhole && !numeral.negative && decide (number < Nat.pow 2 64) then some number
  else none

end Numeral

end Dispatch.Decimal
