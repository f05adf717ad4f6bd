import Dispatch.Decimal.Shortest

namespace Dispatch.Decimal

/-! How the shortest digits of a double are laid out. The three texts of this project
differ only in the values of this record. -/

structure Style where
  /-- Whether a number with its decimal point after so many digits is written plainly. -/
  isPlain : Int → Bool
  /-- What follows a plain whole number. -/
  wholeEnd : String
  /-- What stands before an exponent that is not negative. -/
  exponentMark : String
  tie : Tie

namespace Style

/-- Never an exponent, and whole numbers without a point. -/
def plain : Style where
  isPlain _ := true
  wholeEnd := ""
  exponentMark := "e"
  tie := .up

def isModerate (point : Int) : Bool :=
  decide (-5 < point) && decide (point ≤ 16)

/-- Tables keep a point in whole numbers and turn to exponents outside `1e-5` to
`1e16`. -/
def table : Style where
  isPlain := isModerate
  wholeEnd := ".0"
  exponentMark := "e"
  tie := .even

/-- Files are written as tables are, but with a sign on every exponent. -/
def file : Style where
  isPlain := isModerate
  wholeEnd := ".0"
  exponentMark := "e+"
  tie := .even

def zeros (count : Nat) : String :=
  String.ofList (List.replicate count '0')

def plainText (style : Style) (digits : String) (point : Int) : String :=
  let count := digits.length
  if point ≤ 0 then "0." ++ zeros (-point).toNat ++ digits
  else if point.toNat < count then
    (digits.take point.toNat).toString ++ "." ++ (digits.drop point.toNat).toString
  else digits ++ zeros (point.toNat - count) ++ style.wholeEnd

def exponentText (style : Style) (exponent : Int) : String :=
  if exponent < 0 then "e-" ++ toString exponent.natAbs
  else style.exponentMark ++ toString exponent.natAbs

def scientificText (style : Style) (digits : String) (point : Int) : String :=
  let rest := (digits.drop 1).toString
  (digits.take 1).toString ++ (if rest.isEmpty then "" else "." ++ rest) ++
    style.exponentText (point - 1)

def digitsText (style : Style) (decimal : Digits) : String :=
  let digits := toString decimal.digits
  let point := Int.ofNat digits.length + decimal.exponent
  if style.isPlain point then style.plainText digits point
  else style.scientificText digits point

def text (style : Style) (value : Float) : String :=
  if value.isNaN then "NaN"
  else
    let bits := value.toBits.toNat
    let sign := if bits / Nat.pow 2 63 = 1 then "-" else ""
    let size := bits % Nat.pow 2 63
    sign ++
      (if value.isInf then "inf"
      else if size = 0 then "0" ++ style.wholeEnd
      else style.digitsText (shortest style.tie (.ofBits size)))

end Style

end Dispatch.Decimal
