import Dispatch.Decimal.Rounding

namespace Dispatch

/-! JSON texts as trees. A number keeps its written form, since whether it is whole is
part of what a file says. A string whose escapes name half of a surrogate pair has no
text: it may stand where a value is skipped and nowhere else. -/

inductive Json
  | null
  | boolean (value : Bool)
  | number (text : String)
  | string (text : Option String)
  | list (items : List Json)
  | object (fields : List (Option String × Json))

namespace Json

def text (value : String) : Json := .string (some value)

def count (value : Nat) : Json := .number (toString value)

def record (fields : List (String × Json)) : Json :=
  .object (fields.map fun field => (some field.1, field.2))

def numeral? : Json → Option Decimal.Numeral
  | .number text => Decimal.Numeral.read? text
  | _ => none

/-- A double within range. -/
def double? (value : Json) : Option Float :=
  value.numeral?.bind Decimal.Numeral.toDouble?

/-- An unsigned 64-bit number written without sign, fraction and exponent. -/
def count? (value : Json) : Option Nat :=
  value.numeral?.bind Decimal.Numeral.toCount?

def boolean? : Json → Option Bool
  | .boolean value => some value
  | _ => none

def text? : Json → Option String
  | .string text => text
  | _ => none

def list? : Json → Option (List Json)
  | .list items => some items
  | _ => none

/-- Every name of the object has a text. -/
def fields? : Json → Option (List (String × Json))
  | .object fields => fields.mapM fun field => field.1.map fun name => (name, field.2)
  | _ => none

/-- Whether everything inside can be read: numbers within range, strings with a text,
and at most `depth` brackets around any part. -/
def isReadable : Nat → Json → Bool
  | _, .null => true
  | _, .boolean _ => true
  | _, .number text => (Json.double? (.number text)).isSome
  | _, .string text => text.isSome
  | 0, .list _ => false
  | 0, .object _ => false
  | depth + 1, .list items => items.all (isReadable depth)
  | depth + 1, .object fields => fields.all fun field =>
      field.1.isSome && isReadable depth field.2

end Json

end Dispatch
