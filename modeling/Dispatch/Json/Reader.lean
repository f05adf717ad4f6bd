import Dispatch.Json.Value

namespace Dispatch.Json

/-! Strict reading: no text after the value, no comments, no raw control characters. -/

def isBlank (character : Char) : Bool :=
  character == ' ' || character == '\n' || character == '\t' || character == '\r'

def skipBlanks (characters : List Char) : List Char :=
  characters.dropWhile isBlank

def hexDigit? (character : Char) : Option Nat :=
  if '0' ≤ character ∧ character ≤ '9' then some (character.toNat - '0'.toNat)
  else if 'a' ≤ character ∧ character ≤ 'f' then some (character.toNat - 'a'.toNat + 10)
  else if 'A' ≤ character ∧ character ≤ 'F' then some (character.toNat - 'A'.toNat + 10)
  else none

def hexUnit? (first second third fourth : Char) : Option Nat := do
  let first ← hexDigit? first
  let second ← hexDigit? second
  let third ← hexDigit? third
  let fourth ← hexDigit? fourth
  return ((first * 16 + second) * 16 + third) * 16 + fourth

def isHighSurrogate (unit : Nat) : Bool :=
  decide (0xD800 ≤ unit) && decide (unit < 0xDC00)

def isLowSurrogate (unit : Nat) : Bool :=
  decide (0xDC00 ≤ unit) && decide (unit < 0xE000)

/-- The unit of an escape that names the second half of a surrogate pair. -/
def lowUnit? (characters : List Char) : Option Nat :=
  match characters with
  | '\\' :: 'u' :: first :: second :: third :: fourth :: _ =>
      (hexUnit? first second third fourth).filter isLowSurrogate
  | _ => none

def joinSurrogates (high low : Nat) : Char :=
  Char.ofNat (0x10000 + (high - 0xD800) * 0x400 + (low - 0xDC00))

/-- The character that an escape with one letter names. -/
def escaped? (letter : Char) : Option Char :=
  match letter with
  | '"' => some '"'
  | '\\' => some '\\'
  | '/' => some '/'
  | 'b' => some (Char.ofNat 8)
  | 'f' => some (Char.ofNat 12)
  | 'n' => some '\n'
  | 'r' => some '\r'
  | 't' => some '\t'
  | _ => none

def prepend (character : Char) :
    Option (List Char) × List Char → Option (List Char) × List Char
  | (text, rest) => (text.map (character :: ·), rest)

/-- The rest of a string whose opening quote has been read: its text, if it has one, and
what follows the closing quote. -/
def quoted? (characters : List Char) : Option (Option (List Char) × List Char) :=
  match characters with
  | [] => none
  | '"' :: rest => some (some [], rest)
  | '\\' :: 'u' :: first :: second :: third :: fourth :: rest =>
      match hexUnit? first second third fourth with
      | none => none
      | some unit =>
          if isHighSurrogate unit then
            match lowUnit? rest with
            | some low =>
                (quoted? (rest.drop 6)).map (prepend (joinSurrogates unit low))
            | none => (quoted? rest).map fun (_, rest) => (none, rest)
          else if isLowSurrogate unit then
            (quoted? rest).map fun (_, rest) => (none, rest)
          else (quoted? rest).map (prepend (Char.ofNat unit))
  | '\\' :: letter :: rest =>
      match escaped? letter with
      | none => none
      | some character => (quoted? rest).map (prepend character)
  | character :: rest =>
      if character.toNat < 0x20 ∨ character = '\\' then none
      else (quoted? rest).map (prepend character)
termination_by characters.length
decreasing_by all_goals (simp only [List.length_cons, List.length_drop]; omega)

def string? (characters : List Char) : Option (Option String × List Char) :=
  (quoted? characters).map fun (text, rest) => (text.map String.ofList, rest)

def mayStandInNumber (character : Char) : Bool :=
  character.isDigit || character == '-' || character == '+' || character == '.' ||
    character == 'e' || character == 'E'

/-- A number keeps the characters it was written with. -/
def number? (characters : List Char) : Option (Json × List Char) :=
  let run := characters.takeWhile mayStandInNumber
  (Decimal.Numeral.split? run).map fun (_, rest) =>
    let length := run.length - rest.length
    (.number (String.ofList (run.take length)), characters.drop length)

def word? (word : List Char) (value : Json) (characters : List Char) :
    Option (Json × List Char) :=
  if characters.take word.length = word then some (value, characters.drop word.length)
  else none

mutual
/-- Every call reads at least one character between two decrements of `fuel`. -/
def value? (fuel : Nat) (characters : List Char) : Option (Json × List Char) :=
  match fuel with
  | 0 => none
  | fuel + 1 =>
      match skipBlanks characters with
      | '"' :: rest => (string? rest).map fun (text, rest) => (.string text, rest)
      | '[' :: rest =>
          match skipBlanks rest with
          | ']' :: rest => some (.list [], rest)
          | _ => (items? fuel rest).map fun (items, rest) => (.list items, rest)
      | '{' :: rest =>
          match skipBlanks rest with
          | '}' :: rest => some (.object [], rest)
          | _ => (members? fuel rest).map fun (fields, rest) => (.object fields, rest)
      | 'n' :: rest => word? ['u', 'l', 'l'] .null rest
      | 't' :: rest => word? ['r', 'u', 'e'] (.boolean true) rest
      | 'f' :: rest => word? ['a', 'l', 's', 'e'] (.boolean false) rest
      | characters => number? characters

def items? (fuel : Nat) (characters : List Char) : Option (List Json × List Char) :=
  match fuel with
  | 0 => none
  | fuel + 1 => do
      let (item, rest) ← value? fuel characters
      match skipBlanks rest with
      | ',' :: rest =>
          let (items, rest) ← items? fuel rest
          return (item :: items, rest)
      | ']' :: rest => return ([item], rest)
      | _ => none

def members? (fuel : Nat) (characters : List Char) :
    Option (List (Option String × Json) × List Char) :=
  match fuel with
  | 0 => none
  | fuel + 1 =>
      match skipBlanks characters with
      | '"' :: rest => do
          let (name, rest) ← string? rest
          match skipBlanks rest with
          | ':' :: rest =>
              let (value, rest) ← value? fuel rest
              match skipBlanks rest with
              | ',' :: rest =>
                  let (fields, rest) ← members? fuel rest
                  return ((name, value) :: fields, rest)
              | '}' :: rest => return ([(name, value)], rest)
              | _ => none
          | _ => none
      | _ => none
end

def read? (text : String) : Option Json :=
  let characters := text.toList
  match value? (2 * characters.length + 2) characters with
  | some (value, rest) => if (skipBlanks rest).isEmpty then some value else none
  | none => none

end Dispatch.Json
