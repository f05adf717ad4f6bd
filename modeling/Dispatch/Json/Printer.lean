import Dispatch.Json.Value

namespace Dispatch.Json

/-! Writing, on one line or with two spaces of indentation per bracket. Only quotes,
backslashes and control characters are escaped. -/

def hexLetter (digit : Nat) : Char :=
  if digit < 10 then Char.ofNat ('0'.toNat + digit)
  else Char.ofNat ('a'.toNat + (digit - 10))

def escape (character : Char) : List Char :=
  if character = '"' then ['\\', '"']
  else if character = '\\' then ['\\', '\\']
  else if character = '\n' then ['\\', 'n']
  else if character = '\r' then ['\\', 'r']
  else if character = '\t' then ['\\', 't']
  else if character.toNat = 8 then ['\\', 'b']
  else if character.toNat = 12 then ['\\', 'f']
  else if character.toNat < 0x20 then
    ['\\', 'u', '0', '0', hexLetter (character.toNat / 16),
      hexLetter (character.toNat % 16)]
  else [character]

def quote (text : String) : String :=
  String.ofList ('"' :: (text.toList.flatMap escape ++ ['"']))

/-- A string without text cannot be written and stands as null. -/
def stringText : Option String → String
  | some text => quote text
  | none => "null"

def leafText : Json → String
  | .boolean true => "true"
  | .boolean false => "false"
  | .number text => text
  | .string text => stringText text
  | _ => "null"

def separated (separator : String) (parts : List String) : String :=
  String.intercalate separator parts

mutual
def compact : Json → String
  | .list items => "[" ++ separated "," (compactItems items) ++ "]"
  | .object fields => "\x7b" ++ separated "," (compactFields fields) ++ "\x7d"
  | leaf => leafText leaf

def compactItems : List Json → List String
  | [] => []
  | item :: rest => compact item :: compactItems rest

def compactFields : List (Option String × Json) → List String
  | [] => []
  | (name, value) :: rest =>
      (stringText name ++ ":" ++ compact value) :: compactFields rest
end

def indentation (depth : Nat) : String :=
  String.ofList ('\n' :: List.replicate (2 * depth) ' ')

/-- Brackets around parts on lines of their own; nothing between empty brackets. -/
def bracketed (opening closing : String) (depth : Nat) (parts : List String) : String :=
  if parts.isEmpty then opening ++ closing
  else
    opening ++ indentation (depth + 1) ++
      separated ("," ++ indentation (depth + 1)) parts ++ indentation depth ++ closing

mutual
def indented (depth : Nat) : Json → String
  | .list items => bracketed "[" "]" depth (indentedItems (depth + 1) items)
  | .object fields =>
      bracketed "\x7b" "\x7d" depth (indentedFields (depth + 1) fields)
  | leaf => leafText leaf

def indentedItems (depth : Nat) : List Json → List String
  | [] => []
  | item :: rest => indented depth item :: indentedItems depth rest

def indentedFields (depth : Nat) : List (Option String × Json) → List String
  | [] => []
  | (name, value) :: rest =>
      (stringText name ++ ": " ++ indented depth value) :: indentedFields depth rest
end

def pretty (value : Json) : String :=
  indented 0 value

end Dispatch.Json
