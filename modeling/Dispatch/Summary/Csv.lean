import Dispatch.Decimal.Style
import Dispatch.Model

namespace Dispatch

/-! Tables of a model, with one line per constraint or per variable. A table without
lines has no heading either. -/

namespace Csv

/-- A comma, a quote or a line end inside a field puts the field in quotes. -/
def needsQuotes (text : String) : Bool :=
  text.toList.any fun character =>
    character == ',' || character == '"' || character == '\n' || character == '\r'

/-- A quote inside a quoted field is written twice. -/
def field (text : String) : String :=
  if needsQuotes text then
    String.ofList ('"' :: (text.toList.flatMap fun character =>
      if character = '"' then ['"', '"'] else [character]) ++ ['"'])
  else text

def line (fields : List String) : String :=
  String.intercalate "," (fields.map field) ++ "\n"

def table (heading : List String) (lines : List (List String)) : String :=
  if lines.isEmpty then "" else String.join ((heading :: lines).map line)

def number (value : Float) : String :=
  Decimal.Style.table.text value

end Csv

namespace Model

variable (model : Model Float)

def constraintTable : String :=
  Csv.table ["family", "index", "lhs", "rhs", "nonzeros"]
    (model.constraints.map fun entry =>
      [entry.family, toString entry.index, Csv.number entry.constraint.lhs,
        Csv.number entry.constraint.rhs, toString entry.constraint.nonzeros])

def variableTable : String :=
  Csv.table ["block", "slot", "lower", "upper", "value"]
    (model.vars.map fun entry =>
      [entry.1.block.text, toString entry.1.slot, Csv.number entry.2.lower,
        Csv.number entry.2.upper, Csv.number entry.2.value])

end Model

end Dispatch
