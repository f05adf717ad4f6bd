import Dispatch.Decimal.Style
import Dispatch.Mps.Document

namespace Dispatch

/-! The free-format text of a flattened model. Bounds are relative to the default of a
column, from zero to infinity, and right-hand sides relative to zero. -/

namespace Mps

variable {K : Type} [Scalar K]

inductive BoundKind
  | lower
  | upper
  | fixed
  | free
  | minusInfinity
  | binary
deriving DecidableEq, Repr

def BoundKind.code : BoundKind → String
  | .lower => "LO"
  | .upper => "UP"
  | .fixed => "FX"
  | .free => "FR"
  | .minusInfinity => "MI"
  | .binary => "BV"

def MpsSense.code : MpsSense → String
  | .greater => "G"
  | .less => "L"
  | .equal => "E"

def objectiveRow : String := "OBJ"

def columnName (number : Nat) : String :=
  "x" ++ toString number

/-- The entries of one column, with a value where the kind takes one. -/
def columnBounds (column : MpsColumn K) : List (BoundKind × Option K) :=
  let lower := column.lower
  let upper := column.upper
  if column.isBinary && lower == 0 && upper == 1 then [(.binary, none)]
  else if lower == upper then [(.fixed, some lower)]
  else
    match Scalar.isFinite lower, Scalar.isFinite upper with
    | false, false => [(.free, none)]
    | false, true => [(.minusInfinity, none), (.upper, some upper)]
    | true, isBounded =>
        (if lower != 0 then [(.lower, some lower)] else []) ++
          (if isBounded then [(.upper, some upper)] else [])

end Mps

namespace MpsDocument

open Mps

variable {K : Type} [Scalar K] (numeral : K → String) (document : MpsDocument K)

def senseLine : Sense → String
  | .minimise => "    MIN"
  | .maximise => "    MAX"

def rowLines : List String :=
  document.rows.map fun row => " " ++ MpsSense.code row.sense ++ " " ++ row.name

def factorLine (column row : String) (value : K) : String :=
  "    " ++ column ++ " " ++ row ++ " " ++ numeral value

/-- The lines of one column, given the name of every row. -/
def columnLines (rowNames : Array String) (place : Nat) (column : MpsColumn K) :
    List String :=
  (column.objective.toList.map (factorLine numeral (columnName place) objectiveRow)) ++
    column.factors.filterMap fun factor =>
      (rowNames[factor.1]?).map fun row =>
        factorLine numeral (columnName place) row factor.2

def rhsLines : List String :=
  (if document.objectiveConstant != 0 then
    ["    RHS " ++ objectiveRow ++ " " ++ numeral (-document.objectiveConstant)]
  else []) ++
    document.rows.filterMap fun row =>
      if row.rhs != 0 then some ("    RHS " ++ row.name ++ " " ++ numeral row.rhs)
      else none

def rangeLines : List String :=
  document.rows.filterMap fun row =>
    row.range.map fun range => "    RNG " ++ row.name ++ " " ++ numeral range

def boundLine (column : String) (bound : BoundKind × Option K) : String :=
  " " ++ bound.1.code ++ " BND " ++ column ++
    (match bound.2 with
    | none => ""
    | some value => " " ++ numeral value)

def lines : List String :=
  let rowNames := (document.rows.map MpsRow.name).toArray
  ["NAME " ++ document.name, "OBJSENSE", senseLine document.sense, "ROWS",
    " N " ++ objectiveRow] ++ document.rowLines ++ ["COLUMNS"] ++
    (document.columns.mapIdx (columnLines numeral rowNames)).flatten ++ ["RHS"] ++
    document.rhsLines numeral ++ ["RANGES"] ++ document.rangeLines numeral ++ ["BOUNDS"] ++
    (document.columns.mapIdx fun place column =>
      (columnBounds column).map (boundLine numeral (columnName place))).flatten ++ ["ENDATA"]

def text : String :=
  String.join ((document.lines numeral).map fun line => line ++ "\n")

end MpsDocument

/-- The text of a model's export, with the numerals of `numeral`. -/
def Model.mpsWith {K : Type} [Scalar K] (numeral : K → String) (model : Model K)
    (name : String) : Except Error String :=
  (Mps.ofModel model name).map (MpsDocument.text numeral)

def Model.mps (model : Model Float) (name : String) : Except Error String :=
  model.mpsWith Decimal.Style.plain.text name

end Dispatch
