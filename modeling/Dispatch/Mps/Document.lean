import Dispatch.Model
import Dispatch.Mps.Index

namespace Dispatch

/-! A model flattened for a solver. Boxes are folded into the bounds of their columns,
rows bounded on neither side are left out, and constants move to the right-hand side. -/

inductive MpsSense
  | greater
  | less
  | equal
deriving DecidableEq, Repr

structure MpsRow (K : Type) where
  name : String
  sense : MpsSense
  rhs : K
  /-- The width of a row that is bounded on both sides. -/
  range : Option K

/-- A column has at most one factor in the objective and in each row. -/
structure MpsColumn (K : Type) where
  lower : K
  upper : K
  isBinary : Bool
  objective : Option K
  /-- Row numbers with factors, in row order. -/
  factors : List (Nat × K)

structure MpsDocument (K : Type) where
  name : String
  sense : Sense
  objectiveConstant : K
  rows : List (MpsRow K)
  columns : List (MpsColumn K)

namespace Mps

variable {K : Type} [Scalar K]

/-- The sense, right-hand side and range of a row; none for a row bounded on neither
side. -/
def rowForm? (lhs rhs : K) : Option (MpsSense × K × Option K) :=
  match Scalar.isFinite lhs, Scalar.isFinite rhs with
  | false, false => none
  | true, true =>
      if lhs == rhs then some (.equal, lhs, none)
      else some (.greater, lhs, some (rhs - lhs))
  | true, false => some (.greater, lhs, none)
  | false, true => some (.less, rhs, none)

/-- The rows that are kept, numbered, with their families. -/
def keptRows : Nat → List (Entry K) → List (Nat × String × Row K)
  | _, [] => []
  | number, entry :: rest =>
      match entry.constraint with
      | .box _ => keptRows number rest
      | .row row =>
          if (rowForm? row.lhs row.rhs).isSome then
            (number, entry.family, row) :: keptRows (number + 1) rest
          else keptRows number rest

def rowName (family : String) (number : Nat) : String :=
  family ++ "_" ++ toString number

def mpsRow? (number : Nat) (family : String) (row : Row K) : Option (MpsRow K) :=
  (rowForm? row.lhs row.rhs).map fun (sense, rhs, range) =>
    ⟨rowName family number, sense, rhs - row.function.constant, range⟩

def total? (values : List K) : Option K :=
  match values with
  | [] => none
  | first :: rest => some (rest.foldl (· + ·) first)

def mergeFrom (row : Nat) (total : K) : List (Nat × K) → List (Nat × K)
  | [] => [(row, total)]
  | (next, value) :: rest =>
      if next = row then mergeFrom row (total + value) rest
      else (row, total) :: mergeFrom next value rest

/-- Adds up neighbours that belong to one row. -/
def mergeRows : List (Nat × K) → List (Nat × K)
  | [] => []
  | (row, value) :: rest => mergeFrom row value rest

/-- Every term of the kept rows, with its row number. -/
def rowTerms (rows : List (Nat × String × Row K)) : List (VarRef × (Nat × K)) :=
  rows.flatMap fun row => row.2.2.function.terms.map fun term => (term.1, row.1, term.2)

def boxes (entries : List (Entry K)) : List (VarRef × Box K) :=
  entries.filterMap fun entry =>
    match entry.constraint with
    | .row _ => none
    | .box box => some (box.var, box)

/-- A column from its decision, its boxes, its coefficients in the objectives and those in
the rows. -/
def column (decision : Variable K) (boxes : List (Box K)) (objectiveValues : List K)
    (rowValues : List (Nat × K)) : MpsColumn K where
  lower := boxes.foldl (fun lower box => Scalar.larger lower box.lhs) decision.lower
  upper := boxes.foldl (fun upper box => Scalar.smaller upper box.rhs) decision.upper
  isBinary := decision.kind == .binary
  objective := total? objectiveValues
  factors := mergeRows rowValues

/-- The first variable that no column stands for. -/
def firstUnknown? (known : VarRef → Bool) (vars : List VarRef) : Option VarRef :=
  vars.find? fun var => !known var

/-- The variables that an export of the constraint refers to; a row that is left out
refers to none. -/
def exportedVars (constraint : Constraint K) : List VarRef :=
  match constraint with
  | .box box => [box.var]
  | .row row =>
      if (rowForm? row.lhs row.rhs).isSome then row.function.terms.map Prod.fst else []

def firstSense (objectives : List (Objective K)) : Sense :=
  (objectives.head?.map Objective.sense).getD .minimise

/-- Fails on a variable that the model does not have, in the objectives or, after them, in
a constraint. -/
def ofModel (model : Model K) (name : String) : Except Error (MpsDocument K) :=
  let objectiveTerms := model.objectives.flatMap fun objective =>
    objective.function.terms
  let mentioned := objectiveTerms.map Prod.fst ++
    model.constraints.flatMap fun entry => exportedVars entry.constraint
  let known := VarIndex.ofEntries model.vars
  match firstUnknown? known.contains mentioned with
  | some var => .error (.unknownVariable var)
  | none =>
      let rows := keptRows 0 model.constraints
      let boxIndex := VarIndex.ofEntries (boxes model.constraints)
      let objectiveIndex := VarIndex.ofEntries objectiveTerms
      let rowIndex := VarIndex.ofEntries (rowTerms rows)
      .ok {
        name
        sense := firstSense model.objectives
        objectiveConstant := model.objectives.foldl
          (fun total objective => total + objective.function.constant) 0
        rows := rows.filterMap fun row => mpsRow? row.1 row.2.1 row.2.2
        columns := model.vars.map fun entry =>
          column entry.2 (boxIndex.find entry.1) (objectiveIndex.find entry.1)
            (rowIndex.find entry.1) }

end Mps

end Dispatch
