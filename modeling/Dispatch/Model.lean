import Dispatch.Block
import Dispatch.Constraint

namespace Dispatch

/-! What a block shows of its generated representation: its own part and those of its
members, in visiting order. Every question that does not depend on the kind of block
is asked of this view. -/

/-- How strictly a block checks whether it is feasible. -/
structure Tolerance (K : Type) where
  amount : K
  relative : Bool

def Tolerance.exact {K : Type} [Scalar K] : Tolerance K := ⟨0, true⟩

structure Settings (K : Type) where
  feasibility : Option (Tolerance K)

/-- A tolerance given with the question, else the one of the block, else an exact
relative one. -/
def Settings.resolve {K : Type} [Scalar K] (explicit : Option (Tolerance K))
    (block : Option (Settings K)) : Tolerance K :=
  (explicit <|> block.bind Settings.feasibility).getD .exact

structure Model (K : Type) where
  block : BlockId
  kind : String
  stage : Stage
  settings : Option (Settings K)
  vars : List (VarRef × Variable K)
  lookup? : VarRef → Option (Variable K)
  constraints : List (Entry K)
  objectives : List (Objective K)

namespace Model

variable {K : Type} [Scalar K]

def addObjectives (lookup? : VarRef → Option (Variable K)) :
    List (Objective K) → K → Except Error K
  | [], total => .ok total
  | objective :: rest, total =>
      match objective.function.evaluate lookup? with
      | .error error => .error error
      | .ok value => addObjectives lookup? rest (total + value)

/-- The sum of all objectives at the current variables. -/
def objectiveValue (model : Model K) : Except Error K :=
  addObjectives model.lookup? model.objectives 0

def satisfied (lookup? : VarRef → Option (Variable K)) (tolerance : Tolerance K) :
    List (Entry K) → Except Error Bool
  | [] => .ok true
  | entry :: rest =>
      match entry.constraint.violation lookup? tolerance.relative with
      | .error error => .error error
      | .ok violation =>
          if Scalar.atMost violation tolerance.amount then
            satisfied lookup? tolerance rest
          else .ok false

/-- Every variable is within its bounds and no constraint is violated by more than the
tolerance. A block without representation is feasible. -/
def isFeasible (model : Model K) (explicit : Option (Tolerance K)) :
    Except Error Bool :=
  let tolerance := Settings.resolve explicit model.settings
  if model.vars.all fun entry => entry.2.isFeasible tolerance.amount then
    satisfied model.lookup? tolerance model.constraints
  else .ok false

def violations (model : Model K) (relative : Bool) : List (Except Error K) :=
  model.constraints.map fun entry => entry.constraint.violation model.lookup? relative

end Model

end Dispatch
