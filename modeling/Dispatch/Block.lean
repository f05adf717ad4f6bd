namespace Dispatch

/-! Blocks are numbered in the order of their creation, and a variable is named by
the block that stores it and its slot there. -/

structure BlockId where
  number : Nat
deriving DecidableEq, Hashable, Repr, Inhabited

def BlockId.text (block : BlockId) : String :=
  "#" ++ toString block.number

structure VarRef where
  block : BlockId
  slot : Nat
deriving DecidableEq, Hashable, Repr, Inhabited

def VarRef.text (var : VarRef) : String :=
  var.block.text ++ ":" ++ toString var.slot

inductive Stage
  | empty
  | vars
  | constraints
  | objective
deriving DecidableEq, Repr, Inhabited

namespace Stage

def rank : Stage → Nat
  | .empty => 0
  | .vars => 1
  | .constraints => 2
  | .objective => 3

def name : Stage → String
  | .empty => "Empty"
  | .vars => "VariablesGenerated"
  | .constraints => "ConstraintsGenerated"
  | .objective => "ObjectiveGenerated"

/-- What the step that leads to a stage generates. -/
def product : Stage → String
  | .empty => "nothing"
  | .vars => "variables"
  | .constraints => "constraints"
  | .objective => "objective"

def predecessor : Stage → Stage
  | .empty => .empty
  | .vars => .empty
  | .constraints => .vars
  | .objective => .constraints

def reached (stage target : Stage) : Bool :=
  decide (target.rank ≤ stage.rank)

def hasVariables (stage : Stage) : Bool := stage.reached .vars

def hasConstraints (stage : Stage) : Bool := stage.reached .constraints

def hasObjective (stage : Stage) : Bool := stage.reached .objective

end Stage

end Dispatch
