import Dispatch.Error
import Dispatch.Scalar

namespace Dispatch

/-! What a network block needs to know of its nodes and lines. -/

/-- The kinds of lines in a network, read off their susceptances. -/
inductive LineKind
  | none
  | hvdc
  | ac
  | hybrid
deriving DecidableEq, Repr

def LineKind.name : LineKind → String
  | .none => "None"
  | .hvdc => "Hvdc"
  | .ac => "Ac"
  | .hybrid => "Hybrid"

/-- Without susceptances every line is an HVDC line. -/
def LineKind.classify {K : Type} [Scalar K] (lines : Nat) (susceptance : List K) :
    LineKind :=
  if lines = 0 then .none
  else
    let zeros := susceptance.countP fun value => value == 0
    if zeros = susceptance.length then .hvdc
    else if zeros = 0 then .ac
    else .hybrid

/-- The answers of a network descriptor. Susceptances and costs may be empty, which
stands for zero everywhere; distribution factors are one row of nodes per line. -/
structure Topology (K : Type) where
  classname : String
  nodes : Nat
  lines : Nat
  start : List Nat
  finish : List Nat
  minFlow : List K
  maxFlow : List K
  susceptance : List K
  cost : List K
  factors : Option (List K)
  nodeNames : List String
  lineNames : List String

namespace Topology

variable {K : Type} [Scalar K]

def lineKind (topology : Topology K) : LineKind :=
  .classify topology.lines topology.susceptance

def isHvdc (topology : Topology K) (line : Nat) : Bool :=
  match topology.susceptance[line]? with
  | none => true
  | some value => value == 0

def acLines (topology : Topology K) : List Nat :=
  (List.range topology.lines).filter fun line => !topology.isHvdc line

def hasCost (topology : Topology K) : Bool :=
  topology.cost.any fun value => value != 0

/-- Zero outside the matrix. -/
def factor (topology : Topology K) (line node : Nat) : K :=
  ((topology.factors.bind fun matrix =>
    matrix[line * topology.nodes + node]?)).getD 0

def startOf (topology : Topology K) (line : Nat) : Nat :=
  topology.start.getD line 0

def finishOf (topology : Topology K) (line : Nat) : Nat :=
  topology.finish.getD line 0

def minFlowOf (topology : Topology K) (line : Nat) : K :=
  topology.minFlow.getD line 0

def maxFlowOf (topology : Topology K) (line : Nat) : K :=
  topology.maxFlow.getD line 0

def checkLength (what : String) (expected found : Nat) : Except Error PUnit :=
  if found = expected then .ok ⟨⟩ else .error (.shape what expected found)

def checkOptionalLength (what : String) (expected found : Nat) : Except Error PUnit :=
  if found = 0 then .ok ⟨⟩ else checkLength what expected found

/-- Every array of lines matches the line count and every endpoint is a node. -/
def checkShape (topology : Topology K) : Except Error PUnit := do
  checkLength "StartLine" topology.lines topology.start.length
  checkLength "EndLine" topology.lines topology.finish.length
  checkLength "MinPowerFlow" topology.lines topology.minFlow.length
  checkLength "MaxPowerFlow" topology.lines topology.maxFlow.length
  checkOptionalLength "Susceptance" topology.lines topology.susceptance.length
  checkOptionalLength "NetworkCost" topology.lines topology.cost.length
  match topology.factors with
  | none => pure ⟨⟩
  | some matrix => checkLength "PTDF" (topology.lines * topology.nodes) matrix.length
  match (topology.start ++ topology.finish).find? fun node =>
      decide (topology.nodes ≤ node) with
  | none => pure ⟨⟩
  | some node => throw (.outOfRange "node" node topology.nodes)

end Topology

end Dispatch
