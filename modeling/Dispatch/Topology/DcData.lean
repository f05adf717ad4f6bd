import Dispatch.Change.Effect
import Dispatch.Group.Layouts
import Dispatch.Topology.Basic

namespace Dispatch

/-! A checked DC topology: nodes, lines with endpoints and flow limits, and optional
susceptances, costs and distribution factors. -/

structure DcData (K : Type) where
  nodes : Nat
  start : List Nat
  finish : List Nat
  minFlow : List K
  maxFlow : List K
  susceptance : List K
  cost : List K
  factors : Option (List K)
  nodeNames : List String
  lineNames : List String
  layouts : Layouts

namespace DcData

variable {K : Type} [Scalar K]

def classname : String := "DCNetworkData"

/-- A single node without lines. -/
def bus : DcData K where
  nodes := 1
  start := []
  finish := []
  minFlow := []
  maxFlow := []
  susceptance := []
  cost := []
  factors := none
  nodeNames := []
  lineNames := []
  layouts := Layouts.none

def lines (data : DcData K) : Nat :=
  data.start.length

def topology (data : DcData K) : Topology K where
  classname := classname
  nodes := data.nodes
  lines := data.lines
  start := data.start
  finish := data.finish
  minFlow := data.minFlow
  maxFlow := data.maxFlow
  susceptance := data.susceptance
  cost := data.cost
  factors := data.factors
  nodeNames := data.nodeNames
  lineNames := data.lineNames

def checkNode (nodes node : Nat) : Except Error PUnit :=
  if nodes ≤ node then .error (.outOfRange "node" node nodes) else .ok ⟨⟩

/-- Endpoints are nodes, and no line joins a node to itself. -/
def checkEndpoints (nodes : Nat) : Nat → List (Nat × Nat) → Except Error PUnit
  | _, [] => .ok ⟨⟩
  | line, (start, finish) :: rest => do
      checkNode nodes start
      checkNode nodes finish
      if start = finish then throw (.invalidTopology (.selfLoop line start))
      checkEndpoints nodes (line + 1) rest

def validate (data : DcData K) : Except Error PUnit := do
  if data.nodes = 0 then throw (.invalidTopology .noNodes)
  if data.nodes = 1 ∧ 0 < data.lines then throw (.invalidTopology .linesOnSingleNode)
  Topology.checkLength "EndLine" data.lines data.finish.length
  Topology.checkLength "MinPowerFlow" data.lines data.minFlow.length
  Topology.checkLength "MaxPowerFlow" data.lines data.maxFlow.length
  checkEndpoints data.nodes 0 (data.start.zip data.finish)

/-- A topology with flow limits and nothing optional. -/
def new (nodes : Nat) (start finish : List Nat) (minFlow maxFlow : List K) :
    Except Error (DcData K) := do
  let data : DcData K := { bus with nodes, start, finish, minFlow, maxFlow }
  data.validate
  return data

/-- The parts that can be replaced later. -/
inductive Edit (K : Type)
  | susceptance (values : List K)
  | cost (values : List K)
  | factors (matrix : Option (List K))
  | flowLimits (minFlow maxFlow : List K)
  | nodeNames (names : List String)
  | lineNames (names : List String)

def edited (data : DcData K) : Edit K → Except Error (DcData K)
  | .susceptance values => do
      Topology.checkOptionalLength "Susceptance" data.lines values.length
      return { data with susceptance := values }
  | .cost values => do
      Topology.checkOptionalLength "NetworkCost" data.lines values.length
      return { data with cost := values }
  | .factors none => return { data with factors := none }
  | .factors (some matrix) => do
      Topology.checkLength "PTDF" (data.lines * data.nodes) matrix.length
      return { data with factors := some matrix }
  | .flowLimits minFlow maxFlow => do
      let minFlow ← broadcast minFlow data.lines "MinPowerFlow"
      let maxFlow ← broadcast maxFlow data.lines "MaxPowerFlow"
      return { data with minFlow, maxFlow }
  | .nodeNames names => do
      Topology.checkOptionalLength "NodeName" data.nodes names.length
      return { data with nodeNames := names }
  | .lineNames names => do
      Topology.checkOptionalLength "LineName" data.lines names.length
      return { data with lineNames := names }

/-- A refused edit leaves the data as it was. -/
def edit (edit : Edit K) : Change (DcData K) PUnit := do
  let data ← Change.current
  let data ← Change.require (data.edited edit)
  Change.write fun _ => data

def sameFactors : Option (List K) → Option (List K) → Bool
  | none, none => true
  | some left, some right => Scalar.same left right
  | _, _ => false

/-- Equal topologies, however they were laid out on file. -/
def same (left right : DcData K) : Bool :=
  left.nodes == right.nodes && left.start == right.start &&
    left.finish == right.finish && Scalar.same left.minFlow right.minFlow &&
    Scalar.same left.maxFlow right.maxFlow &&
    Scalar.same left.susceptance right.susceptance && Scalar.same left.cost right.cost &&
    sameFactors left.factors right.factors && left.nodeNames == right.nodeNames &&
    left.lineNames == right.lineNames

end DcData

end Dispatch
