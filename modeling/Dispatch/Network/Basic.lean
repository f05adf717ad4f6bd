import Dispatch.Change.Effect
import Dispatch.Group.Layouts
import Dispatch.Model
import Dispatch.Topology.Descriptor

namespace Dispatch

/-! A network over one or more intervals: node injections and line flows, a demand per
interval and node, and a factor kappa per line that scales its flow limits. With a single
node it is a bus and generates nothing, since its parent balances it. -/

/-- The limits on the flows, one form per kind of lines: boxes on HVDC flows,
distribution rows for AC lines, and for a mix both as rows. -/
inductive FlowLimits (K : Type)
  | none
  | hvdc (limits : Family (Box K))
  | ac (limits : Family (Row K))
  | hybrid (limits : Family (Row K))

namespace FlowLimits

variable {K : Type}

def size : FlowLimits K → Nat
  | .none => 0
  | .hvdc limits => limits.size
  | .ac limits => limits.size
  | .hybrid limits => limits.size

def kind : FlowLimits K → LineKind
  | .none => .none
  | .hvdc _ => .hvdc
  | .ac _ => .ac
  | .hybrid _ => .hybrid

def bounds? (limits : FlowLimits K) (interval line : Nat) : Option (K × K) :=
  match limits with
  | .none => Option.none
  | .hvdc limits => (limits.get? interval line).map fun box => (box.lhs, box.rhs)
  | .ac limits => (limits.get? interval line).map fun row => (row.lhs, row.rhs)
  | .hybrid limits => (limits.get? interval line).map fun row => (row.lhs, row.rhs)

def setBounds (limits : FlowLimits K) (interval line : Nat) (lhs rhs : K) :
    FlowLimits K :=
  match limits with
  | .none => .none
  | .hvdc limits => .hvdc (limits.modify interval line (Box.setBounds lhs rhs))
  | .ac limits => .ac (limits.modify interval line (Row.setBounds lhs rhs))
  | .hybrid limits => .hybrid (limits.modify interval line (Row.setBounds lhs rhs))

def entries : FlowLimits K → List (Entry K)
  | .none => []
  | .hvdc limits => limits.entries
  | .ac limits => limits.entries
  | .hybrid limits => limits.entries

end FlowLimits

structure NetworkRows (K : Type) where
  flowLimits : FlowLimits K
  injectionBalance : Family (Row K)
  flowDefinition : Family (Row K)
  systemBalance : Family (Row K)
  relaxedFlows : Family (Row K)
  injectionBounds : Family (Box K)
  /-- The lines with a distribution row, in row order. -/
  acLines : List Nat

namespace NetworkRows

variable {K : Type}

def balanceName : String := "HVDC_power_flow_injection"

def definitionName : String := "AC_power_flow_definition"

def systemName : String := "system_balance"

def relaxedName : String := "power_flow_relax_abs"

def boundsName : String := "Node_Injection_Bound_Const_Network"

def none : NetworkRows K where
  flowLimits := .none
  injectionBalance := Family.empty balanceName 0
  flowDefinition := Family.empty definitionName 0
  systemBalance := Family.empty systemName 1
  relaxedFlows := Family.empty relaxedName 0
  injectionBounds := Family.empty boundsName 0
  acLines := []

def entries (rows : NetworkRows K) : List (Entry K) :=
  rows.flowLimits.entries ++ rows.injectionBalance.entries ++
    rows.flowDefinition.entries ++ rows.systemBalance.entries ++
    rows.relaxedFlows.entries ++ rows.injectionBounds.entries

end NetworkRows

structure Network (K : Type) where
  id : BlockId
  stage : Stage
  settings : Option (Settings K)
  notifier : NotifierKey
  descriptor : Option (Holding (Descriptor K))
  /-- The node count of a network without descriptor. -/
  looseNodes : Nat
  intervals : Nat
  /-- One entry per interval and node; empty stands for zero everywhere. -/
  demand : List K
  /-- One entry per line; empty stands for one everywhere. -/
  kappa : List K
  constantTerm : K
  minInjection : List K
  maxInjection : List K
  store : Store K
  nodeInjection : Grid
  powerFlow : Grid
  auxiliary : Grid
  rows : NetworkRows K
  objective : Option (Objective K)
  layouts : Layouts

namespace Network

variable {K : Type} [Scalar K]

/-- A bus over a single interval. -/
def bus (id : BlockId) : Network K where
  id := id
  stage := .empty
  settings := none
  notifier := .own id
  descriptor := none
  looseNodes := 1
  intervals := 1
  demand := []
  kappa := []
  constantTerm := 0
  minInjection := [-Scalar.infinity]
  maxInjection := [Scalar.infinity]
  store := Store.empty id
  nodeInjection := Grid.none
  powerFlow := Grid.none
  auxiliary := Grid.none
  rows := NetworkRows.none
  objective := none
  layouts := Layouts.none

def topology? (network : Network K) : Option (Topology K) :=
  network.descriptor.map fun holding => holding.value.topology

def nodes (network : Network K) : Nat :=
  match network.topology? with
  | none => network.looseNodes
  | some topology => topology.nodes

def lines (network : Network K) : Nat :=
  match network.topology? with
  | none => 0
  | some topology => topology.lines

def lineKind (network : Network K) : LineKind :=
  match network.topology? with
  | none => .none
  | some topology => topology.lineKind

def hasCost (network : Network K) : Bool :=
  match network.topology? with
  | none => false
  | some topology => topology.hasCost

/-- The number of entries per interval and node. -/
def extent (network : Network K) : Nat :=
  network.intervals * network.nodes

def withFreeInjections (network : Network K) : Network K :=
  { network with
    minInjection := List.replicate network.extent (-Scalar.infinity)
    maxInjection := List.replicate network.extent Scalar.infinity }

/-- Demand, kappa and injection bounds belong to a topology and go with it. -/
def attach (network : Network K) (descriptor : Holding (Descriptor K)) : Network K :=
  withFreeInjections
    { network with descriptor := some descriptor, demand := [], kappa := [] }

def new : Creation (Network K) := do
  return bus (← Creation.fresh)

def ofDescriptor (descriptor : Holding (Descriptor K)) : Creation (Network K) := do
  return (← new).attach descriptor

def kappaAt (network : Network K) (line : Nat) : K :=
  network.kappa.getD line 1

/-- There is no kappa past the last line. -/
def kappa? (network : Network K) (line : Nat) : Option K :=
  if line < network.lines then some (network.kappaAt line) else none

def demandAt (network : Network K) (interval node : Nat) : K :=
  if network.demand.isEmpty then 0
  else network.demand.getD (interval * network.nodes + node) 0

/-- The demand of every node; there is none past the last interval. -/
def demand? (network : Network K) (interval : Nat) : Option (List K) :=
  if interval < network.intervals then
    some ((List.range network.nodes).map (network.demandAt interval))
  else none

def injectionVar? (network : Network K) (interval node : Nat) : Option VarRef :=
  network.store.cell? network.nodeInjection interval node

def flowVar? (network : Network K) (interval line : Nat) : Option VarRef :=
  network.store.cell? network.powerFlow interval line

/-- What the network shows of its representation. -/
def model (network : Network K) : Model K where
  block := network.id
  kind := "DCNetworkBlock"
  stage := network.stage
  settings := network.settings
  vars := network.store.entries
  lookup? := network.store.lookup?
  constraints := network.rows.entries
  objectives := network.objective.toList

end Network

end Dispatch
