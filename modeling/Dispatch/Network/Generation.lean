import Dispatch.Error
import Dispatch.Network.Flow

namespace Dispatch.Network

/-! The generated representation of a network. The lines are classified when the
constraints are generated, and the class decides which families exist. -/

variable {K : Type} [Scalar K]

def addGridIf (store : Store K) (wanted : Bool) (rows cols : Nat) : Store K × Grid :=
  if wanted then store.addGrid rows cols Variable.continuous else (store, Grid.none)

def withVariables (network : Network K) : Network K :=
  let isMultiNode := decide (1 < network.nodes)
  let hasLines := isMultiNode && decide (0 < network.lines)
  let (store, nodeInjection) :=
    addGridIf network.store isMultiNode network.intervals network.nodes
  let (store, powerFlow) := addGridIf store hasLines network.intervals network.lines
  let (store, auxiliary) :=
    addGridIf store (hasLines && network.hasCost) network.intervals network.lines
  { network with stage := .vars, store, nodeInjection, powerFlow, auxiliary }

def hvdcName : String := "HVDC_power_flow_limit"

def acName : String := "AC_power_flow_limit"

def hybridName : String := "AC_HVDC_power_flow_limit"

def limitRows (network : Network K) (topology : Topology K) (kind : LineKind)
    (name : String) : Family (Row K) :=
  .tabulate name network.intervals topology.lines (network.limitRow topology kind)

def flowLimitsOf (network : Network K) (topology : Topology K) : FlowLimits K :=
  match topology.lineKind with
  | .none => .none
  | .hvdc => .hvdc (.tabulate hvdcName network.intervals topology.lines
      (network.limitBox topology))
  | .ac => .ac (network.limitRows topology .ac acName)
  | .hybrid => .hybrid (network.limitRows topology .hybrid hybridName)

def injectionBalanceOf (network : Network K) (topology : Topology K) : Family (Row K) :=
  match topology.lineKind with
  | .hvdc => .tabulate NetworkRows.balanceName network.intervals topology.nodes
      (network.balanceRow topology)
  | _ => Family.empty NetworkRows.balanceName 0

def definitions (network : Network K) (topology : Topology K) : Family (Row K) where
  name := NetworkRows.definitionName
  cols := topology.acLines.length
  items := (List.range network.intervals).flatMap fun interval =>
    topology.acLines.map (network.definitionRow topology interval)

def hasAcLines (topology : Topology K) : Bool :=
  topology.lineKind = .ac || topology.lineKind = .hybrid

def flowDefinitionOf (network : Network K) (topology : Topology K) : Family (Row K) :=
  if hasAcLines topology then network.definitions topology
  else Family.empty NetworkRows.definitionName 0

def systemBalanceOf (network : Network K) (topology : Topology K) : Family (Row K) :=
  if hasAcLines topology then
    .tabulate NetworkRows.systemName network.intervals 1 fun interval _ =>
      network.systemRow topology interval
  else Family.empty NetworkRows.systemName 1

def relaxedFlowsOf (network : Network K) (topology : Topology K) : Family (Row K) :=
  if network.auxiliary.isEmpty then Family.empty NetworkRows.relaxedName 0
  else .tabulate NetworkRows.relaxedName network.intervals (2 * topology.lines)
    (network.relaxedRow topology.lines)

def injectionBoundsOf (network : Network K) (topology : Topology K) : Family (Box K) :=
  .tabulate NetworkRows.boundsName network.intervals topology.nodes
    (network.boundsBox topology.nodes)

def rowsOf (network : Network K) (topology : Topology K) : NetworkRows K where
  flowLimits := network.flowLimitsOf topology
  injectionBalance := network.injectionBalanceOf topology
  flowDefinition := network.flowDefinitionOf topology
  systemBalance := network.systemBalanceOf topology
  relaxedFlows := network.relaxedFlowsOf topology
  injectionBounds := network.injectionBoundsOf topology
  acLines := if hasAcLines topology then topology.acLines else []

/-- A network of several nodes needs lines of the right shape, and distribution factors
for its AC lines. -/
def checkTopology (network : Network K) : Except Error (Topology K) := do
  match network.topology? with
  | none => throw (.invalidTopology .nothingToGenerateFrom)
  | some topology => do
      if topology.lines = 0 then throw (.invalidTopology (.noLines topology.nodes))
      topology.checkShape
      if hasAcLines topology && topology.factors.isNone then
        throw (.invalidTopology .noDistributionFactors)
      return topology

def withConstraints (network : Network K) : Except Error (Network K) :=
  if 1 < network.nodes then do
    let topology ← network.checkTopology
    return { network with stage := .constraints, rows := network.rowsOf topology }
  else .ok { network with stage := .constraints }

def costTerms (network : Network K) (topology : Topology K) : List (VarRef × K) :=
  (List.range network.intervals).flatMap fun interval =>
    topology.cost.mapIdx fun line cost =>
      (network.store.cell network.auxiliary interval line, cost)

/-- Costs fall on the size of the flows. -/
def costFunction (network : Network K) : LinearFunction K where
  terms :=
    match network.topology? with
    | none => []
    | some topology =>
        if network.auxiliary.isEmpty then [] else network.costTerms topology
  constant := network.constantTerm

def withObjective (network : Network K) : Network K :=
  { network with
    stage := .objective
    objective := some ⟨network.costFunction, .minimise⟩ }

/-- One generation step: nothing to do when it was taken before, and nothing written when
it is refused. -/
def step (target : Stage) (advance : Network K → Except Error (Network K)) :
    Change (Network K) PUnit := do
  let network ← Change.current
  match ← Change.require (network.stage.enter target) with
  | .skip => return ⟨⟩
  | .run => do
      let network ← Change.require (advance network)
      Change.write fun _ => network

def generateVariables : Change (Network K) PUnit :=
  step .vars fun network => .ok network.withVariables

def generateConstraints : Change (Network K) PUnit :=
  step .constraints withConstraints

def generateObjective : Change (Network K) PUnit :=
  step .objective fun network => .ok network.withObjective

def generateAll : Change (Network K) PUnit := do
  generateVariables
  generateConstraints
  generateObjective

end Dispatch.Network
