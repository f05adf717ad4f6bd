import Dispatch.Change.Selection
import Dispatch.Network.Flow

namespace Dispatch.Network

/-! Updates of the physical data. Where rows exist, those whose data moved are brought
up to date in place; the line class they were generated for decides which ones. -/

variable {K : Type} [Scalar K]

def patchFlowLimits (network : Network K) (lines : List Nat) : Network K :=
  match network.topology? with
  | none => network
  | some topology =>
      let limits := network.rows.flowLimits
      let patched := (List.range network.intervals).foldl
        (fun limits interval => lines.foldl
          (fun limits line =>
            let range := network.flowRange topology limits.kind interval line
            limits.setBounds interval line range.1 range.2)
          limits)
        limits
      { network with rows := { network.rows with flowLimits := patched } }

def updateKappa (selection : Selection) (values : List K) (physical abstract : Mode) :
    Change (Network K) Outcome := do
  let network ← Change.current
  if !selection.differs network.kappa 1 values then return .unchanged
  if !physical.writes then return .dryRun
  let kappa := selection.write network.kappa network.lines 1 values
  Change.write fun network => { network with kappa }
  if abstract.writes && network.stage.hasConstraints then
    Change.write fun network => network.patchFlowLimits selection.indices
  Change.report physical network.notifier (selection.record network.id .kappa)
  return .applied

def setKappa (address : Address) (values : List K) (physical abstract : Mode) :
    Change (Network K) Outcome := do
  let network ← Change.current
  match ← Change.require (address.select network.lines values.length "line") with
  | none => return .unchanged
  | some selection => updateKappa selection values physical abstract

/-- The balance rows of the given entries. -/
def patchBalances (network : Network K) (nodes : Nat) (entries : List Nat) : Network K :=
  let patched := entries.foldl
    (fun balance entry => balance.modify (entry / nodes) (entry % nodes)
      (Row.setBoth (-network.demand.getD entry 0)))
    network.rows.injectionBalance
  { network with rows := { network.rows with injectionBalance := patched } }

/-- The intervals of the given entries, each once and in order. -/
def touchedIntervals (nodes : Nat) (entries : List Nat) : List Nat :=
  ((entries.map fun entry => entry / nodes).mergeSort fun first second =>
    decide (first ≤ second)).eraseDups

/-- Limits, definitions and system balance of one interval of a network with AC lines. -/
def patchInterval (network : Network K) (topology : Topology K) (rows : NetworkRows K)
    (interval : Nat) : NetworkRows K :=
  let kind := rows.flowLimits.kind
  { rows with
    flowLimits := rows.acLines.foldl
      (fun limits line =>
        let range := network.flowRange topology kind interval line
        limits.setBounds interval line range.1 range.2)
      rows.flowLimits
    flowDefinition := rows.acLines.zipIdx.foldl
      (fun definitions place => definitions.modify interval place.2
        (Row.setBoth (-network.demandFlow topology interval place.1)))
      rows.flowDefinition
    systemBalance := rows.systemBalance.modify interval 0
      (Row.setBoth (network.totalDemand interval)) }

def patchDemand (network : Network K) (entries : List Nat) : Network K :=
  match network.topology? with
  | none => network
  | some topology =>
      match network.rows.flowLimits.kind with
      | .none => network
      | .hvdc => network.patchBalances topology.nodes entries
      | _ =>
          { network with
            rows := (touchedIntervals topology.nodes entries).foldl
              (network.patchInterval topology) network.rows }

def updateDemand (selection : Selection) (values : List K) (physical abstract : Mode) :
    Change (Network K) Outcome := do
  let network ← Change.current
  if !selection.differs network.demand 0 values then return .unchanged
  if !physical.writes then return .dryRun
  let demand := selection.write network.demand network.extent 0 values
  Change.write fun network => { network with demand }
  if abstract.writes && network.stage.hasConstraints then
    Change.write fun network => network.patchDemand selection.indices
  Change.report physical network.notifier (selection.record network.id .activeDemand)
  return .applied

/-- The address counts entries interval by interval, node by node. -/
def setDemand (address : Address) (values : List K) (physical abstract : Mode) :
    Change (Network K) Outcome := do
  let network ← Change.current
  match ← Change.require (address.select network.extent values.length "demand") with
  | none => return .unchanged
  | some selection => updateDemand selection values physical abstract

def patchInjectionBounds (network : Network K) (minimum maximum : List K) : Network K :=
  let bounds := network.rows.injectionBounds
  let items := bounds.items.mapIdx fun entry box =>
    box.setBounds (minimum.getD entry 0) (maximum.getD entry 0)
  { network with
    rows := { network.rows with injectionBounds := { bounds with items } } }

/-- Bounds are given for every interval and node at once. -/
def setInjectionBounds (minimum maximum : List K) (physical abstract : Mode) :
    Change (Network K) Outcome := do
  let network ← Change.current
  let size := network.extent
  Change.require (Topology.checkLength "MinNodeInjection" size minimum.length)
  Change.require (Topology.checkLength "MaxNodeInjection" size maximum.length)
  if Scalar.same minimum network.minInjection &&
      Scalar.same maximum network.maxInjection then
    return .unchanged
  if !physical.writes then return .dryRun
  Change.write fun network =>
    { network with minInjection := minimum, maxInjection := maximum }
  if abstract.writes then
    Change.write fun network => network.patchInjectionBounds minimum maximum
  Change.report physical network.notifier
    ⟨network.id, .nodeInjectionBounds, .range 0 size⟩
  return .applied

/-- The constant of the objective, generated or not. -/
def setConstantTerm (constant : K) : Change (Network K) PUnit :=
  Change.write fun network =>
    { network with
      constantTerm := constant
      objective := network.objective.map fun objective =>
        { objective with function := { objective.function with constant } } }

end Dispatch.Network
