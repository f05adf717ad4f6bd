import Dispatch.Proofs.Network.Generation
import Dispatch.Proofs.Transport.Basic

namespace Dispatch

/-! The generation of networks commutes with transport. -/

variable {K L : Type} [Scalar K] [Scalar L]

def Topology.map (topology : Topology K) (transport : Transport K L) : Topology L where
  classname := topology.classname
  nodes := topology.nodes
  lines := topology.lines
  start := topology.start
  finish := topology.finish
  minFlow := topology.minFlow.map transport.number
  maxFlow := topology.maxFlow.map transport.number
  susceptance := topology.susceptance.map transport.number
  cost := topology.cost.map transport.number
  factors := topology.factors.map (List.map transport.number)
  nodeNames := topology.nodeNames
  lineNames := topology.lineNames

namespace Topology

variable (topology : Topology K) (transport : Transport K L)

@[simp] theorem nodes_map : (topology.map transport).nodes = topology.nodes := rfl

@[simp] theorem lines_map : (topology.map transport).lines = topology.lines := rfl

@[simp] theorem startOf_map (line : Nat) :
    (topology.map transport).startOf line = topology.startOf line := rfl

@[simp] theorem finishOf_map (line : Nat) :
    (topology.map transport).finishOf line = topology.finishOf line := rfl

@[simp] theorem minFlowOf_map (line : Nat) :
    (topology.map transport).minFlowOf line = transport.number (topology.minFlowOf line) :=
  transport.getD_zero topology.minFlow line

@[simp] theorem maxFlowOf_map (line : Nat) :
    (topology.map transport).maxFlowOf line = transport.number (topology.maxFlowOf line) :=
  transport.getD_zero topology.maxFlow line

@[simp] theorem lineKind_map : (topology.map transport).lineKind = topology.lineKind := by
  simp [lineKind, LineKind.classify, map, List.countP_map, Function.comp_def]

@[simp] theorem isHvdc_map (line : Nat) :
    (topology.map transport).isHvdc line = topology.isHvdc line := by
  unfold isHvdc map
  rw [List.getElem?_map]
  cases topology.susceptance[line]? <;> simp

@[simp] theorem acLines_map : (topology.map transport).acLines = topology.acLines := by
  simp [acLines]

@[simp] theorem hasCost_map : (topology.map transport).hasCost = topology.hasCost := by
  simp [hasCost, map, List.any_map, Function.comp_def]

@[simp] theorem factor_map (line node : Nat) :
    (topology.map transport).factor line node =
      transport.number (topology.factor line node) := by
  unfold factor map
  cases topology.factors with
  | none => simp
  | some matrix =>
      simp only [Option.map_some, Option.bind_some, List.getElem?_map]
      rw [← transport.number_zero, Option.getD_map]

@[simp] theorem checkShape_map :
    (topology.map transport).checkShape = topology.checkShape := by
  unfold checkShape map
  cases topology.factors <;> simp

end Topology

def DcData.map (data : DcData K) (transport : Transport K L) : DcData L where
  nodes := data.nodes
  start := data.start
  finish := data.finish
  minFlow := data.minFlow.map transport.number
  maxFlow := data.maxFlow.map transport.number
  susceptance := data.susceptance.map transport.number
  cost := data.cost.map transport.number
  factors := data.factors.map (List.map transport.number)
  nodeNames := data.nodeNames
  lineNames := data.lineNames
  layouts := data.layouts

def Descriptor.map (transport : Transport K L) : Descriptor K → Descriptor L
  | .dc data => .dc (data.map transport)
  | .extension outside => .extension ⟨outside.topology.map transport, outside.write⟩

@[simp] theorem Descriptor.topology_map (transport : Transport K L)
    (descriptor : Descriptor K) :
    (descriptor.map transport).topology = descriptor.topology.map transport := by
  cases descriptor <;> rfl

@[simp] theorem Descriptor.map_renumbering (block : BlockId → BlockId)
    (descriptor : Descriptor K) :
    descriptor.map (Transport.renumbering block) = descriptor := by
  cases descriptor <;> simp [map, DcData.map, Topology.map, Transport.renumbering]

def FlowLimits.map (transport : Transport K L) : FlowLimits K → FlowLimits L
  | .none => .none
  | .hvdc limits => .hvdc (limits.map fun box => box.map transport)
  | .ac limits => .ac (limits.map fun row => row.map transport)
  | .hybrid limits => .hybrid (limits.map fun row => row.map transport)

def NetworkRows.map (rows : NetworkRows K) (transport : Transport K L) : NetworkRows L where
  flowLimits := rows.flowLimits.map transport
  injectionBalance := rows.injectionBalance.map fun row => row.map transport
  flowDefinition := rows.flowDefinition.map fun row => row.map transport
  systemBalance := rows.systemBalance.map fun row => row.map transport
  relaxedFlows := rows.relaxedFlows.map fun row => row.map transport
  injectionBounds := rows.injectionBounds.map fun box => box.map transport
  acLines := rows.acLines

namespace Network

def map (network : Network K) (transport : Transport K L) : Network L where
  id := transport.block network.id
  stage := network.stage
  settings := network.settings.map fun settings => settings.map transport
  notifier := network.notifier
  descriptor := network.descriptor.map fun holding =>
    ⟨holding.value.map transport, holding.isShared⟩
  looseNodes := network.looseNodes
  intervals := network.intervals
  demand := network.demand.map transport.number
  kappa := network.kappa.map transport.number
  constantTerm := transport.number network.constantTerm
  minInjection := network.minInjection.map transport.number
  maxInjection := network.maxInjection.map transport.number
  store := network.store.map transport
  nodeInjection := network.nodeInjection
  powerFlow := network.powerFlow
  auxiliary := network.auxiliary
  rows := network.rows.map transport
  objective := network.objective.map fun objective => objective.map transport
  layouts := network.layouts

variable (network : Network K) (topology : Topology K) (transport : Transport K L)

@[simp] theorem topology?_map :
    (network.map transport).topology? =
      network.topology?.map fun topology => topology.map transport := by
  unfold topology? map
  cases network.descriptor <;> simp

@[simp] theorem nodes_map : (network.map transport).nodes = network.nodes := by
  unfold nodes
  rw [topology?_map]
  cases network.topology? <;> rfl

@[simp] theorem lines_map : (network.map transport).lines = network.lines := by
  unfold lines
  rw [topology?_map]
  cases network.topology? <;> rfl

@[simp] theorem hasCost_map : (network.map transport).hasCost = network.hasCost := by
  unfold hasCost
  rw [topology?_map]
  cases network.topology? <;> simp

@[simp] theorem demandAt_map (interval node : Nat) :
    (network.map transport).demandAt interval node =
      transport.number (network.demandAt interval node) := by
  have empties : (network.map transport).demand.isEmpty = network.demand.isEmpty := by
    simp [map]
  unfold demandAt
  rw [empties, nodes_map]
  split
  · simp
  · exact transport.getD_zero network.demand _

@[simp] theorem kappaAt_map (line : Nat) :
    (network.map transport).kappaAt line = transport.number (network.kappaAt line) :=
  transport.getD_one network.kappa line

@[simp] theorem injection_map (interval node : Nat) :
    (network.map transport).injection interval node =
      transport.var (network.injection interval node) := rfl

@[simp] theorem flow_map (interval line : Nat) :
    (network.map transport).flow interval line =
      transport.var (network.flow interval line) := rfl

@[simp] theorem demandFlow_map (interval line : Nat) :
    (network.map transport).demandFlow (topology.map transport) interval line =
      transport.number (network.demandFlow topology interval line) := by
  have factors : factorRow (topology.map transport) line =
      (factorRow topology line).map transport.number := by
    simp [factorRow, List.map_inj_left]
  have demands : (network.map transport).demandRow (topology.map transport) interval =
      (network.demandRow topology interval).map transport.number := by
    simp [demandRow, List.map_inj_left]
  rw [demandFlow, factors, demands, transport.sumOfProducts_map]
  rfl

@[simp] theorem totalDemand_map (interval : Nat) :
    (network.map transport).totalDemand interval =
      transport.number (network.totalDemand interval) := by
  unfold totalDemand
  rw [← transport.sum_map, List.map_map, nodes_map]
  exact congrArg Scalar.sum
    (List.map_congr_left fun node _ => demandAt_map network transport interval node)

theorem flowRange_map (kind : LineKind) (interval line : Nat) :
    (network.map transport).flowRange (topology.map transport) kind interval line =
      (transport.number (network.flowRange topology kind interval line).1,
        transport.number (network.flowRange topology kind interval line).2) := by
  unfold flowRange
  rw [Topology.isHvdc_map]
  split <;> simp

theorem transferTerm?_map (interval line other : Nat) :
    (network.map transport).transferTerm? (topology.map transport) interval line other =
      (network.transferTerm? topology interval line other).map transport.term := by
  have shifts : transfer (topology.map transport) line other =
      transport.number (transfer topology line other) := by
    simp [transfer]
  unfold transferTerm?
  rw [Topology.isHvdc_map, shifts]
  simp only [Transport.bne_zero]
  split
  · split <;> simp
  · rfl

theorem distribution_map (interval line : Nat) :
    (network.map transport).distribution (topology.map transport) interval line =
      (network.distribution topology interval line).map transport.term := by
  unfold distribution
  simp [Function.comp_def, List.map_filterMap, transferTerm?_map]

theorem limitBox_map (interval line : Nat) :
    (network.map transport).limitBox (topology.map transport) interval line =
      (network.limitBox topology interval line).map transport := by
  simp [limitBox, flowRange_map, Box.map]

theorem limitRow_map (kind : LineKind) (interval line : Nat) :
    (network.map transport).limitRow (topology.map transport) kind interval line =
      (network.limitRow topology kind interval line).map transport := by
  unfold limitRow
  rw [Topology.isHvdc_map]
  split <;> simp [flowRange_map, distribution_map, Row.map]

theorem balanceRow_map (interval node : Nat) :
    (network.map transport).balanceRow (topology.map transport) interval node =
      (network.balanceRow topology interval node).map transport := by
  have incidences (line : Nat) :
      (network.map transport).incidence (topology.map transport) interval node line =
        (network.incidence topology interval node line).map transport.term := by
    unfold incidence
    rw [Topology.startOf_map, Topology.finishOf_map]
    split <;> split <;> simp
  have terms : (network.map transport).balanceTerms (topology.map transport) interval node =
      (network.balanceTerms topology interval node).map transport.term := by
    unfold balanceTerms
    rw [funext incidences]
    simp [List.map_flatMap]
  simp [balanceRow, terms]

theorem definitionRow_map (interval line : Nat) :
    (network.map transport).definitionRow (topology.map transport) interval line =
      (network.definitionRow topology interval line).map transport := by
  simp [definitionRow, distribution_map, Function.comp_def, Transport.term]

theorem systemRow_map (interval : Nat) :
    (network.map transport).systemRow (topology.map transport) interval =
      (network.systemRow topology interval).map transport := by
  simp [systemRow, Function.comp_def]

theorem relaxedRow_map (lines interval place : Nat) :
    (network.map transport).relaxedRow lines interval place =
      (network.relaxedRow lines interval place).map transport := by
  have auxiliaries (line : Nat) :
      (network.map transport).store.cell (network.map transport).auxiliary interval line =
        transport.var (network.store.cell network.auxiliary interval line) := rfl
  unfold relaxedRow
  split <;> simp [Row.map, auxiliaries]

theorem boundsBox_map (nodes interval node : Nat) :
    (network.map transport).boundsBox nodes interval node =
      (network.boundsBox nodes interval node).map transport := by
  exact congrArg₂ (Box.mk (transport.var (network.injection interval node)))
    (transport.getD_zero network.minInjection _) (transport.getD_zero network.maxInjection _)

theorem definitions_map :
    (network.map transport).definitions (topology.map transport) =
      (network.definitions topology).map fun row => row.map transport := by
  have intervals : (network.map transport).intervals = network.intervals := rfl
  unfold definitions Family.map
  rw [Topology.acLines_map, intervals, List.map_flatMap]
  simp only [List.map_map]
  refine congrArg (Family.mk _ _) (List.flatMap_congr fun interval _ => ?_)
  exact List.map_congr_left fun line _ => definitionRow_map network topology transport _ _

theorem flowLimitsOf_map :
    (network.map transport).flowLimitsOf (topology.map transport) =
      (network.flowLimitsOf topology).map transport := by
  have intervals : (network.map transport).intervals = network.intervals := rfl
  unfold flowLimitsOf limitRows
  rw [Topology.lineKind_map, intervals]
  cases topology.lineKind with
  | none => rfl
  | hvdc =>
      exact congrArg FlowLimits.hvdc
        (Family.tabulate_eq_map (limitBox_map network topology transport))
  | ac =>
      exact congrArg FlowLimits.ac
        (Family.tabulate_eq_map (limitRow_map network topology transport .ac))
  | hybrid =>
      exact congrArg FlowLimits.hybrid
        (Family.tabulate_eq_map (limitRow_map network topology transport .hybrid))

theorem rowsOf_map :
    (network.map transport).rowsOf (topology.map transport) =
      (network.rowsOf topology).map transport := by
  have intervals : (network.map transport).intervals = network.intervals := rfl
  have auxiliary : (network.map transport).auxiliary = network.auxiliary := rfl
  have ac : hasAcLines (topology.map transport) = hasAcLines topology := by
    simp [hasAcLines]
  have balance : (network.map transport).injectionBalanceOf (topology.map transport) =
      (network.injectionBalanceOf topology).map fun row => row.map transport := by
    unfold injectionBalanceOf
    rw [Topology.lineKind_map, intervals]
    split
    · exact Family.tabulate_eq_map (balanceRow_map network topology transport)
    · rfl
  have definition : (network.map transport).flowDefinitionOf (topology.map transport) =
      (network.flowDefinitionOf topology).map fun row => row.map transport := by
    unfold flowDefinitionOf
    rw [ac]
    split
    · exact definitions_map network topology transport
    · rfl
  have system : (network.map transport).systemBalanceOf (topology.map transport) =
      (network.systemBalanceOf topology).map fun row => row.map transport := by
    unfold systemBalanceOf
    rw [ac, intervals]
    split
    · exact Family.tabulate_eq_map fun interval _ =>
        systemRow_map network topology transport interval
    · rfl
  have relaxed : (network.map transport).relaxedFlowsOf (topology.map transport) =
      (network.relaxedFlowsOf topology).map fun row => row.map transport := by
    unfold relaxedFlowsOf
    rw [auxiliary, intervals]
    split
    · rfl
    · exact Family.tabulate_eq_map (relaxedRow_map network transport topology.lines)
  have bounds : (network.map transport).injectionBoundsOf (topology.map transport) =
      (network.injectionBoundsOf topology).map fun box => box.map transport := by
    unfold injectionBoundsOf
    rw [intervals]
    exact Family.tabulate_eq_map (boundsBox_map network transport topology.nodes)
  simp only [rowsOf, NetworkRows.map, flowLimitsOf_map, balance, definition, system, relaxed,
    bounds, ac, Topology.acLines_map]

theorem addGridIf_map (store : Store K) (wanted : Bool) (rows cols : Nat) :
    addGridIf (store.map transport) wanted rows cols =
      ((addGridIf store wanted rows cols).1.map transport,
        (addGridIf store wanted rows cols).2) := by
  unfold addGridIf
  split
  · have grid := store.addGrid_map transport rows cols Variable.continuous
    rwa [Variable.map_continuous] at grid
  · rfl

theorem withVariables_map :
    (network.map transport).withVariables = network.withVariables.map transport := by
  have store : (network.map transport).store = network.store.map transport := rfl
  have intervals : (network.map transport).intervals = network.intervals := rfl
  unfold withVariables
  simp only [store, intervals, nodes_map, lines_map, hasCost_map, addGridIf_map]
  rfl

theorem checkTopology_map :
    (network.map transport).checkTopology =
      network.checkTopology.map fun topology => topology.map transport := by
  have ac (topology : Topology K) :
      hasAcLines (topology.map transport) = hasAcLines topology := by
    simp [hasAcLines]
  have factors (topology : Topology K) :
      (topology.map transport).factors.isNone = topology.factors.isNone := by
    simp [Topology.map]
  unfold checkTopology
  rw [topology?_map]
  cases network.topology? with
  | none => rfl
  | some topology =>
      simp only [Option.map_some, Topology.lines_map, Topology.nodes_map,
        Topology.checkShape_map, ac, factors]
      by_cases empty : topology.lines = 0
      · simp only [if_pos empty]
        rfl
      · simp only [if_neg empty]
        cases topology.checkShape with
        | error error => rfl
        | ok checked =>
            simp only [Except.ok_bind]
            split <;> rfl

theorem withConstraints_map :
    (network.map transport).withConstraints =
      network.withConstraints.map fun generated => generated.map transport := by
  unfold withConstraints
  rw [nodes_map, checkTopology_map]
  split
  · cases network.checkTopology with
    | error error => rfl
    | ok topology =>
        refine congrArg Except.ok ?_
        rw [rowsOf_map]
        rfl
  · rfl

theorem costFunction_map :
    (network.map transport).costFunction = network.costFunction.map transport := by
  have auxiliary : (network.map transport).auxiliary = network.auxiliary := rfl
  unfold costFunction LinearFunction.map
  rw [topology?_map, auxiliary]
  cases network.topology? with
  | none => rfl
  | some topology =>
      simp only [Option.map_some]
      split
      · rfl
      · refine congrArg₂ LinearFunction.mk ?_ rfl
        have intervals : (network.map transport).intervals = network.intervals := rfl
        unfold costTerms
        rw [intervals, List.map_flatMap]
        refine List.flatMap_congr fun interval _ => ?_
        apply List.ext_getElem?
        intro line
        simp only [Topology.map, List.getElem?_map, List.getElem?_mapIdx]
        cases topology.cost[line]? <;> rfl

theorem withObjective_map :
    (network.map transport).withObjective = network.withObjective.map transport := by
  unfold withObjective
  rw [costFunction_map]
  rfl

theorem generatedTo_map (stage : Stage) :
    (network.map transport).generatedTo stage =
      (network.generatedTo stage).map fun generated => generated.map transport := by
  cases stage with
  | empty => rfl
  | vars => exact congrArg Except.ok (network.withVariables_map transport)
  | constraints =>
      simp only [generatedTo, withVariables_map, withConstraints_map]
  | objective =>
      simp only [generatedTo, withVariables_map, withConstraints_map]
      cases network.withVariables.withConstraints with
      | error error => rfl
      | ok generated => exact congrArg Except.ok (generated.withObjective_map transport)

end Network

end Dispatch
