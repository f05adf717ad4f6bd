import Dispatch.Proofs.Attempt.PlantRows
import Dispatch.Proofs.Attempt.Trial
import Dispatch.Proofs.Closure.Network
import Dispatch.Proofs.Network.Conservation

namespace Dispatch

/-! Generation of a network with all of its lookups: cells of grids, ends and limits of lines,
demands and injection bounds. -/

open Attempt (current require)

theorem Lookup.length_mapM {α β : Type} {lookup : α → Option β} {items : List α}
    {entries : List β} (found : items.mapM lookup = some entries) :
    entries.length = items.length := by
  induction items generalizing entries with
  | nil =>
      cases found
      rfl
  | cons item rest induction =>
      rw [List.mapM_cons] at found
      obtain ⟨first, _, found⟩ := Option.bind_eq_some_iff.mp found
      obtain ⟨others, listed, found⟩ := Option.bind_eq_some_iff.mp found
      cases found
      rw [List.length_cons, List.length_cons, induction listed]

/-- Stops with the first item that has no entries. -/
def Lookup.gather? {α β : Type} (lookup : α → Option (List β)) (items : List α) :
    Option (List β) := do
  let entries ← items.mapM lookup
  return entries.flatten

theorem Lookup.gather?_eq {α β : Type} {lookup : α → Option (List β)} {entries : α → List β}
    {items : List α} (found : ∀ item ∈ items, lookup item = some (entries item)) :
    gather? lookup items = some (items.flatMap entries) := by
  rw [gather?, mapM_eq_some found, List.flatMap_def]
  rfl

def Family.tabulate? {α : Type} (name : String) (rows cols : Nat)
    (item? : Nat → Nat → Option α) : Option (Family α) := do
  let items ← Lookup.gather? (fun row => (List.range cols).mapM (item? row)) (List.range rows)
  return ⟨name, cols, items⟩

theorem Family.tabulate?_eq {α : Type} {name : String} {rows cols : Nat}
    {item? : Nat → Nat → Option α} {item : Nat → Nat → α}
    (found : ∀ row < rows, ∀ col < cols, item? row col = some (item row col)) :
    tabulate? name rows cols item? = some (tabulate name rows cols item) := by
  unfold tabulate?
  rw [Lookup.gather?_eq fun row row_in => Lookup.mapM_eq_some fun col col_in =>
    found row (List.mem_range.mp row_in) col (List.mem_range.mp col_in)]
  rfl

namespace Network

variable {K : Type} [Scalar K]

def injection? (network : Network K) (interval node : Nat) : Option VarRef :=
  network.store.at? network.nodeInjection interval node

def flow? (network : Network K) (interval line : Nat) : Option VarRef :=
  network.store.at? network.powerFlow interval line

/-- Factors and demands are multiplied only if there are as many of them. -/
def demandShift? (network : Network K) (topology : Topology K) (interval line : Nat) :
    Option K := do
  let demand ← (List.range topology.nodes).mapM (network.demandAt? interval)
  Scalar.dotProduct? (factorRow topology line) demand

def limitRange? (network : Network K) (topology : Topology K) (kind : LineKind)
    (interval line : Nat) : Option (K × K) := do
  let low := network.kappaAt line * (← topology.minFlow[line]?)
  let high := network.kappaAt line * (← topology.maxFlow[line]?)
  if kind = .hvdc || topology.isHvdc line then return (low, high)
  else
    let shift ← network.demandShift? topology interval line
    return (low + shift, high + shift)

/-- The ends of an AC line are not looked at. -/
def transferEntry? (network : Network K) (topology : Topology K) (interval line other : Nat) :
    Option (Option (VarRef × K)) :=
  if topology.isHvdc other then do
    let shift := topology.factor line (← topology.start[other]?) -
      topology.factor line (← topology.finish[other]?)
    if shift != 0 then return some (← network.flow? interval other, -shift) else return none
  else return none

def distribution? (network : Network K) (topology : Topology K) (interval line : Nat) :
    Option (List (VarRef × K)) := do
  let injected ← (List.range topology.nodes).mapM fun node => do
    return (← network.injection? interval node, topology.factor line node)
  let transfers ← (List.range topology.lines).mapM
    (network.transferEntry? topology interval line)
  return injected ++ transfers.filterMap fun entry => entry

def limitBox? (network : Network K) (topology : Topology K) (interval line : Nat) :
    Option (Box K) := do
  let range ← network.limitRange? topology .hvdc interval line
  return ⟨← network.flow? interval line, range.1, range.2⟩

def limitRow? (network : Network K) (topology : Topology K) (kind : LineKind)
    (interval line : Nat) : Option (Row K) := do
  let flow ← network.flow? interval line
  let range ← network.limitRange? topology kind interval line
  if topology.isHvdc line then return ⟨.ofTerms [(flow, 1)], range.1, range.2⟩
  else
    let terms ← network.distribution? topology interval line
    return ⟨.ofTerms terms, range.1, range.2⟩

def incidence? (network : Network K) (topology : Topology K) (interval node line : Nat) :
    Option (List (VarRef × K)) := do
  let flow ← network.flow? interval line
  let start ← topology.start[line]?
  let finish ← topology.finish[line]?
  return (if start = node then [(flow, 1)] else []) ++
    (if finish = node then [(flow, -1)] else [])

def balanceRow? (network : Network K) (topology : Topology K) (interval node : Nat) :
    Option (Row K) := do
  let injection ← network.injection? interval node
  let incident ← Lookup.gather? (network.incidence? topology interval node)
    (List.range topology.lines)
  let level ← network.demandAt? interval node
  return .equality (.ofTerms ((injection, -1) :: incident)) (-level)

def definitionRow? (network : Network K) (topology : Topology K) (interval line : Nat) :
    Option (Row K) := do
  let flow ← network.flow? interval line
  let terms ← network.distribution? topology interval line
  let shift ← network.demandShift? topology interval line
  return .equality (.ofTerms ((flow, 1) :: terms.map fun term => (term.1, -term.2))) (-shift)

def systemRow? (network : Network K) (topology : Topology K) (interval : Nat) :
    Option (Row K) := do
  let injections ← (List.range topology.nodes).mapM (network.injection? interval)
  let total ← network.totalDemand? interval
  return .equality (.ofTerms (injections.map fun injection => (injection, 1))) total

def relaxedRow? (network : Network K) (lines interval place : Nat) : Option (Row K) := do
  let line := if place < lines then place else place - lines
  let sign : K := if place < lines then -1 else 1
  let flow ← network.flow? interval line
  let auxiliary ← network.store.at? network.auxiliary interval line
  return ⟨.ofTerms [(flow, sign), (auxiliary, 1)], 0, Scalar.infinity⟩

def boundsBox? (network : Network K) (nodes interval node : Nat) : Option (Box K) := do
  let injection ← network.injection? interval node
  return ⟨injection, ← network.minInjection[interval * nodes + node]?,
    ← network.maxInjection[interval * nodes + node]?⟩

def limitRows? (network : Network K) (topology : Topology K) (kind : LineKind)
    (name : String) : Option (Family (Row K)) :=
  Family.tabulate? name network.intervals topology.lines (network.limitRow? topology kind)

def flowLimits? (network : Network K) (topology : Topology K) : Option (FlowLimits K) :=
  match topology.lineKind with
  | .none => some .none
  | .hvdc => (Family.tabulate? hvdcName network.intervals topology.lines
      (network.limitBox? topology)).map .hvdc
  | .ac => (network.limitRows? topology .ac acName).map .ac
  | .hybrid => (network.limitRows? topology .hybrid hybridName).map .hybrid

def injectionBalance? (network : Network K) (topology : Topology K) :
    Option (Family (Row K)) :=
  match topology.lineKind with
  | .hvdc => Family.tabulate? NetworkRows.balanceName network.intervals topology.nodes
      (network.balanceRow? topology)
  | _ => some (Family.empty NetworkRows.balanceName 0)

def flowDefinition? (network : Network K) (topology : Topology K) : Option (Family (Row K)) :=
  if hasAcLines topology then do
    let items ← Lookup.gather? (fun interval =>
      topology.acLines.mapM (network.definitionRow? topology interval))
      (List.range network.intervals)
    return ⟨NetworkRows.definitionName, topology.acLines.length, items⟩
  else some (Family.empty NetworkRows.definitionName 0)

def systemBalance? (network : Network K) (topology : Topology K) : Option (Family (Row K)) :=
  if hasAcLines topology then
    Family.tabulate? NetworkRows.systemName network.intervals 1 fun interval _ =>
      network.systemRow? topology interval
  else some (Family.empty NetworkRows.systemName 1)

def relaxedFlows? (network : Network K) (topology : Topology K) : Option (Family (Row K)) :=
  if network.auxiliary.isEmpty then some (Family.empty NetworkRows.relaxedName 0)
  else Family.tabulate? NetworkRows.relaxedName network.intervals (2 * topology.lines)
    (network.relaxedRow? topology.lines)

def injectionBoxes? (network : Network K) (topology : Topology K) : Option (Family (Box K)) :=
  Family.tabulate? NetworkRows.boundsName network.intervals topology.nodes
    (network.boundsBox? topology.nodes)

def rowsOf? (network : Network K) (topology : Topology K) : Option (NetworkRows K) := do
  return {
    flowLimits := ← network.flowLimits? topology
    injectionBalance := ← network.injectionBalance? topology
    flowDefinition := ← network.flowDefinition? topology
    systemBalance := ← network.systemBalance? topology
    relaxedFlows := ← network.relaxedFlows? topology
    injectionBounds := ← network.injectionBoxes? topology
    acLines := if hasAcLines topology then topology.acLines else [] }

def withConstraints? (network : Network K) : Trial (Network K) :=
  if 1 < network.nodes then do
    let topology ← Trial.require network.checkTopology
    let rows ← Trial.look (network.rowsOf? topology)
    return { network with stage := .constraints, rows }
  else return { network with stage := .constraints }

def costTerms? (network : Network K) (topology : Topology K) : Option (List (VarRef × K)) :=
  Lookup.gather? (fun interval => topology.cost.zipIdx.mapM fun entry => do
    return (← network.store.at? network.auxiliary interval entry.2, entry.1))
    (List.range network.intervals)

def withObjective? (network : Network K) : Option (Network K) := do
  let terms ← match network.topology? with
    | none => some []
    | some topology =>
        if network.auxiliary.isEmpty then some [] else network.costTerms? topology
  return { network with
    stage := .objective
    objective := some ⟨⟨terms, network.constantTerm⟩, .minimise⟩ }

def step? (target : Stage) (advance? : Network K → Trial (Network K)) :
    Attempt (Network K) PUnit := do
  let network ← current
  match ← require (network.stage.enter target) with
  | .skip => return ⟨⟩
  | .run => do
      let network ← Attempt.demand (advance? network)
      Attempt.write fun _ => network

def generateVariables? : Attempt (Network K) PUnit :=
  step? .vars fun network => return network.withVariables

def generateConstraints? : Attempt (Network K) PUnit := step? .constraints withConstraints?

def generateObjective? : Attempt (Network K) PUnit :=
  step? .objective fun network => Trial.look network.withObjective?

/-- There is one pair of injection bounds per interval and node. -/
structure Fenced (network : Network K) : Prop where
  minimum : network.minInjection.length = network.extent
  maximum : network.maxInjection.length = network.extent

variable {network : Network K} {topology : Topology K}

theorem fenced_withFreeInjections (network : Network K) : network.withFreeInjections.Fenced :=
  ⟨List.length_replicate, List.length_replicate⟩

omit [Scalar K] in
theorem Fenced.step (fenced : network.Fenced) {target : Stage}
    {advance : Network K → Except Error (Network K)}
    (advances : ∀ result, advance network = .ok result → result.Fenced) :
    (Network.step target advance network).state.Fenced :=
  step_preserves fenced fun _ => advances

theorem Fenced.generateVariables (fenced : network.Fenced) :
    (Network.generateVariables network).state.Fenced :=
  fenced.step fun result advanced => by
    cases advanced
    exact ⟨fenced.minimum, fenced.maximum⟩

theorem Fenced.generateConstraints (fenced : network.Fenced) :
    (Network.generateConstraints network).state.Fenced :=
  fenced.step fun result advanced => by
    rcases withConstraints_cases advanced with ⟨_, rfl⟩ | ⟨_, _, _, _, rfl⟩ <;>
      exact ⟨fenced.minimum, fenced.maximum⟩

theorem Fenced.setInjectionBounds (fenced : network.Fenced) (minimum maximum : List K)
    (physical abstract : Mode) :
    (Network.setInjectionBounds minimum maximum physical abstract network).state.Fenced := by
  have extent := (SameFrame.withInjectionBounds network minimum maximum abstract).extent
  have bounds :
      (network.withInjectionBounds minimum maximum abstract).minInjection = minimum ∧
        (network.withInjectionBounds minimum maximum abstract).maxInjection = maximum := by
    unfold withInjectionBounds
    dsimp only
    split <;> exact ⟨rfl, rfl⟩
  rw [setInjectionBounds_apply]
  split
  · exact fenced
  · rename_i minimumFits
    split
    · exact fenced
    · rename_i maximumFits
      split
      · exact fenced
      · split
        · exact fenced
        · rw [not_not] at minimumFits maximumFits
          exact ⟨by rw [bounds.1, extent, minimumFits], by rw [bounds.2, extent, maximumFits]⟩

/-- What the rows look into, as the checks before them leave it. -/
structure Ready (network : Network K) (topology : Topology K) : Prop where
  bounded : network.Bounded topology
  start : topology.start.length = topology.lines
  finish : topology.finish.length = topology.lines
  demand : network.demand = [] ∨ network.demand.length = network.extent
  injections : network.store.Lays network.nodeInjection network.intervals topology.nodes
  flows : network.store.Lays network.powerFlow network.intervals topology.lines
  auxiliary : network.store.LaysOrEmpty network.auxiliary network.intervals topology.lines
  fenced : network.Fenced

omit [Scalar K] in
theorem Ready.start_found (ready : network.Ready topology) {line : Nat}
    (line_lt : line < topology.lines) : topology.start[line]? = some (topology.startOf line) :=
  Lookup.getElem?_eq_getD (ready.start.symm ▸ line_lt) 0

omit [Scalar K] in
theorem Ready.finish_found (ready : network.Ready topology) {line : Nat}
    (line_lt : line < topology.lines) : topology.finish[line]? = some (topology.finishOf line) :=
  Lookup.getElem?_eq_getD (ready.finish.symm ▸ line_lt) 0

theorem demandShift?_eq_demandFlow? (network : Network K) (topology : Topology K)
    (interval line : Nat) :
    network.demandShift? topology interval line =
      network.demandFlow? topology interval line := by
  unfold demandShift? demandFlow?
  cases found : (List.range topology.nodes).mapM (network.demandAt? interval) with
  | none => rfl
  | some demand =>
      have size : (factorRow topology line).length = demand.length := by
        rw [Lookup.length_mapM found, factorRow, List.length_map]
      exact if_pos size

theorem limitRange?_eq_flowRange? (network : Network K) (topology : Topology K) :
    network.limitRange? topology = network.flowRange? topology := by
  funext kind interval line
  unfold limitRange? flowRange?
  simp only [demandShift?_eq_demandFlow?]

section Lookups

variable (ready : network.Ready topology) {interval : Nat}
  (interval_lt : interval < network.intervals)

include ready interval_lt

omit [Scalar K] in
theorem injection?_eq {node : Nat} (node_lt : node < topology.nodes) :
    network.injection? interval node = some (network.injection interval node) :=
  ready.injections.at? interval_lt node_lt

omit [Scalar K] in
theorem flow?_eq {line : Nat} (line_lt : line < topology.lines) :
    network.flow? interval line = some (network.flow interval line) :=
  ready.flows.at? interval_lt line_lt

theorem limitRange?_eq (kind : LineKind) {line : Nat} (line_lt : line < topology.lines) :
    network.limitRange? topology kind interval line =
      some (network.flowRange topology kind interval line) := by
  rw [limitRange?_eq_flowRange?]
  exact flowRange?_eq ready.demand ready.bounded kind interval_lt line_lt

theorem demandShift?_eq (line : Nat) :
    network.demandShift? topology interval line =
      some (network.demandFlow topology interval line) := by
  rw [demandShift?_eq_demandFlow?]
  exact demandFlow?_eq ready.demand ready.bounded.attached interval_lt line

theorem transferEntry?_eq (line : Nat) {other : Nat} (other_lt : other < topology.lines) :
    network.transferEntry? topology interval line other =
      some (network.transferTerm? topology interval line other) := by
  unfold transferEntry? transferTerm?
  rw [ready.start_found other_lt, ready.finish_found other_lt,
    flow?_eq ready interval_lt other_lt]
  split
  · dsimp only [Option.bind_eq_bind, Option.bind_some]
    unfold transfer
    split <;> rfl
  · rfl

theorem distribution?_eq (line : Nat) :
    network.distribution? topology interval line =
      some (network.distribution topology interval line) := by
  have injected : ((List.range topology.nodes).mapM fun node => do
        return (← network.injection? interval node, topology.factor line node)) =
      some ((List.range topology.nodes).map fun node =>
        (network.injection interval node, topology.factor line node)) :=
    Lookup.mapM_eq_some fun node member => by
      rw [injection?_eq ready interval_lt (List.mem_range.mp member)]
      rfl
  have transfers : (List.range topology.lines).mapM
        (network.transferEntry? topology interval line) =
      some ((List.range topology.lines).map
        (network.transferTerm? topology interval line)) :=
    Lookup.mapM_eq_some fun other member =>
      transferEntry?_eq ready interval_lt line (List.mem_range.mp member)
  unfold distribution? distribution
  rw [injected, transfers]
  simp only [Option.bind_eq_bind, Option.bind_some, List.filterMap_map, Function.comp_def]
  rfl

theorem limitBox?_eq {line : Nat} (line_lt : line < topology.lines) :
    network.limitBox? topology interval line =
      some (network.limitBox topology interval line) := by
  unfold limitBox?
  rw [limitRange?_eq ready interval_lt .hvdc line_lt, flow?_eq ready interval_lt line_lt]
  rfl

theorem limitRow?_eq (kind : LineKind) {line : Nat} (line_lt : line < topology.lines) :
    network.limitRow? topology kind interval line =
      some (network.limitRow topology kind interval line) := by
  unfold limitRow? limitRow
  rw [limitRange?_eq ready interval_lt kind line_lt, flow?_eq ready interval_lt line_lt,
    distribution?_eq ready interval_lt line]
  dsimp only [Option.bind_eq_bind, Option.bind_some]
  split <;> rfl

theorem incidence?_eq (node : Nat) {line : Nat} (line_lt : line < topology.lines) :
    network.incidence? topology interval node line =
      some (network.incidence topology interval node line) := by
  unfold incidence?
  rw [flow?_eq ready interval_lt line_lt, ready.start_found line_lt,
    ready.finish_found line_lt]
  rfl

theorem balanceRow?_eq {node : Nat} (node_lt : node < topology.nodes) :
    network.balanceRow? topology interval node =
      some (network.balanceRow topology interval node) := by
  have incident := Lookup.gather?_eq fun line (member : line ∈ List.range topology.lines) =>
    incidence?_eq ready interval_lt node (List.mem_range.mp member)
  have level := demandAt?_eq ready.demand interval_lt
    ((nodes_of_topology ready.bounded.attached).symm ▸ node_lt)
  unfold balanceRow?
  rw [injection?_eq ready interval_lt node_lt, incident, level]
  rfl

theorem definitionRow?_eq {line : Nat} (line_lt : line < topology.lines) :
    network.definitionRow? topology interval line =
      some (network.definitionRow topology interval line) := by
  unfold definitionRow?
  rw [flow?_eq ready interval_lt line_lt, distribution?_eq ready interval_lt line,
    demandShift?_eq ready interval_lt line]
  rfl

theorem systemRow?_eq :
    network.systemRow? topology interval = some (network.systemRow topology interval) := by
  have injections : (List.range topology.nodes).mapM (network.injection? interval) =
      some ((List.range topology.nodes).map (network.injection interval)) :=
    Lookup.mapM_eq_some fun node member =>
      injection?_eq ready interval_lt (List.mem_range.mp member)
  unfold systemRow? systemRow
  rw [injections, totalDemand?_eq ready.demand interval_lt]
  simp only [Option.bind_eq_bind, Option.bind_some, List.map_map, Function.comp_def]
  rfl

theorem relaxedRow?_eq (generated : network.auxiliary.isEmpty = false) {place : Nat}
    (place_lt : place < 2 * topology.lines) :
    network.relaxedRow? topology.lines interval place =
      some (network.relaxedRow topology.lines interval place) := by
  have line_lt : (if place < topology.lines then place else place - topology.lines) <
      topology.lines := by
    split <;> omega
  have lays := ready.auxiliary.resolve_left (by simp [generated])
  unfold relaxedRow?
  dsimp only
  rw [flow?_eq ready interval_lt line_lt, lays.at? interval_lt line_lt]
  rfl

theorem boundsBox?_eq {node : Nat} (node_lt : node < topology.nodes) :
    network.boundsBox? topology.nodes interval node =
      some (network.boundsBox topology.nodes interval node) := by
  have entry_lt : interval * topology.nodes + node < network.extent := by
    rw [extent, nodes_of_topology ready.bounded.attached]
    exact Family.index_lt interval_lt node_lt
  unfold boundsBox?
  rw [injection?_eq ready interval_lt node_lt,
    Lookup.getElem?_eq_getD (ready.fenced.minimum.symm ▸ entry_lt) 0,
    Lookup.getElem?_eq_getD (ready.fenced.maximum.symm ▸ entry_lt) 0]
  rfl

end Lookups

section Families

variable (ready : network.Ready topology)

include ready

theorem limitRows?_eq (kind : LineKind) (name : String) :
    network.limitRows? topology kind name = some (network.limitRows topology kind name) :=
  Family.tabulate?_eq fun _ interval_lt _ line_lt =>
    limitRow?_eq ready interval_lt kind line_lt

theorem flowLimits?_eq : network.flowLimits? topology = some (network.flowLimitsOf topology) := by
  have boxes : Family.tabulate? hvdcName network.intervals topology.lines
        (network.limitBox? topology) =
      some (.tabulate hvdcName network.intervals topology.lines (network.limitBox topology)) :=
    Family.tabulate?_eq fun _ interval_lt _ line_lt => limitBox?_eq ready interval_lt line_lt
  unfold flowLimits? flowLimitsOf
  rw [boxes, limitRows?_eq ready, limitRows?_eq ready]
  cases topology.lineKind <;> rfl

theorem injectionBalance?_eq :
    network.injectionBalance? topology = some (network.injectionBalanceOf topology) := by
  have rows : Family.tabulate? NetworkRows.balanceName network.intervals topology.nodes
        (network.balanceRow? topology) =
      some (.tabulate NetworkRows.balanceName network.intervals topology.nodes
        (network.balanceRow topology)) :=
    Family.tabulate?_eq fun _ interval_lt _ node_lt => balanceRow?_eq ready interval_lt node_lt
  unfold injectionBalance? injectionBalanceOf
  rw [rows]
  cases topology.lineKind <;> rfl

theorem flowDefinition?_eq :
    network.flowDefinition? topology = some (network.flowDefinitionOf topology) := by
  have rows : Lookup.gather? (fun interval =>
        topology.acLines.mapM (network.definitionRow? topology interval))
        (List.range network.intervals) =
      some ((List.range network.intervals).flatMap fun interval =>
        topology.acLines.map (network.definitionRow topology interval)) :=
    Lookup.gather?_eq fun interval member => Lookup.mapM_eq_some fun line listed =>
      definitionRow?_eq ready (List.mem_range.mp member)
        (List.mem_range.mp (List.mem_filter.mp listed).1)
  unfold flowDefinition? flowDefinitionOf
  rw [rows]
  split <;> rfl

theorem systemBalance?_eq :
    network.systemBalance? topology = some (network.systemBalanceOf topology) := by
  unfold systemBalance? systemBalanceOf
  rw [Family.tabulate?_eq fun _ interval_lt _ _ => systemRow?_eq ready interval_lt]
  split <;> rfl

theorem relaxedFlows?_eq :
    network.relaxedFlows? topology = some (network.relaxedFlowsOf topology) := by
  unfold relaxedFlows? relaxedFlowsOf
  split
  · rfl
  · rename_i generated
    exact Family.tabulate?_eq fun _ interval_lt _ place_lt =>
      relaxedRow?_eq ready interval_lt (by simpa using generated) place_lt

theorem injectionBoxes?_eq :
    network.injectionBoxes? topology = some (network.injectionBoundsOf topology) :=
  Family.tabulate?_eq fun _ interval_lt _ node_lt => boundsBox?_eq ready interval_lt node_lt

theorem rowsOf?_eq : network.rowsOf? topology = some (network.rowsOf topology) := by
  unfold rowsOf?
  rw [flowLimits?_eq ready, injectionBalance?_eq ready, flowDefinition?_eq ready,
    systemBalance?_eq ready, relaxedFlows?_eq ready, injectionBoxes?_eq ready]
  rfl

end Families

theorem ready_of_checkTopology (grounded : network.Grounded) (shaped : network.Shaped)
    (fenced : network.Fenced) (generated : network.stage.hasVariables = true)
    (several : 1 < network.nodes) (checked : network.checkTopology = .ok topology) :
    network.Ready topology := by
  have bounded := checkTopology_bounded several checked
  obtain ⟨_, _, shape⟩ := checkShape_of_checkTopology checked
  obtain ⟨start, finish, _⟩ := endpoint_lt_of_checkShape shape
  obtain ⟨injections, flows⟩ := grounded.several generated several
  have auxiliary := grounded.auxiliary
  rw [nodes_of_topology bounded.attached] at injections
  rw [lines_of_topology bounded.attached] at flows auxiliary
  exact ⟨bounded, start, finish, shaped.demand, injections,
    flows (cost_of_checkTopology checked).1, auxiliary, fenced⟩

theorem completes_withConstraints (grounded : network.Grounded) (shaped : network.Shaped)
    (fenced : network.Fenced) (generated : network.stage.hasVariables = true) :
    network.withConstraints?.Completes network.withConstraints := by
  refine Trial.Completes.ite (fun several => ?_) fun _ => rfl
  refine Trial.Completes.bind (.require _) fun topology checked => ?_
  exact Trial.Completes.look
    (rowsOf?_eq (ready_of_checkTopology grounded shaped fenced generated several checked)) rfl

omit [Scalar K] in
theorem withObjective?_eq (grounded : network.Grounded)
    (late : network.stage.hasConstraints = true) :
    network.withObjective? = some network.withObjective := by
  unfold withObjective? withObjective costFunction
  cases attached : network.topology? with
  | none => rfl
  | some topology =>
      dsimp only
      split
      · rfl
      · rename_i generated
        have lays := grounded.auxiliary.resolve_left generated
        have priced := grounded.priced late (by simpa using generated) topology attached
        rw [← lines_of_topology attached] at priced
        have terms : network.costTerms? topology = some (network.costTerms topology) := by
          refine Lookup.gather?_eq fun interval member => ?_
          rw [List.mapIdx_eq_zipIdx_map]
          refine Lookup.mapM_eq_some fun entry listed => ?_
          have line_lt := (List.getElem?_eq_some_iff.mp
            (List.mk_mem_zipIdx_iff_getElem?.mp listed)).1
          rw [lays.at? (List.mem_range.mp member) (Nat.lt_of_lt_of_le line_lt priced)]
          rfl
        rw [terms]
        rfl

omit [Scalar K] in
theorem completes_step {target : Stage} {advance? : Network K → Trial (Network K)}
    {advance : Network K → Except Error (Network K)}
    (runs : network.stage.enter target = .ok .run →
      (advance? network).Completes (advance network)) :
    Attempt.Completes (step? target advance?) (step target advance) network := by
  apply Attempt.Completes.current
  refine Attempt.Completes.require fun action entered => ?_
  cases action with
  | skip => rfl
  | run => exact Attempt.Completes.demand (runs entered) fun _ _ => rfl

theorem completes_generateVariables (network : Network K) :
    Attempt.Completes generateVariables? generateVariables network :=
  completes_step fun _ => rfl

theorem completes_generateConstraints (grounded : network.Grounded) (shaped : network.Shaped)
    (fenced : network.Fenced) :
    Attempt.Completes generateConstraints? generateConstraints network :=
  completes_step fun entered => completes_withConstraints grounded shaped fenced (by
    rw [Stage.enter_constraints entered]
    rfl)

omit [Scalar K] in
theorem completes_generateObjective (grounded : network.Grounded) :
    Attempt.Completes generateObjective? generateObjective network :=
  completes_step fun entered => by
    have found := withObjective?_eq grounded (by
      rw [Stage.enter_objective entered]
      rfl)
    exact congrArg (Option.map Except.ok) found

end Network

end Dispatch
