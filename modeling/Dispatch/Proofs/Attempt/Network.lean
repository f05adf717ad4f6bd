import Dispatch.Proofs.Attempt.Change
import Dispatch.Proofs.Network.Update

namespace Dispatch

/-! Networks whose arrays have the sizes of the topology. An update of one finds whatever it
looks up, and is refused for its address or its shape alone. -/

variable {K : Type}

/-- A divisor of zero would stop the program. -/
def Lookup.divide? (dividend divisor : Nat) : Option (Nat × Nat) :=
  if divisor = 0 then none else some (dividend / divisor, dividend % divisor)

theorem Lookup.divide?_eq {divisor : Nat} (dividend : Nat) (positive : 0 < divisor) :
    divide? dividend divisor = some (dividend / divisor, dividend % divisor) :=
  if_neg (Nat.ne_of_gt positive)

namespace Network

open Attempt (look)

variable [Scalar K]

def demandAt? (network : Network K) (interval node : Nat) : Option K :=
  if network.demand.isEmpty then some 0
  else network.demand[interval * network.nodes + node]?

def demandFlow? (network : Network K) (topology : Topology K) (interval line : Nat) :
    Option K := do
  let demand ← (List.range topology.nodes).mapM (network.demandAt? interval)
  return Scalar.sumOfProducts (factorRow topology line) demand

def totalDemand? (network : Network K) (interval : Nat) : Option K := do
  return Scalar.sum (← (List.range network.nodes).mapM (network.demandAt? interval))

def flowRange? (network : Network K) (topology : Topology K) (kind : LineKind)
    (interval line : Nat) : Option (K × K) := do
  let low := network.kappaAt line * (← topology.minFlow[line]?)
  let high := network.kappaAt line * (← topology.maxFlow[line]?)
  if kind = .hvdc || topology.isHvdc line then return (low, high)
  else
    let shift ← network.demandFlow? topology interval line
    return (low + shift, high + shift)

def patchFlowLimits? (network : Network K) (lines : List Nat) : Option (Network K) :=
  match network.topology? with
  | none => some network
  | some topology =>
      let limits := network.rows.flowLimits
      if limits.kind = .none then some network
      else do
        let patched ← (List.range network.intervals).foldlM
          (fun limits interval => lines.foldlM
            (fun limits line => do
              let range ← network.flowRange? topology limits.kind interval line
              return limits.setBounds interval line range.1 range.2)
            limits)
          limits
        return network.withRows { network.rows with flowLimits := patched }

def patchBalances? (network : Network K) (nodes : Nat) (entries : List Nat) :
    Option (Network K) := do
  let patched ← entries.foldlM
    (fun balance entry => do
      let place ← Lookup.divide? entry nodes
      let level ← network.demand[entry]?
      return balance.modify place.1 place.2 (Row.setBoth (-level)))
    network.rows.injectionBalance
  return network.withRows { network.rows with injectionBalance := patched }

def patchInterval? (network : Network K) (topology : Topology K) (rows : NetworkRows K)
    (interval : Nat) : Option (NetworkRows K) := do
  let kind := rows.flowLimits.kind
  let flowLimits ← rows.acLines.foldlM
    (fun limits line => do
      let range ← network.flowRange? topology kind interval line
      return limits.setBounds interval line range.1 range.2)
    rows.flowLimits
  let flowDefinition ← rows.acLines.zipIdx.foldlM
    (fun definitions place => do
      let shift ← network.demandFlow? topology interval place.1
      return definitions.modify interval place.2 (Row.setBoth (-shift)))
    rows.flowDefinition
  let total ← network.totalDemand? interval
  return { rows with
    flowLimits, flowDefinition
    systemBalance := rows.systemBalance.modify interval 0 (Row.setBoth total) }

def patchIntervals? (network : Network K) (topology : Topology K) (entries : List Nat) :
    Option (Network K) := do
  let places ← entries.mapM fun entry => Lookup.divide? entry topology.nodes
  let intervals := ((places.map Prod.fst).mergeSort fun first second =>
    decide (first ≤ second)).eraseDups
  let rows ← intervals.foldlM (network.patchInterval? topology) network.rows
  return network.withRows rows

def patchDemand? (network : Network K) (entries : List Nat) : Option (Network K) :=
  match network.topology? with
  | none => some network
  | some topology =>
      match network.rows.flowLimits.kind with
      | .none => some network
      | .hvdc => network.patchBalances? topology.nodes entries
      | _ => network.patchIntervals? topology entries

def patchInjectionBounds? (network : Network K) (minimum maximum : List K) :
    Option (Network K) := do
  let bounds := network.rows.injectionBounds
  let items ← bounds.items.zipIdx.mapM fun entry => do
    return entry.1.setBounds (← minimum[entry.2]?) (← maximum[entry.2]?)
  return network.withRows { network.rows with injectionBounds := { bounds with items } }

def updateKappa? (selection : Selection) (values : List K) (physical abstract : Mode) :
    Attempt (Network K) Outcome := do
  let network ← Attempt.current
  let differs ← look (selection.differs? network.kappa 1 values)
  if !differs then return .unchanged
  if !physical.writes then return .dryRun
  let kappa ← look (selection.write? network.kappa network.lines 1 values)
  Attempt.write fun network => { network with kappa }
  if abstract.writes && network.stage.hasConstraints then
    Attempt.revise fun network => network.patchFlowLimits? selection.indices
  Attempt.report physical network.notifier (selection.record network.id .kappa)
  return .applied

def setKappa? (address : Address) (values : List K) (physical abstract : Mode) :
    Attempt (Network K) Outcome := do
  let network ← Attempt.current
  match ← Attempt.require (address.select network.lines values.length "line") with
  | none => return .unchanged
  | some selection => updateKappa? selection values physical abstract

def updateDemand? (selection : Selection) (values : List K) (physical abstract : Mode) :
    Attempt (Network K) Outcome := do
  let network ← Attempt.current
  let differs ← look (selection.differs? network.demand 0 values)
  if !differs then return .unchanged
  if !physical.writes then return .dryRun
  let demand ← look (selection.write? network.demand network.extent 0 values)
  Attempt.write fun network => { network with demand }
  if abstract.writes && network.stage.hasConstraints then
    Attempt.revise fun network => network.patchDemand? selection.indices
  Attempt.report physical network.notifier (selection.record network.id .activeDemand)
  return .applied

def setDemand? (address : Address) (values : List K) (physical abstract : Mode) :
    Attempt (Network K) Outcome := do
  let network ← Attempt.current
  match ← Attempt.require (address.select network.extent values.length "demand") with
  | none => return .unchanged
  | some selection => updateDemand? selection values physical abstract

def setInjectionBounds? (minimum maximum : List K) (physical abstract : Mode) :
    Attempt (Network K) Outcome := do
  let network ← Attempt.current
  let size := network.extent
  Attempt.require (Topology.checkLength "MinNodeInjection" size minimum.length)
  Attempt.require (Topology.checkLength "MaxNodeInjection" size maximum.length)
  if Scalar.same minimum network.minInjection &&
      Scalar.same maximum network.maxInjection then
    return .unchanged
  if !physical.writes then return .dryRun
  Attempt.write fun network =>
    { network with minInjection := minimum, maxInjection := maximum }
  if abstract.writes then
    Attempt.revise fun network => network.patchInjectionBounds? minimum maximum
  Attempt.report physical network.notifier
    ⟨network.id, .nodeInjectionBounds, .range 0 size⟩
  return .applied

/-- Flow limits are there only for lines with both of their bounds. -/
structure Bounded (network : Network K) (topology : Topology K) : Prop where
  attached : network.topology? = some topology
  nodes : 0 < topology.nodes
  minFlow : topology.minFlow.length = topology.lines
  maxFlow : topology.maxFlow.length = topology.lines

structure Shaped (network : Network K) : Prop where
  kappa : network.kappa = [] ∨ network.kappa.length = network.lines
  demand : network.demand = [] ∨ network.demand.length = network.extent
  limits : network.rows.flowLimits.kind ≠ .none → ∃ topology, network.Bounded topology
  acLines : ∀ line ∈ network.rows.acLines, line < network.lines
  bounds : network.rows.injectionBounds.items.length ≤ network.extent

variable {network : Network K} {topology : Topology K}

theorem demandAt?_eq (shaped : network.demand = [] ∨ network.demand.length = network.extent)
    {interval node : Nat} (interval_lt : interval < network.intervals)
    (node_lt : node < network.nodes) :
    network.demandAt? interval node = some (network.demandAt interval node) := by
  unfold demandAt? demandAt
  split
  · rfl
  · rename_i given
    cases shaped with
    | inl empty => simp [empty] at given
    | inr length =>
        refine Lookup.getElem?_eq_getD ?_ 0
        rw [length]
        exact Family.index_lt interval_lt node_lt

theorem demandFlow?_eq (shaped : network.demand = [] ∨ network.demand.length = network.extent)
    (attached : network.topology? = some topology) {interval : Nat}
    (interval_lt : interval < network.intervals) (line : Nat) :
    network.demandFlow? topology interval line =
      some (network.demandFlow topology interval line) := by
  unfold demandFlow?
  rw [Lookup.mapM_eq_some fun node member => demandAt?_eq shaped interval_lt
    (nodes_of_topology attached ▸ List.mem_range.mp member)]
  rfl

theorem totalDemand?_eq
    (shaped : network.demand = [] ∨ network.demand.length = network.extent)
    {interval : Nat} (interval_lt : interval < network.intervals) :
    network.totalDemand? interval = some (network.totalDemand interval) := by
  unfold totalDemand?
  rw [Lookup.mapM_eq_some fun node member => demandAt?_eq shaped interval_lt
    (List.mem_range.mp member)]
  rfl

theorem flowRange?_eq (shaped : network.demand = [] ∨ network.demand.length = network.extent)
    (bounded : network.Bounded topology) (kind : LineKind) {interval line : Nat}
    (interval_lt : interval < network.intervals) (line_lt : line < topology.lines) :
    network.flowRange? topology kind interval line =
      some (network.flowRange topology kind interval line) := by
  have low : topology.minFlow[line]? = some (topology.minFlowOf line) :=
    Lookup.getElem?_eq_getD (bounded.minFlow ▸ line_lt) 0
  have high : topology.maxFlow[line]? = some (topology.maxFlowOf line) :=
    Lookup.getElem?_eq_getD (bounded.maxFlow ▸ line_lt) 0
  unfold flowRange? flowRange
  rw [low, high, demandFlow?_eq shaped bounded.attached interval_lt]
  dsimp only [Option.bind_eq_bind, Option.bind_some]
  split <;> rfl

omit [Scalar K] in
theorem lines_of_topology (attached : network.topology? = some topology) :
    network.lines = topology.lines := by
  simp [lines, attached]

omit [Scalar K] in
theorem kind_eq_none {limits : FlowLimits K} (kind : limits.kind = .none) :
    limits = .none := by
  cases limits with
  | none => rfl
  | hvdc limits => cases kind
  | ac limits => cases kind
  | hybrid limits => cases kind

/-- The lines of one interval. -/
theorem foldlM_setBounds
    (shaped : network.demand = [] ∨ network.demand.length = network.extent)
    (bounded : network.Bounded topology) {interval : Nat}
    (interval_lt : interval < network.intervals) {lines : List Nat}
    (within : ∀ line ∈ lines, line < network.lines) (kind : FlowLimits K → LineKind)
    (limits : FlowLimits K) :
    lines.foldlM
        (fun limits line => do
          let range ← network.flowRange? topology (kind limits) interval line
          return limits.setBounds interval line range.1 range.2)
        limits =
      some (lines.foldl
        (fun limits line =>
          let range := network.flowRange topology (kind limits) interval line
          limits.setBounds interval line range.1 range.2)
        limits) := by
  refine Lookup.foldlM_eq_some (fun _ => True) (fun line member limits _ => ?_) trivial
  have line_lt := within line member
  rw [lines_of_topology bounded.attached] at line_lt
  rw [flowRange?_eq shaped bounded (kind limits) interval_lt line_lt]
  exact ⟨rfl, trivial⟩

theorem patchFlowLimits?_eq (shaped : network.Shaped) {lines : List Nat}
    (within : ∀ line ∈ lines, line < network.lines) :
    network.patchFlowLimits? lines = some (network.patchFlowLimits lines) := by
  unfold patchFlowLimits?
  cases attached : network.topology? with
  | none => simp [patchFlowLimits, attached]
  | some topology =>
      dsimp only
      by_cases absent : network.rows.flowLimits.kind = .none
      · rw [if_pos absent, patchFlowLimits_none (kind_eq_none absent)]
      · obtain ⟨bounding, bounded⟩ := shaped.limits absent
        cases attached.symm.trans bounded.attached
        rw [if_neg absent, patchFlowLimits, attached,
          Lookup.foldlM_eq_some (fun _ => True)
            (fun interval member limits _ => ⟨foldlM_setBounds shaped.demand bounded
              (List.mem_range.mp member) within FlowLimits.kind limits, trivial⟩) trivial]
        rfl

theorem patchBalances?_eq {nodes : Nat} (positive : 0 < nodes) {entries : List Nat}
    (within : ∀ entry ∈ entries, entry < network.demand.length) :
    network.patchBalances? nodes entries = some (network.patchBalances nodes entries) := by
  unfold patchBalances?
  rw [Lookup.foldlM_eq_some (fun _ => True) (fun entry member balance _ => ⟨by
    rw [Lookup.divide?_eq entry positive, Lookup.getElem?_eq_getD (within entry member) 0]
    rfl, trivial⟩) trivial]
  rfl

theorem patchInterval?_eq (shaped : network.Shaped) (bounded : network.Bounded topology)
    {rows : NetworkRows K} (acLines : rows.acLines = network.rows.acLines) {interval : Nat}
    (interval_lt : interval < network.intervals) :
    network.patchInterval? topology rows interval =
      some (network.patchInterval topology rows interval) := by
  have lines := shaped.acLines
  rw [← acLines] at lines
  have definitions : rows.acLines.zipIdx.foldlM
      (fun definitions place => do
        let shift ← network.demandFlow? topology interval place.1
        return definitions.modify interval place.2 (Row.setBoth (-shift)))
      rows.flowDefinition = some _ :=
    Lookup.foldlM_eq_some (fun _ => True) (fun place _ definitions _ =>
      ⟨by rw [demandFlow?_eq shaped.demand bounded.attached interval_lt]; rfl, trivial⟩) trivial
  unfold patchInterval?
  dsimp only
  rw [foldlM_setBounds shaped.demand bounded interval_lt lines (fun _ => rows.flowLimits.kind),
    definitions, totalDemand?_eq shaped.demand interval_lt]
  rfl

theorem patchIntervals?_eq (shaped : network.Shaped) (bounded : network.Bounded topology)
    {entries : List Nat} (within : ∀ entry ∈ entries, entry < network.extent) :
    network.patchIntervals? topology entries =
      some (network.withRows ((touchedIntervals topology.nodes entries).foldl
        (network.patchInterval topology) network.rows)) := by
  have intervals : (((entries.map fun entry =>
        (entry / topology.nodes, entry % topology.nodes)).map Prod.fst).mergeSort
          fun first second => decide (first ≤ second)).eraseDups =
      touchedIntervals topology.nodes entries := by
    rw [List.map_map]
    rfl
  have patched : (touchedIntervals topology.nodes entries).foldlM
        (network.patchInterval? topology) network.rows =
      some ((touchedIntervals topology.nodes entries).foldl
        (network.patchInterval topology) network.rows) := by
    refine Lookup.foldlM_eq_some
      (fun rows : NetworkRows K => rows.acLines = network.rows.acLines) ?_ rfl
    intro interval touched rows acLines
    refine ⟨?_, acLines⟩
    obtain ⟨entry, member, rfl⟩ := mem_touchedIntervals.mp touched
    have entry_lt := within entry member
    rw [extent, nodes_of_topology bounded.attached, Nat.mul_comm] at entry_lt
    exact patchInterval?_eq shaped bounded acLines (Nat.div_lt_of_lt_mul entry_lt)
  unfold patchIntervals?
  rw [Lookup.mapM_eq_some fun entry _ => Lookup.divide?_eq entry bounded.nodes]
  simp only [Option.bind_eq_bind, Option.bind_some]
  rw [intervals, patched]
  rfl

theorem patchDemand?_eq (shaped : network.Shaped)
    (given : network.demand.length = network.extent) {entries : List Nat}
    (within : ∀ entry ∈ entries, entry < network.extent) :
    network.patchDemand? entries = some (network.patchDemand entries) := by
  unfold patchDemand? patchDemand
  cases attached : network.topology? with
  | none => rfl
  | some topology =>
      dsimp only
      by_cases absent : network.rows.flowLimits.kind = .none
      · rw [absent]
      · obtain ⟨bounding, bounded⟩ := shaped.limits absent
        cases attached.symm.trans bounded.attached
        have intervals := patchIntervals?_eq shaped bounded within
        cases kind : network.rows.flowLimits.kind with
        | none => exact absurd kind absent
        | hvdc =>
            exact patchBalances?_eq bounded.nodes
              fun entry member => by rw [given]; exact within entry member
        | ac => exact intervals
        | hybrid => exact intervals

theorem patchInjectionBounds?_eq {minimum maximum : List K}
    (bounds : network.rows.injectionBounds.items.length ≤ network.extent)
    (minFits : minimum.length = network.extent) (maxFits : maximum.length = network.extent) :
    network.patchInjectionBounds? minimum maximum =
      some (network.patchInjectionBounds minimum maximum) := by
  unfold patchInjectionBounds? patchInjectionBounds
  dsimp only
  rw [Lookup.mapM_eq_some fun entry member => by
    have place := List.mem_zipIdx_iff_getElem?.mp member
    have entry_lt := Nat.lt_of_lt_of_le (List.getElem?_eq_some_iff.mp place).1 bounds
    rw [Lookup.getElem?_eq_getD (minFits ▸ entry_lt) 0,
      Lookup.getElem?_eq_getD (maxFits ▸ entry_lt) 0]
    rfl, List.mapIdx_eq_zipIdx_map]
  rfl

/-- Later rows in which the lookups of an update find what they found before. -/
structure SameFrame (before after : Network K) : Prop where
  stage : after.stage = before.stage
  extent : after.extent = before.extent
  topology : after.topology? = before.topology?
  kind : after.rows.flowLimits.kind = before.rows.flowLimits.kind
  acLines : after.rows.acLines = before.rows.acLines
  bounds : after.rows.injectionBounds.items.length = before.rows.injectionBounds.items.length

omit [Scalar K] in
theorem SameFrame.lines {before after : Network K} (same : SameFrame before after) :
    after.lines = before.lines := by
  unfold Network.lines
  rw [same.topology]

omit [Scalar K] in
theorem Shaped.congr {before after : Network K} (shaped : before.Shaped)
    (same : SameFrame before after)
    (kappa : after.kappa = [] ∨ after.kappa.length = after.lines)
    (demand : after.demand = [] ∨ after.demand.length = after.extent) : after.Shaped where
  kappa := kappa
  demand := demand
  limits present := by
    rw [same.kind] at present
    obtain ⟨topology, bounded⟩ := shaped.limits present
    exact ⟨topology, same.topology.trans bounded.attached, bounded.nodes, bounded.minFlow,
      bounded.maxFlow⟩
  acLines := by
    rw [same.acLines, same.lines]
    exact shaped.acLines
  bounds := by
    rw [same.bounds, same.extent]
    exact shaped.bounds

omit [Scalar K] in
theorem sameFrame_reloaded (network : Network K) (demand kappa : List K) :
    SameFrame network (network.reloaded demand kappa) :=
  ⟨rfl, rfl, rfl, rfl, rfl, rfl⟩

theorem SameFrame.patchFlowLimits {before after : Network K} (same : SameFrame before after)
    (lines : List Nat) : SameFrame before (after.patchFlowLimits lines) := by
  unfold Network.patchFlowLimits
  split
  · exact same
  · refine { same with kind := ?_ }
    rw [← same.kind]
    exact foldl_kept FlowLimits.kind
      (fun _ _ => foldl_kept FlowLimits.kind (fun _ _ => kind_setBounds _ _ _ _ _) _ _) _ _

theorem SameFrame.patchDemand {before after : Network K} (same : SameFrame before after)
    (entries : List Nat) : SameFrame before (after.patchDemand entries) := by
  unfold Network.patchDemand
  split
  · exact same
  · split
    · exact same
    · exact { same with }
    · rw [foldl_patchInterval]
      refine { same with kind := ?_ }
      rw [← same.kind]
      exact foldl_kept FlowLimits.kind
        (fun _ _ => foldl_kept FlowLimits.kind (fun _ _ => kind_setBounds _ _ _ _ _) _ _) _ _

theorem SameFrame.withKappa (network : Network K) (selection : Selection) (values : List K)
    (abstract : Mode) : SameFrame network (network.withKappa selection values abstract) := by
  unfold Network.withKappa
  dsimp only
  split
  · exact (sameFrame_reloaded network _ _).patchFlowLimits _
  · exact sameFrame_reloaded network _ _

theorem SameFrame.withDemand (network : Network K) (selection : Selection)
    (values : List K) (abstract : Mode) :
    SameFrame network (network.withDemand selection values abstract) := by
  unfold Network.withDemand
  dsimp only
  split
  · exact (sameFrame_reloaded network _ _).patchDemand _
  · exact sameFrame_reloaded network _ _

theorem SameFrame.withInjectionBounds (network : Network K) (minimum maximum : List K)
    (abstract : Mode) :
    SameFrame network (network.withInjectionBounds minimum maximum abstract) := by
  unfold Network.withInjectionBounds
  dsimp only
  split
  · refine ⟨rfl, rfl, rfl, rfl, rfl, ?_⟩
    simp [patchInjectionBounds, rebounded]
  · exact ⟨rfl, rfl, rfl, rfl, rfl, rfl⟩

theorem kappa_withKappa (network : Network K) (selection : Selection) (values : List K)
    (abstract : Mode) :
    (network.withKappa selection values abstract).kappa =
        selection.write network.kappa network.lines 1 values ∧
      (network.withKappa selection values abstract).demand = network.demand := by
  unfold Network.withKappa
  dsimp only
  split
  · rw [patchFlowLimits_withRows]
    exact ⟨rfl, rfl⟩
  · exact ⟨rfl, rfl⟩

theorem demand_withDemand (network : Network K) (selection : Selection) (values : List K)
    (abstract : Mode) :
    (network.withDemand selection values abstract).demand =
        selection.write network.demand network.extent 0 values ∧
      (network.withDemand selection values abstract).kappa = network.kappa := by
  unfold Network.withDemand
  dsimp only
  split
  · rw [patchDemand_withRows]
    exact ⟨rfl, rfl⟩
  · exact ⟨rfl, rfl⟩

open Attempt (Completes)

theorem completes_setKappa (shaped : network.Shaped) (address : Address) (values : List K)
    (physical abstract : Mode) :
    Completes (setKappa? address values physical abstract)
      (setKappa address values physical abstract) network := by
  apply Completes.current
  refine Completes.require fun selected found => ?_
  cases selected with
  | none => rfl
  | some selection =>
      have within := (Address.select_sound found).1
      have kept : (network.reloaded network.demand
          (selection.write network.kappa network.lines 1 values)).Shaped :=
        shaped.congr (sameFrame_reloaded network _ _)
          (.inr (selection.length_write shaped.kappa 1 values)) shaped.demand
      apply Completes.current
      apply Completes.look (selection.differs?_eq within shaped.kappa 1 values)
      refine Completes.ite (fun _ => rfl) fun _ => Completes.ite (fun _ => rfl) fun _ => ?_
      apply Completes.look (selection.write?_eq within shaped.kappa 1 values)
      apply Completes.write
      refine Completes.ite (fun _ => ?_) fun _ => Completes.report rfl
      exact Completes.revise (patchFlowLimits?_eq kept within) (Completes.report rfl)

theorem completes_setDemand (shaped : network.Shaped) (address : Address) (values : List K)
    (physical abstract : Mode) :
    Completes (setDemand? address values physical abstract)
      (setDemand address values physical abstract) network := by
  apply Completes.current
  refine Completes.require fun selected found => ?_
  cases selected with
  | none => rfl
  | some selection =>
      have within := (Address.select_sound found).1
      have given := selection.length_write shaped.demand 0 values
      have kept : (network.reloaded (selection.write network.demand network.extent 0 values)
          network.kappa).Shaped :=
        shaped.congr (sameFrame_reloaded network _ _) shaped.kappa (.inr given)
      apply Completes.current
      apply Completes.look (selection.differs?_eq within shaped.demand 0 values)
      refine Completes.ite (fun _ => rfl) fun _ => Completes.ite (fun _ => rfl) fun _ => ?_
      apply Completes.look (selection.write?_eq within shaped.demand 0 values)
      apply Completes.write
      refine Completes.ite (fun _ => ?_) fun _ => Completes.report rfl
      exact Completes.revise (patchDemand?_eq kept given within) (Completes.report rfl)

theorem checkLength_ok {what : String} {expected found : Nat} {answer : PUnit}
    (checked : Topology.checkLength what expected found = .ok answer) : found = expected := by
  unfold Topology.checkLength at checked
  split at checked
  · assumption
  · cases checked

theorem completes_setInjectionBounds (shaped : network.Shaped) (minimum maximum : List K)
    (physical abstract : Mode) :
    Completes (setInjectionBounds? minimum maximum physical abstract)
      (setInjectionBounds minimum maximum physical abstract) network := by
  apply Completes.current
  refine Completes.require fun _ minFits => Completes.require fun _ maxFits => ?_
  refine Completes.ite (fun _ => rfl) fun _ => Completes.ite (fun _ => rfl) fun _ => ?_
  apply Completes.write
  have bounds : (network.rebounded minimum maximum).rows.injectionBounds.items.length ≤
      (network.rebounded minimum maximum).extent := shaped.bounds
  refine Completes.ite (fun _ => ?_) fun _ => Completes.report rfl
  exact Completes.revise (patchInjectionBounds?_eq bounds (checkLength_ok minFits)
    (checkLength_ok maxFits)) (Completes.report rfl)

theorem atomic_setKappa (address : Address) (values : List K) (physical abstract : Mode)
    (network : Network K) : (setKappa address values physical abstract).Atomic network := by
  intro error refused
  rw [setKappa_apply] at refused ⊢
  split at refused
  · cases refused
    rfl
  · cases refused
  · rw [updateKappa_apply] at refused
    split at refused
    · cases refused
    · split at refused <;> cases refused

theorem atomic_setDemand (address : Address) (values : List K) (physical abstract : Mode)
    (network : Network K) : (setDemand address values physical abstract).Atomic network := by
  intro error refused
  rw [setDemand_apply] at refused ⊢
  split at refused
  · cases refused
    rfl
  · cases refused
  · rw [updateDemand_apply] at refused
    split at refused
    · cases refused
    · split at refused <;> cases refused

theorem atomic_setInjectionBounds (minimum maximum : List K) (physical abstract : Mode)
    (network : Network K) :
    (setInjectionBounds minimum maximum physical abstract).Atomic network := by
  intro error refused
  rw [setInjectionBounds_apply] at refused ⊢
  split at refused
  · rename_i short
    rw [if_pos short]
    cases refused
    rfl
  · rename_i minFits
    rw [if_neg minFits]
    split at refused
    · rename_i short
      rw [if_pos short]
      cases refused
      rfl
    · split at refused
      · cases refused
      · split at refused <;> cases refused

end Network

end Dispatch
