import Dispatch.Proofs.Closure.Plant

namespace Dispatch

/-! Whatever a network has generated refers to its own store, at every stage. -/

variable {K : Type}

def FlowLimits.RefersTo (limits : FlowLimits K) (known : VarRef → Prop) : Prop :=
  match limits with
  | .none => True
  | .hvdc limits => limits.RefersTo known
  | .ac limits => limits.RefersTo known
  | .hybrid limits => limits.RefersTo known

theorem FlowLimits.RefersTo.imp {limits : FlowLimits K} {known other : VarRef → Prop}
    (refers : limits.RefersTo known) (sub : ∀ var, known var → other var) :
    limits.RefersTo other := by
  cases limits with
  | none => trivial
  | hvdc family => exact Family.RefersTo.imp refers sub
  | ac family => exact Family.RefersTo.imp refers sub
  | hybrid family => exact Family.RefersTo.imp refers sub

theorem FlowLimits.RefersTo.setBounds {limits : FlowLimits K} {known : VarRef → Prop}
    (refers : limits.RefersTo known) (interval line : Nat) (lhs rhs : K) :
    (limits.setBounds interval line lhs rhs).RefersTo known := by
  cases limits with
  | none => trivial
  | hvdc family => exact Family.RefersTo.modify refers interval line fun _ => rfl
  | ac family => exact Family.RefersTo.modify refers interval line fun _ => rfl
  | hybrid family => exact Family.RefersTo.modify refers interval line fun _ => rfl

structure NetworkRows.RefersTo (rows : NetworkRows K) (known : VarRef → Prop) : Prop where
  flowLimits : rows.flowLimits.RefersTo known
  injectionBalance : rows.injectionBalance.RefersTo known
  flowDefinition : rows.flowDefinition.RefersTo known
  systemBalance : rows.systemBalance.RefersTo known
  relaxedFlows : rows.relaxedFlows.RefersTo known
  injectionBounds : rows.injectionBounds.RefersTo known

namespace NetworkRows.RefersTo

variable {rows : NetworkRows K} {known other : VarRef → Prop}

theorem imp (refers : rows.RefersTo known) (sub : ∀ var, known var → other var) :
    rows.RefersTo other where
  flowLimits := refers.flowLimits.imp sub
  injectionBalance := refers.injectionBalance.imp sub
  flowDefinition := refers.flowDefinition.imp sub
  systemBalance := refers.systemBalance.imp sub
  relaxedFlows := refers.relaxedFlows.imp sub
  injectionBounds := refers.injectionBounds.imp sub

theorem none : (NetworkRows.none : NetworkRows K).RefersTo known where
  flowLimits := trivial
  injectionBalance := Family.refersTo_empty _ _
  flowDefinition := Family.refersTo_empty _ _
  systemBalance := Family.refersTo_empty _ _
  relaxedFlows := Family.refersTo_empty _ _
  injectionBounds := Family.refersTo_empty _ _

theorem entries (refers : rows.RefersTo known) :
    ∀ entry ∈ rows.entries, ∀ var ∈ Mps.mentions entry.constraint, known var := by
  intro entry member
  simp only [NetworkRows.entries, List.mem_append] at member
  rcases member with ((((limit | balance) | definition) | system) | relaxed) | bounds
  · have limits := refers.flowLimits
    cases kind : rows.flowLimits with
    | none =>
        rw [kind] at limit
        cases limit
    | hvdc family =>
        rw [kind] at limit limits
        exact Family.RefersTo.entries limits entry limit
    | ac family =>
        rw [kind] at limit limits
        exact Family.RefersTo.entries limits entry limit
    | hybrid family =>
        rw [kind] at limit limits
        exact Family.RefersTo.entries limits entry limit
  · exact refers.injectionBalance.entries entry balance
  · exact refers.flowDefinition.entries entry definition
  · exact refers.systemBalance.entries entry system
  · exact refers.relaxedFlows.entries entry relaxed
  · exact refers.injectionBounds.entries entry bounds

end NetworkRows.RefersTo

namespace Network

variable [Scalar K]

structure Grounded (network : Network K) : Prop where
  block : network.store.block = network.id
  bare : network.stage.hasVariables = false →
    network.nodeInjection.isEmpty = true ∧ network.auxiliary.isEmpty = true
  injections : network.store.LaysOrEmpty network.nodeInjection network.intervals network.nodes
  auxiliary : network.store.LaysOrEmpty network.auxiliary network.intervals network.lines
  several : network.stage.hasVariables = true → 1 < network.nodes →
    network.store.Lays network.nodeInjection network.intervals network.nodes ∧
      (0 < network.lines →
        network.store.Lays network.powerFlow network.intervals network.lines)
  single : ¬1 < network.nodes → network.auxiliary.isEmpty = true
  priced : network.stage.hasConstraints = true → network.auxiliary.isEmpty = false →
    ∀ topology, network.topology? = some topology → topology.cost.length ≤ topology.lines
  rows : network.rows.RefersTo network.store.Has
  costs : ∀ objective ∈ network.objective, ∀ term ∈ objective.function.terms,
    network.store.Has term.1

variable {network : Network K}

omit [Scalar K] in
theorem Grounded.closed (grounded : network.Grounded) : network.model.Closed := by
  refine Model.closed_of_store rfl rfl ⟨fun objective member => ?_, fun entry member => ?_⟩
  · exact grounded.costs objective (Option.mem_toList.mp member)
  · exact grounded.rows.entries entry member

omit [Scalar K] in
theorem Grounded.stored (grounded : network.Grounded) {store : Store K}
    (grows : Store.Extends network.store store) :
    ({ network with store } : Network K).Grounded where
  block := grows.block.trans grounded.block
  bare := grounded.bare
  injections := grounded.injections.extend grows
  auxiliary := grounded.auxiliary.extend grows
  several reached several := (grounded.several reached several).imp (fun lays => lays.extend grows)
    fun flows present => (flows present).extend grows
  single := grounded.single
  priced := grounded.priced
  rows := grounded.rows.imp fun _ has => has.extend grows
  costs objective member term inside := (grounded.costs objective member term inside).extend grows

theorem grounded_bus (id : BlockId) : (bus id : Network K).Grounded where
  block := rfl
  bare _ := ⟨rfl, rfl⟩
  injections := .inl rfl
  auxiliary := .inl rfl
  several late := by cases late
  single _ := rfl
  priced late := by cases late
  rows := .none
  costs := nofun

omit [Scalar K] in
/-- While nothing is generated no grid depends on the topology. -/
theorem Grounded.early (grounded : network.Grounded) {other : Network K}
    (bare : network.stage.hasVariables = false)
    (same : other = { network with
      descriptor := other.descriptor, looseNodes := other.looseNodes,
      intervals := other.intervals, demand := other.demand, kappa := other.kappa,
      minInjection := other.minInjection, maxInjection := other.maxInjection,
      constantTerm := other.constantTerm, layouts := other.layouts }) :
    other.Grounded := by
  obtain ⟨noInjection, noAuxiliary⟩ := grounded.bare bare
  rw [same]
  exact {
    block := grounded.block
    bare := grounded.bare
    injections := .inl noInjection
    auxiliary := .inl noAuxiliary
    several := fun late => absurd (late.symm.trans bare) (by simp)
    single := fun _ => noAuxiliary
    priced := fun _ present => absurd (present.symm.trans noAuxiliary) (by simp)
    rows := grounded.rows
    costs := grounded.costs }

theorem addGridIf_grows (store : Store K) (wanted : Bool) (rows cols : Nat) :
    Store.Extends store (addGridIf store wanted rows cols).1 ∧
      (addGridIf store wanted rows cols).1.LaysOrEmpty
        (addGridIf store wanted rows cols).2 rows cols ∧
      (wanted = true → (addGridIf store wanted rows cols).1.Lays
        (addGridIf store wanted rows cols).2 rows cols) := by
  cases wanted with
  | true =>
      have lays := store.lays_nextGrid rows cols (Variable.continuous : Variable K)
      exact ⟨store.extends_extend rows cols _, .inr lays, fun _ => lays⟩
  | false => exact ⟨.refl store, .inl rfl, nofun⟩

/-- Injections, flows and flow sizes come at the end of the store, in this order. -/
theorem withVariables_grows (network : Network K) :
    let after := network.withVariables
    Store.Extends network.store after.store ∧
      after.store.LaysOrEmpty after.nodeInjection network.intervals network.nodes ∧
      after.store.LaysOrEmpty after.auxiliary network.intervals network.lines ∧
      (1 < network.nodes →
        after.store.Lays after.nodeInjection network.intervals network.nodes ∧
          (0 < network.lines →
            after.store.Lays after.powerFlow network.intervals network.lines)) ∧
      (¬1 < network.nodes → after.auxiliary.isEmpty = true) := by
  obtain ⟨first, injections, injected⟩ := addGridIf_grows network.store
    (decide (1 < network.nodes)) network.intervals network.nodes
  obtain ⟨second, -, flowing⟩ := addGridIf_grows (K := K) _
    (decide (1 < network.nodes) && decide (0 < network.lines)) network.intervals network.lines
  obtain ⟨last, auxiliary, -⟩ := addGridIf_grows (K := K) _
    (decide (1 < network.nodes) && decide (0 < network.lines) && network.hasCost)
    network.intervals network.lines
  refine ⟨first.trans (second.trans last), injections.extend (second.trans last), auxiliary,
    fun several => ⟨?_, fun present => ?_⟩, fun single => ?_⟩
  · exact (injected (decide_eq_true several)).extend (second.trans last)
  · exact (flowing (by simp [several, present])).extend last
  · have unwanted : (decide (1 < network.nodes) && decide (0 < network.lines) &&
        network.hasCost) = false := by simp [single]
    unfold withVariables
    dsimp only
    rw [unwanted]
    rfl

theorem Grounded.withVariables (grounded : network.Grounded) :
    network.withVariables.Grounded := by
  obtain ⟨grows, injections, auxiliary, several, single⟩ := network.withVariables_grows
  exact { grounded.stored grows with
    bare := fun early => by cases early
    injections := injections
    auxiliary := auxiliary
    several := fun _ => several
    single := single
    priced := fun late => by cases late }

section Rows

variable {topology : Topology K} {interval : Nat}
  (injects : ∀ node < topology.nodes, network.store.Has (network.injection interval node))
  (flows : ∀ line < topology.lines, network.store.Has (network.flow interval line))

include injects flows in
theorem distribution_refers (line : Nat) :
    ∀ term ∈ network.distribution topology interval line, network.store.Has term.1 := by
  intro term member
  cases List.mem_append.mp member with
  | inl injection =>
      obtain ⟨node, node_lt, rfl⟩ := List.mem_map.mp injection
      exact injects node (List.mem_range.mp node_lt)
  | inr transfer =>
      obtain ⟨other, other_lt, kept⟩ := List.mem_filterMap.mp transfer
      unfold transferTerm? at kept
      split at kept
      · dsimp only at kept
        split at kept
        · cases kept
          exact flows other (List.mem_range.mp other_lt)
        · cases kept
      · cases kept

include injects flows in
theorem limitRow_refers (kind : LineKind) {line : Nat} (line_lt : line < topology.lines) :
    ∀ var ∈ Mps.mentions (.row (network.limitRow topology kind interval line)),
      network.store.Has var := by
  unfold limitRow
  dsimp only
  split
  · exact List.forall_mem_singleton.mpr (flows line line_lt)
  · exact List.forall_mem_map.mpr (distribution_refers injects flows line)

include flows in
theorem incidence_refers (node : Nat) {line : Nat} (line_lt : line < topology.lines) :
    ∀ term ∈ network.incidence topology interval node line, network.store.Has term.1 := by
  intro term member
  have flow := flows line line_lt
  cases List.mem_append.mp member with
  | inl leaves =>
      split at leaves
      · rw [List.mem_singleton.mp leaves]
        exact flow
      · cases leaves
  | inr enters =>
      split at enters
      · rw [List.mem_singleton.mp enters]
        exact flow
      · cases enters

include injects flows in
theorem balanceRow_refers {node : Nat} (node_lt : node < topology.nodes) :
    ∀ var ∈ Mps.mentions (.row (network.balanceRow topology interval node)),
      network.store.Has var := by
  refine List.forall_mem_map.mpr fun term member => ?_
  rcases List.mem_cons.mp member with rfl | incident
  · exact injects node node_lt
  · obtain ⟨line, line_lt, inside⟩ := List.mem_flatMap.mp incident
    exact incidence_refers flows node (List.mem_range.mp line_lt) term inside

include injects flows in
theorem definitionRow_refers {line : Nat} (line_lt : line < topology.lines) :
    ∀ var ∈ Mps.mentions (.row (network.definitionRow topology interval line)),
      network.store.Has var := by
  refine List.forall_mem_map.mpr fun term member => ?_
  rcases List.mem_cons.mp member with rfl | moved
  · exact flows line line_lt
  · obtain ⟨before, inside, rfl⟩ := List.mem_map.mp moved
    exact distribution_refers injects flows line before inside

include injects in
theorem systemRow_refers :
    ∀ var ∈ Mps.mentions (.row (network.systemRow topology interval)),
      network.store.Has var := by
  refine List.forall_mem_map.mpr fun term member => ?_
  obtain ⟨node, node_lt, rfl⟩ := List.mem_map.mp member
  exact injects node (List.mem_range.mp node_lt)

include flows in
theorem relaxedRow_refers
    (sizes : network.store.Lays network.auxiliary network.intervals topology.lines)
    (interval_lt : interval < network.intervals) {place : Nat}
    (place_lt : place < 2 * topology.lines) :
    ∀ var ∈ Mps.mentions (.row (network.relaxedRow topology.lines interval place)),
      network.store.Has var := by
  have line_lt : (if place < topology.lines then place else place - topology.lines) <
      topology.lines := by
    split <;> omega
  exact List.forall_mem_cons.mpr ⟨flows _ line_lt,
    List.forall_mem_singleton.mpr (sizes.cell interval_lt line_lt)⟩

end Rows

/-- The rows of a topology whose injections and flows have variables. -/
theorem Grounded.rowsOf (grounded : network.Grounded) {topology : Topology K}
    (attached : network.topology? = some topology)
    (injections : network.store.Lays network.nodeInjection network.intervals topology.nodes)
    (flowing : network.store.Lays network.powerFlow network.intervals topology.lines) :
    (network.rowsOf topology).RefersTo network.store.Has := by
  have injects {interval : Nat} (interval_lt : interval < network.intervals) (node : Nat)
      (node_lt : node < topology.nodes) : network.store.Has (network.injection interval node) :=
    injections.cell interval_lt node_lt
  have flows {interval : Nat} (interval_lt : interval < network.intervals) (line : Nat)
      (line_lt : line < topology.lines) : network.store.Has (network.flow interval line) :=
    flowing.cell interval_lt line_lt
  have limits (kind : LineKind) (name : String) :
      (network.limitRows topology kind name).RefersTo network.store.Has :=
    Family.refersTo_tabulate _ _ _ fun interval interval_lt line line_lt =>
      limitRow_refers (injects interval_lt) (flows interval_lt) kind line_lt
  refine ⟨?flowLimits, ?balance, ?definition, ?system, ?relaxed, ?bounds⟩
  case flowLimits =>
    change (network.flowLimitsOf topology).RefersTo _
    unfold flowLimitsOf
    split
    · trivial
    · exact Family.refersTo_tabulate _ _ _ fun interval interval_lt line line_lt =>
        List.forall_mem_singleton.mpr (flows interval_lt line line_lt)
    · exact limits _ _
    · exact limits _ _
  case balance =>
    change (network.injectionBalanceOf topology).RefersTo _
    unfold injectionBalanceOf
    split
    · exact Family.refersTo_tabulate _ _ _ fun interval interval_lt node node_lt =>
        balanceRow_refers (injects interval_lt) (flows interval_lt) node_lt
    · exact Family.refersTo_empty _ _
  case definition =>
    change (network.flowDefinitionOf topology).RefersTo _
    unfold flowDefinitionOf
    split
    · intro row member
      obtain ⟨interval, interval_lt, member⟩ := List.mem_flatMap.mp member
      obtain ⟨line, line_ac, rfl⟩ := List.mem_map.mp member
      have interval_lt := List.mem_range.mp interval_lt
      have line_lt := List.mem_range.mp (List.mem_filter.mp line_ac).1
      exact definitionRow_refers (injects interval_lt) (flows interval_lt) line_lt
    · exact Family.refersTo_empty _ _
  case system =>
    change (network.systemBalanceOf topology).RefersTo _
    unfold systemBalanceOf
    split
    · exact Family.refersTo_tabulate _ _ _ fun interval interval_lt _ _ =>
        systemRow_refers (injects interval_lt)
    · exact Family.refersTo_empty _ _
  case relaxed =>
    change (network.relaxedFlowsOf topology).RefersTo _
    unfold relaxedFlowsOf
    split
    · exact Family.refersTo_empty _ _
    · rename_i present
      have sizes := grounded.auxiliary.resolve_left present
      rw [lines_of_topology attached] at sizes
      exact Family.refersTo_tabulate _ _ _ fun interval interval_lt place place_lt =>
        relaxedRow_refers (flows interval_lt) sizes interval_lt place_lt
  case bounds =>
    exact Family.refersTo_tabulate _ _ _ fun interval interval_lt node node_lt =>
      List.forall_mem_singleton.mpr (injects interval_lt node node_lt)

theorem cost_of_checkTopology {topology : Topology K}
    (checked : network.checkTopology = .ok topology) :
    0 < topology.lines ∧ topology.cost.length ≤ topology.lines := by
  obtain ⟨lines, _, shape⟩ := checkShape_of_checkTopology checked
  obtain ⟨_, _, shape⟩ := Except.bind_eq_ok.mp shape
  obtain ⟨_, _, shape⟩ := Except.bind_eq_ok.mp shape
  obtain ⟨_, _, shape⟩ := Except.bind_eq_ok.mp shape
  obtain ⟨_, _, shape⟩ := Except.bind_eq_ok.mp shape
  obtain ⟨_, _, shape⟩ := Except.bind_eq_ok.mp shape
  obtain ⟨_, cost, _⟩ := Except.bind_eq_ok.mp shape
  refine ⟨Nat.pos_of_ne_zero lines, ?_⟩
  unfold Topology.checkOptionalLength at cost
  split at cost
  · rename_i absent
    rw [absent]
    exact Nat.zero_le _
  · exact Nat.le_of_eq (checkLength_ok cost)

theorem Grounded.withConstraints (grounded : network.Grounded)
    (generated : network.stage.hasVariables = true) {result : Network K}
    (advanced : network.withConstraints = .ok result) : result.Grounded := by
  rcases withConstraints_cases advanced with
    ⟨single, rfl⟩ | ⟨topology, several, checked, attached, rfl⟩
  · exact { grounded with
      bare := fun early => by cases early
      several := fun _ several => absurd several single
      priced := fun _ present =>
        absurd (present.symm.trans (grounded.single single)) (by simp) }
  · obtain ⟨lines, cost⟩ := cost_of_checkTopology checked
    obtain ⟨injections, flows⟩ := grounded.several generated several
    rw [lines_of_topology attached] at flows
    have sizes := injections
    rw [nodes_of_topology attached] at sizes
    exact { grounded with
      bare := fun early => by cases early
      several := fun _ => grounded.several generated
      priced := fun _ _ other same => by
        cases same.symm.trans attached
        exact cost
      rows := grounded.rowsOf attached sizes (flows lines) }

omit [Scalar K] in
theorem Grounded.withObjective (grounded : network.Grounded)
    (late : network.stage.hasConstraints = true) : network.withObjective.Grounded := by
  refine { grounded with
    bare := fun early => by cases early
    several := fun _ => grounded.several (Stage.hasVariables_of_late late)
    priced := fun _ => grounded.priced late
    costs := fun objective member term inside => ?_ }
  cases member
  change term ∈ network.costFunction.terms at inside
  unfold costFunction at inside
  dsimp only at inside
  split at inside
  · cases inside
  · rename_i topology attached
    split at inside
    · cases inside
    · rename_i present
      obtain ⟨interval, interval_lt, inside⟩ := List.mem_flatMap.mp inside
      obtain ⟨line, line_lt, rfl⟩ := List.mem_mapIdx.mp inside
      have cost := grounded.priced late (by simpa using present) topology attached
      refine (grounded.auxiliary.resolve_left present).cell (List.mem_range.mp interval_lt) ?_
      rw [lines_of_topology attached]
      exact Nat.lt_of_lt_of_le line_lt cost

theorem refersTo_patchFlowLimits (lines : List Nat) {known : VarRef → Prop}
    (refers : network.rows.RefersTo known) :
    (network.patchFlowLimits lines).rows.RefersTo known := by
  unfold patchFlowLimits
  split
  · exact refers
  · rename_i topology attached
    refine { refers with flowLimits := ?_ }
    refine List.foldlRecOn (motive := fun limits : FlowLimits K => limits.RefersTo known) _ _
      refers.flowLimits fun limits held interval _ => ?_
    exact List.foldlRecOn (motive := fun limits : FlowLimits K => limits.RefersTo known) _ _ held
      fun limits held line _ => held.setBounds interval line _ _

theorem refersTo_patchInterval (topology : Topology K) (interval : Nat) {rows : NetworkRows K}
    {known : VarRef → Prop} (refers : rows.RefersTo known) :
    (network.patchInterval topology rows interval).RefersTo known := by
  refine { refers with flowLimits := ?_, flowDefinition := ?_, systemBalance := ?_ }
  · exact List.foldlRecOn (motive := fun limits : FlowLimits K => limits.RefersTo known) _ _
      refers.flowLimits fun limits held line _ => held.setBounds interval line _ _
  · exact List.foldlRecOn (motive := fun family : Family (Row K) => family.RefersTo known) _ _
      refers.flowDefinition fun family held place _ => held.modify interval place.2 fun _ => rfl
  · exact refers.systemBalance.modify interval 0 fun _ => rfl

theorem refersTo_patchDemand (entries : List Nat) {known : VarRef → Prop}
    (refers : network.rows.RefersTo known) :
    (network.patchDemand entries).rows.RefersTo known := by
  unfold patchDemand
  split
  · exact refers
  · rename_i topology attached
    split
    · exact refers
    · refine { refers with injectionBalance := ?_ }
      exact List.foldlRecOn (motive := fun family : Family (Row K) => family.RefersTo known) _ _
        refers.injectionBalance fun family held entry _ => held.modify _ _ fun _ => rfl
    · exact List.foldlRecOn (motive := fun rows : NetworkRows K => rows.RefersTo known) _ _
        refers fun rows held interval _ => refersTo_patchInterval topology interval held

theorem refersTo_patchInjectionBounds (minimum maximum : List K) {known : VarRef → Prop}
    (refers : network.rows.RefersTo known) :
    (network.patchInjectionBounds minimum maximum).rows.RefersTo known := by
  refine { refers with injectionBounds := fun box member => ?_ }
  obtain ⟨entry, entry_lt, rfl⟩ := List.mem_mapIdx.mp member
  exact refers.injectionBounds network.rows.injectionBounds.items[entry]
    (List.getElem_mem entry_lt)

/-! What is done to a network never takes variables away. -/

/-- A generated network keeps its sizes. -/
structure Follows (before after : Network K) : Prop where
  grounded : before.Grounded → after.Grounded
  id : after.id = before.id
  store : Store.Extends before.store after.store
  intervals : after.intervals = before.intervals
  nodes : after.nodes = before.nodes

omit [Scalar K] in
theorem Follows.refl (network : Network K) : Follows network network :=
  ⟨fun grounded => grounded, rfl, .refl _, rfl, rfl⟩

omit [Scalar K] in
theorem Follows.trans {first second third : Network K} (early : Follows first second)
    (late : Follows second third) : Follows first third :=
  ⟨fun grounded => late.grounded (early.grounded grounded), late.id.trans early.id,
    early.store.trans late.store, late.intervals.trans early.intervals,
    late.nodes.trans early.nodes⟩

omit [Scalar K] in
theorem Follows.step {target : Stage} {advance : Network K → Except Error (Network K)}
    (advances : network.stage.enter target = .ok .run → ∀ result,
      advance network = .ok result → Follows network result) :
    Follows network (Network.step target advance network).state :=
  step_preserves (.refl network) advances

theorem Follows.generateVariables (network : Network K) :
    Follows network (Network.generateVariables network).state :=
  Follows.step fun _ result advanced => by
    cases advanced
    exact ⟨fun grounded => grounded.withVariables, rfl, network.withVariables_grows.1, rfl, rfl⟩

theorem Follows.generateConstraints (network : Network K) :
    Follows network (Network.generateConstraints network).state :=
  Follows.step fun entered result advanced => by
    have generated : network.stage.hasVariables = true := by
      rw [Stage.enter_constraints entered]
      rfl
    have kept (grounded : network.Grounded) : result.Grounded :=
      grounded.withConstraints generated advanced
    rcases withConstraints_cases advanced with ⟨-, rfl⟩ | ⟨topology, -, -, -, rfl⟩
    · exact ⟨kept, rfl, .refl _, rfl, rfl⟩
    · exact ⟨kept, rfl, .refl _, rfl, rfl⟩

omit [Scalar K] in
theorem Follows.generateObjective (network : Network K) :
    Follows network (Network.generateObjective network).state :=
  Follows.step fun entered result advanced => by
    cases advanced
    have late : network.stage.hasConstraints = true := by
      rw [Stage.enter_objective entered]
      rfl
    exact ⟨fun grounded => grounded.withObjective late, rfl, .refl _, rfl, rfl⟩

theorem Follows.setKappa (address : Address) (values : List K) (physical abstract : Mode)
    (network : Network K) :
    Follows network (Network.setKappa address values physical abstract network).state := by
  rcases setKappa_state address values physical abstract network with still | ⟨selection, moved⟩
  · rw [still]
    exact .refl network
  · have refers (grounded : network.Grounded) :
        (network.withKappa selection values abstract).rows.RefersTo network.store.Has := by
      unfold Network.withKappa
      dsimp only
      split
      · exact refersTo_patchFlowLimits _ grounded.rows
      · exact grounded.rows
    rw [moved, withKappa_rest]
    exact ⟨fun grounded => { grounded with rows := refers grounded }, rfl, .refl _, rfl, rfl⟩

theorem Follows.setDemand (address : Address) (values : List K) (physical abstract : Mode)
    (network : Network K) :
    Follows network (Network.setDemand address values physical abstract network).state := by
  rcases setDemand_state address values physical abstract network with still | ⟨selection, moved⟩
  · rw [still]
    exact .refl network
  · have refers (grounded : network.Grounded) :
        (network.withDemand selection values abstract).rows.RefersTo network.store.Has := by
      unfold Network.withDemand
      dsimp only
      split
      · exact refersTo_patchDemand _ grounded.rows
      · exact grounded.rows
    rw [moved, withDemand_rest]
    exact ⟨fun grounded => { grounded with rows := refers grounded }, rfl, .refl _, rfl, rfl⟩

theorem Follows.setInjectionBounds (minimum maximum : List K) (physical abstract : Mode)
    (network : Network K) :
    Follows network
      (Network.setInjectionBounds minimum maximum physical abstract network).state := by
  rcases setInjectionBounds_state minimum maximum physical abstract network with still | moved
  · rw [still]
    exact .refl network
  · have refers (grounded : network.Grounded) :
        (network.withInjectionBounds minimum maximum abstract).rows.RefersTo
          network.store.Has := by
      unfold Network.withInjectionBounds
      dsimp only
      split
      · exact refersTo_patchInjectionBounds minimum maximum grounded.rows
      · exact grounded.rows
    rw [moved, withInjectionBounds_rest]
    exact ⟨fun grounded => { grounded with rows := refers grounded }, rfl, .refl _, rfl, rfl⟩

omit [Scalar K] in
theorem Follows.setConstantTerm (constant : K) (network : Network K) :
    Follows network (network.withConstant constant) := by
  refine ⟨fun grounded => { grounded with costs := fun objective member term inside => ?_ },
    rfl, .refl _, rfl, rfl⟩
  obtain ⟨before, generated, rfl⟩ := Option.map_eq_some_iff.mp member
  exact grounded.costs before generated term inside

theorem Follows.call (call : Call K) (network : Network K) :
    Follows network (call.perform network) := by
  cases call with
  | generateVariables => exact .generateVariables network
  | generateConstraints => exact .generateConstraints network
  | generateObjective => exact .generateObjective network
  | setKappa address values physical abstract =>
      exact .setKappa address values physical abstract network
  | setDemand address values physical abstract =>
      exact .setDemand address values physical abstract network
  | setInjectionBounds minimum maximum physical abstract =>
      exact .setInjectionBounds minimum maximum physical abstract network
  | setConstantTerm constant => exact .setConstantTerm constant network

theorem Grounded.setDescriptor (grounded : network.Grounded)
    (descriptor : Holding (Descriptor K)) :
    (Network.setDescriptor descriptor network).state.Grounded := by
  rcases setDescriptor_cases descriptor network with still | ⟨bare, attached⟩
  · rwa [still]
  · rw [attached]
    exact grounded.early bare rfl

omit [Scalar K] in
theorem Grounded.editDescriptor (grounded : network.Grounded) (edit : DcData.Edit K) :
    (Network.editDescriptor edit network).state.Grounded := by
  rcases editDescriptor_cases edit network with still | ⟨bare, _, _, -, -, edited⟩
  · rwa [still]
  · rw [edited]
    exact grounded.early bare rfl

omit [Scalar K] in
theorem Grounded.overwriteDescriptor (grounded : network.Grounded) (descriptor : Descriptor K) :
    (Network.overwriteDescriptor descriptor network).state.Grounded := by
  rcases overwriteDescriptor_cases descriptor network with still | ⟨bare, overwritten⟩
  · rwa [still]
  · rw [overwritten]
    exact grounded.early bare rfl

theorem Grounded.setIntervals (grounded : network.Grounded) (intervals : Nat) :
    (Network.setIntervals intervals network).state.Grounded := by
  rcases setIntervals_cases intervals network with still | ⟨bare, -, reset⟩
  · rwa [still]
  · rw [reset]
    exact grounded.early bare rfl

/-- Every state that a program can arrive at if it only ever changes the store by what a store
offers. -/
def Operated : Network Float → Prop :=
  Reached Made Operation.perform (Operation.Edits Store.Offers)

theorem grounded_ofGroup {group : Group} {result : Network Float} {before after : Nat}
    (created : Network.ofGroup group before = (.ok result, after)) : result.Grounded := by
  obtain ⟨start, taken, fresh, created⟩ := Creation.bind_eq_ok created
  obtain ⟨id, _, _, fresh⟩ := Creation.bind_eq_ok fresh
  cases Creation.pure_eq_ok fresh
  have filled := (Creation.require_eq_ok created).1
  unfold Network.filled at filled
  dsimp only at filled
  split at filled
  · cases filled
  · obtain ⟨given, _, filled⟩ := Except.bind_eq_ok.mp filled
    obtain ⟨descriptor, _, filled⟩ := Except.bind_eq_ok.mp filled
    obtain ⟨demand, _, filled⟩ := Except.bind_eq_ok.mp filled
    obtain ⟨levels, _, filled⟩ := Except.bind_eq_ok.mp filled
    obtain ⟨kappa, _, filled⟩ := Except.bind_eq_ok.mp filled
    obtain ⟨constantTerm, _, filled⟩ := Except.bind_eq_ok.mp filled
    cases filled
    refine (grounded_bus id).early rfl ?_
    cases descriptor <;> cases given <;> rfl

theorem Made.grounded {network : Network Float} (made : network.Made) : network.Grounded := by
  cases made with
  | new created =>
      cases created
      exact grounded_bus _
  | ofDescriptor created =>
      cases created
      exact (grounded_bus _).early rfl rfl
  | ofGroup created => exact grounded_ofGroup created

theorem Grounded.perform (grounded : network.Grounded) {operation : Operation K}
    (edits : operation.Edits Store.Offers) : (operation.perform network).Grounded := by
  cases operation with
  | setDescriptor descriptor => exact grounded.setDescriptor descriptor
  | editDescriptor edit => exact grounded.editDescriptor edit
  | overwriteDescriptor descriptor => exact grounded.overwriteDescriptor descriptor
  | setIntervals intervals => exact grounded.setIntervals intervals
  | withSettings settings => exact { grounded with }
  | withNotifier notifier => exact { grounded with }
  | editStore edit => exact grounded.stored (edits.extends network.store)
  | call step => exact (Follows.call step network).grounded grounded

theorem Operated.grounded {network : Network Float} (operated : network.Operated) :
    network.Grounded := by
  induction operated with
  | start made => exact made.grounded
  | step _ operation edits grounded => exact grounded.perform edits

end Network

end Dispatch
