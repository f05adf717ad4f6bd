import Dispatch.Network.Update
import Dispatch.Proofs.Network.Generation
import Dispatch.Proofs.Table

namespace Dispatch.Network

/-! Rows are functions of the data. Where every row whose data moved is patched, the
patched rows are those that the new data generate. -/

variable {K : Type}

/-- The same network with other demand and kappa. -/
def reloaded (network : Network K) (demand kappa : List K) : Network K :=
  { network with demand, kappa }

def withRows (network : Network K) (rows : NetworkRows K) : Network K :=
  { network with rows }

theorem nodes_of_topology {network : Network K} {topology : Topology K}
    (attached : network.topology? = some topology) : network.nodes = topology.nodes := by
  simp [nodes, attached]

/-- Every pair of an interval and a line. -/
def places (intervals lines : List Nat) : List (Nat × Nat) :=
  intervals.flatMap fun interval => lines.map fun line => (interval, line)

theorem mem_places {intervals lines : List Nat} {interval line : Nat} :
    (interval, line) ∈ places intervals lines ↔ interval ∈ intervals ∧ line ∈ lines := by
  simp [places]

theorem foldl_places {S : Type} (change : S → Nat → Nat → S) (intervals lines : List Nat)
    (start : S) :
    intervals.foldl
        (fun state interval => lines.foldl (fun state line => change state interval line) state)
        start =
      (places intervals lines).foldl (fun state place => change state place.1 place.2)
        start := by
  rw [places, List.foldl_flatMap]
  simp only [List.foldl_map]

@[simp] theorem kind_setBounds (limits : FlowLimits K) (interval line : Nat) (lhs rhs : K) :
    (limits.setBounds interval line lhs rhs).kind = limits.kind := by
  cases limits <;> rfl

/-- What no step changes, a run does not change. -/
theorem foldl_kept {α S V : Type} (view : S → V) {next : S → α → S}
    (kept : ∀ state item, view (next state item) = view state) (items : List α) (start : S) :
    view (items.foldl next start) = view start := by
  induction items generalizing start with
  | nil => rfl
  | cons item rest induction => rw [List.foldl_cons, induction, kept]

/-- No patch changes the kind that the ranges are computed for. -/
theorem foldl_setBounds_kind (range : LineKind → Nat → Nat → K × K)
    (targets : List (Nat × Nat)) (limits : FlowLimits K) {kind : LineKind}
    (classified : limits.kind = kind) :
    targets.foldl
        (fun limits place => limits.setBounds place.1 place.2
          (range limits.kind place.1 place.2).1 (range limits.kind place.1 place.2).2)
        limits =
      targets.foldl
        (fun limits place => limits.setBounds place.1 place.2
          (range kind place.1 place.2).1 (range kind place.1 place.2).2)
        limits := by
  induction targets generalizing limits with
  | nil => rfl
  | cons place rest induction =>
      rw [List.foldl_cons, List.foldl_cons, classified]
      exact induction _ (by rw [kind_setBounds, classified])

variable [Scalar K]

theorem demandAt_eq (network : Network K) (interval node : Nat) :
    network.demandAt interval node =
      network.demand.getD (interval * network.nodes + node) 0 := by
  unfold demandAt
  split
  · rename_i absent
    have empty : network.demand = [] := by simpa using absent
    simp [empty]
  · rfl

/-! Flow limits: terms that never move, and one range for each interval and line. -/

def limitTerms (network : Network K) (topology : Topology K) (interval line : Nat) :
    List (VarRef × K) :=
  if topology.isHvdc line then [(network.flow interval line, 1)]
  else network.distribution topology interval line

def limitsWith (network : Network K) (topology : Topology K) (range : Nat → Nat → K × K) :
    FlowLimits K :=
  let row (interval line : Nat) : Row K :=
    ⟨.ofTerms (network.limitTerms topology interval line), (range interval line).1,
      (range interval line).2⟩
  match topology.lineKind with
  | .none => .none
  | .hvdc => .hvdc (.tabulate hvdcName network.intervals topology.lines fun interval line =>
      ⟨network.flow interval line, (range interval line).1, (range interval line).2⟩)
  | .ac => .ac (.tabulate acName network.intervals topology.lines row)
  | .hybrid => .hybrid (.tabulate hybridName network.intervals topology.lines row)

theorem limitRow_eq (network : Network K) (topology : Topology K) (kind : LineKind)
    (interval line : Nat) :
    network.limitRow topology kind interval line =
      ⟨.ofTerms (network.limitTerms topology interval line),
        (network.flowRange topology kind interval line).1,
        (network.flowRange topology kind interval line).2⟩ := by
  unfold limitRow limitTerms
  split <;> rfl

theorem flowLimitsOf_eq (network : Network K) (topology : Topology K) :
    network.flowLimitsOf topology =
      network.limitsWith topology (network.flowRange topology topology.lineKind) := by
  unfold flowLimitsOf limitsWith limitRows
  cases topology.lineKind with
  | none => rfl
  | hvdc => rfl
  | ac =>
      exact congrArg FlowLimits.ac
        (Family.tabulate_congr fun interval _ line _ => limitRow_eq ..)
  | hybrid =>
      exact congrArg FlowLimits.hybrid
        (Family.tabulate_congr fun interval _ line _ => limitRow_eq ..)

@[simp] theorem kind_flowLimitsOf (network : Network K) (topology : Topology K) :
    (network.flowLimitsOf topology).kind = topology.lineKind := by
  unfold flowLimitsOf
  cases topology.lineKind <;> rfl

theorem limitsWith_congr (network : Network K) (topology : Topology K)
    {first second : Nat → Nat → K × K}
    (agree : ∀ interval < network.intervals, ∀ line < topology.lines,
      first interval line = second interval line) :
    network.limitsWith topology first = network.limitsWith topology second := by
  unfold limitsWith
  cases topology.lineKind with
  | none => rfl
  | hvdc =>
      refine congrArg FlowLimits.hvdc (Family.tabulate_congr ?_)
      intro interval interval_lt line line_lt
      rw [agree interval interval_lt line line_lt]
  | ac =>
      refine congrArg FlowLimits.ac (Family.tabulate_congr ?_)
      intro interval interval_lt line line_lt
      rw [agree interval interval_lt line line_lt]
  | hybrid =>
      refine congrArg FlowLimits.hybrid (Family.tabulate_congr ?_)
      intro interval interval_lt line line_lt
      rw [agree interval interval_lt line line_lt]

theorem setBounds_limitsWith (network : Network K) (topology : Topology K)
    (range : Nat → Nat → K × K) (interval line : Nat) (bounds : K × K) :
    (network.limitsWith topology range).setBounds interval line bounds.1 bounds.2 =
      network.limitsWith topology fun i l =>
        if (i, l) = (interval, line) then bounds else range i l := by
  unfold limitsWith FlowLimits.setBounds
  cases topology.lineKind with
  | none => rfl
  | hvdc =>
      refine congrArg FlowLimits.hvdc ((Family.modify_tabulate ..).trans ?_)
      refine Family.tabulate_congr fun i _ l _ => ?_
      by_cases here : (i, l) = (interval, line)
      · simp only [if_pos here, Box.setBounds]
      · simp only [if_neg here]
  | ac =>
      refine congrArg FlowLimits.ac ((Family.modify_tabulate ..).trans ?_)
      refine Family.tabulate_congr fun i _ l _ => ?_
      by_cases here : (i, l) = (interval, line)
      · simp only [if_pos here, Row.setBounds]
      · simp only [if_neg here]
  | hybrid =>
      refine congrArg FlowLimits.hybrid ((Family.modify_tabulate ..).trans ?_)
      refine Family.tabulate_congr fun i _ l _ => ?_
      by_cases here : (i, l) = (interval, line)
      · simp only [if_pos here, Row.setBounds]
      · simp only [if_neg here]

/-- Patching a list of places moves the ranges there and no other. -/
theorem foldl_setBounds_limitsWith (network : Network K) (topology : Topology K)
    (range moved : Nat → Nat → K × K) (targets : List (Nat × Nat)) :
    targets.foldl
        (fun limits place => limits.setBounds place.1 place.2 (moved place.1 place.2).1
          (moved place.1 place.2).2)
        (network.limitsWith topology range) =
      network.limitsWith topology fun interval line =>
        if (interval, line) ∈ targets then moved interval line else range interval line := by
  induction targets generalizing range with
  | nil => simp
  | cons place rest induction =>
      rw [List.foldl_cons, setBounds_limitsWith, induction]
      apply limitsWith_congr
      intro interval _ line _
      by_cases here : (interval, line) = place
      · simp [← here]
      · simp [here]

/-- Patching every limit whose range moved gives the limits of the new data. -/
theorem flowLimitsOf_patched (network : Network K) (topology : Topology K)
    (demand kappa : List K) (targets : List (Nat × Nat))
    (elsewhere : ∀ interval < network.intervals, ∀ line < topology.lines,
      (interval, line) ∉ targets →
      (network.reloaded demand kappa).flowRange topology topology.lineKind interval line =
        network.flowRange topology topology.lineKind interval line) :
    targets.foldl
        (fun limits place =>
          let range := (network.reloaded demand kappa).flowRange topology topology.lineKind
            place.1 place.2
          limits.setBounds place.1 place.2 range.1 range.2)
        (network.flowLimitsOf topology) =
      (network.reloaded demand kappa).flowLimitsOf topology := by
  rw [flowLimitsOf_eq, flowLimitsOf_eq]
  refine (foldl_setBounds_limitsWith network topology _ _ targets).trans ?_
  refine limitsWith_congr network topology fun interval interval_lt line line_lt => ?_
  by_cases member : (interval, line) ∈ targets
  · rw [if_pos member]
  · rw [if_neg member, elsewhere interval interval_lt line line_lt member]

theorem definitions_eq (network : Network K) (topology : Topology K) :
    network.definitions topology =
      .tabulate NetworkRows.definitionName network.intervals topology.acLines.length
        fun interval position =>
          network.definitionRow topology interval (topology.acLines.getD position 0) := by
  unfold definitions Family.tabulate Family.table
  congr 1
  refine List.flatMap_congr fun interval _ => ?_
  apply List.ext_getElem
  · simp
  · intro position within _
    have position_lt : position < topology.acLines.length := by simpa using within
    simp [position_lt]

/-- Patching the definitions of whole intervals moves their levels and no other. -/
theorem definitions_patched (network : Network K) (topology : Topology K) (demand : List K)
    (intervals : List Nat)
    (elsewhere : ∀ interval < network.intervals, interval ∉ intervals → ∀ line,
      (network.reloaded demand network.kappa).demandFlow topology interval line =
        network.demandFlow topology interval line) :
    intervals.foldl
        (fun definitions interval => topology.acLines.zipIdx.foldl
          (fun definitions place => definitions.modify interval place.2
            (Row.setBoth (-(network.reloaded demand network.kappa).demandFlow topology
              interval place.1)))
          definitions)
        (network.definitions topology) =
      (network.reloaded demand network.kappa).definitions topology := by
  let level (interval position : Nat) : K :=
    -(network.reloaded demand network.kappa).demandFlow topology interval
      (topology.acLines.getD position 0)
  have byPosition (definitions : Family (Row K)) (interval : Nat) :
      topology.acLines.zipIdx.foldl
          (fun definitions place => definitions.modify interval place.2
            (Row.setBoth (-(network.reloaded demand network.kappa).demandFlow topology
              interval place.1)))
          definitions =
        (List.range topology.acLines.length).foldl
          (fun definitions position =>
            definitions.modify interval position (Row.setBoth (level interval position)))
          definitions := by
    have indices : List.range topology.acLines.length =
        topology.acLines.zipIdx.map Prod.snd := by
      simp [List.zipIdx_map_snd, List.range_eq_range']
    rw [indices, List.foldl_map]
    refine List.foldl_ext _ _ _ fun definitions place member => ?_
    obtain ⟨line, position⟩ := place
    have line_at := List.mem_zipIdx_iff_getElem?.mp member
    simp only [level, List.getD_eq_getElem?_getD, line_at, Option.getD_some]
  simp only [byPosition]
  rw [foldl_places fun definitions interval position =>
      Family.modify definitions interval position (Row.setBoth (level interval position)),
    definitions_eq, definitions_eq]
  refine (Family.foldl_modify_tabulate _ _ _
    (fun interval position => Row.setBoth (level interval position))
    (fun _ _ _ => rfl) _ (fun place => place) _).trans ?_
  refine Family.tabulate_congr fun interval interval_lt position position_lt => ?_
  rw [List.map_id']
  by_cases member : (interval, position) ∈ places intervals (List.range topology.acLines.length)
  · rw [if_pos member]
    rfl
  · rw [if_neg member]
    have untouched : interval ∉ intervals := fun touched =>
      member (mem_places.mpr ⟨touched, List.mem_range.mpr position_lt⟩)
    unfold definitionRow
    rw [elsewhere interval interval_lt untouched]
    rfl

theorem systemBalance_patched (network : Network K) (topology : Topology K)
    (demand : List K) (intervals : List Nat)
    (elsewhere : ∀ interval < network.intervals, interval ∉ intervals →
      (network.reloaded demand network.kappa).totalDemand interval =
        network.totalDemand interval) :
    intervals.foldl
        (fun balance interval => Family.modify balance interval 0
          (Row.setBoth ((network.reloaded demand network.kappa).totalDemand interval)))
        (Family.tabulate NetworkRows.systemName network.intervals 1 fun interval _ =>
          network.systemRow topology interval) =
      Family.tabulate NetworkRows.systemName network.intervals 1 fun interval _ =>
        (network.reloaded demand network.kappa).systemRow topology interval := by
  refine (Family.foldl_modify_tabulate _ _ _
    (fun interval _ => Row.setBoth
      ((network.reloaded demand network.kappa).totalDemand interval))
    (fun _ _ _ => rfl) intervals (fun interval => (interval, 0)) _).trans ?_
  refine Family.tabulate_congr fun interval interval_lt column column_lt => ?_
  have only : column = 0 := by omega
  subst only
  by_cases member : interval ∈ intervals
  · rw [if_pos (List.mem_map_of_mem member)]
    rfl
  · rw [if_neg (by simpa using member)]
    unfold systemRow
    rw [elsewhere interval interval_lt member]
    rfl

/-- The patches of several intervals, family by family. -/
theorem foldl_patchInterval (network : Network K) (topology : Topology K)
    (intervals : List Nat) (rows : NetworkRows K) :
    intervals.foldl (network.patchInterval topology) rows =
      { rows with
        flowLimits := intervals.foldl
          (fun limits interval => rows.acLines.foldl
            (fun limits line =>
              let range := network.flowRange topology rows.flowLimits.kind interval line
              limits.setBounds interval line range.1 range.2)
            limits)
          rows.flowLimits
        flowDefinition := intervals.foldl
          (fun definitions interval => rows.acLines.zipIdx.foldl
            (fun definitions place => definitions.modify interval place.2
              (Row.setBoth (-network.demandFlow topology interval place.1)))
            definitions)
          rows.flowDefinition
        systemBalance := intervals.foldl
          (fun balance interval =>
            balance.modify interval 0 (Row.setBoth (network.totalDemand interval)))
          rows.systemBalance } := by
  induction intervals generalizing rows with
  | nil => rfl
  | cons interval rest induction =>
      rw [List.foldl_cons, induction]
      have kept : (network.patchInterval topology rows interval).flowLimits.kind =
          rows.flowLimits.kind :=
        foldl_kept FlowLimits.kind (fun _ _ => kind_setBounds _ _ _ _ _) rows.acLines
          rows.flowLimits
      rw [kept]
      rfl

theorem mem_touchedIntervals {nodes interval : Nat} {entries : List Nat} :
    interval ∈ touchedIntervals nodes entries ↔ ∃ entry ∈ entries, entry / nodes = interval := by
  simp [touchedIntervals]

theorem balance_patched (network : Network K) (topology : Topology K) (demand : List K)
    (entries : List Nat) (nodes : network.nodes = topology.nodes)
    (elsewhere : ∀ entry ∉ entries, demand.getD entry 0 = network.demand.getD entry 0) :
    entries.foldl
        (fun balance entry => Family.modify balance (entry / topology.nodes)
          (entry % topology.nodes) (Row.setBoth (-demand.getD entry 0)))
        (Family.tabulate NetworkRows.balanceName network.intervals topology.nodes
          (network.balanceRow topology)) =
      Family.tabulate NetworkRows.balanceName network.intervals topology.nodes
        ((network.reloaded demand network.kappa).balanceRow topology) := by
  let level (interval node : Nat) : K := -demand.getD (interval * topology.nodes + node) 0
  have byPlace (balance : Family (Row K)) (entry : Nat) :
      Family.modify balance (entry / topology.nodes) (entry % topology.nodes)
          (Row.setBoth (-demand.getD entry 0)) =
        Family.modify balance (entry / topology.nodes) (entry % topology.nodes)
          (Row.setBoth (level (entry / topology.nodes) (entry % topology.nodes))) := by
    simp only [level, Nat.div_add_mod']
  simp only [byPlace]
  refine (Family.foldl_modify_tabulate _ _ _
    (fun interval node => Row.setBoth (level interval node)) (fun _ _ _ => rfl) entries
    (fun entry => (entry / topology.nodes, entry % topology.nodes)) _).trans ?_
  refine Family.tabulate_congr fun interval _ node node_lt => ?_
  have now : (network.reloaded demand network.kappa).demandAt interval node =
      demand.getD (interval * topology.nodes + node) 0 := by
    rw [demandAt_eq, ← nodes]
    rfl
  unfold balanceRow
  rw [now, demandAt_eq, nodes]
  split
  · rfl
  · rename_i outside
    have untouched : interval * topology.nodes + node ∉ entries := fun member =>
      outside (List.mem_map.mpr ⟨_, member, by
        rw [Family.index_div interval node_lt, Family.index_mod interval node_lt]⟩)
    rw [elsewhere _ untouched]
    rfl

variable {network : Network K} {topology : Topology K}

theorem patchFlowLimits_eq (attached : network.topology? = some topology)
    (classified : network.rows.flowLimits.kind = topology.lineKind) (lines : List Nat) :
    network.patchFlowLimits lines =
      network.withRows { network.rows with
        flowLimits := (places (List.range network.intervals) lines).foldl
          (fun limits place =>
            let range := network.flowRange topology topology.lineKind place.1 place.2
            limits.setBounds place.1 place.2 range.1 range.2)
          network.rows.flowLimits } := by
  unfold patchFlowLimits
  rw [attached]
  simp only [foldl_places fun (limits : FlowLimits K) interval line =>
    limits.setBounds interval line
      (network.flowRange topology limits.kind interval line).1
      (network.flowRange topology limits.kind interval line).2]
  rw [foldl_setBounds_kind (network.flowRange topology) _ _ classified]
  rfl

/-- New kappa: the limits of the lines named follow in every interval. -/
theorem patchFlowLimits_rowsOf (attached : network.topology? = some topology)
    (generated : network.rows = network.rowsOf topology) {kappa : List K} {lines : List Nat}
    (elsewhere : ∀ line ∉ lines, kappa.getD line 1 = network.kappa.getD line 1) :
    (network.reloaded network.demand kappa).patchFlowLimits lines =
      (network.reloaded network.demand kappa).withRows
        ((network.reloaded network.demand kappa).rowsOf topology) := by
  have patched := flowLimitsOf_patched network topology network.demand kappa
    (places (List.range network.intervals) lines) (by
      intro interval interval_lt line line_lt outside
      have untouched : line ∉ lines := fun member =>
        outside (mem_places.mpr ⟨List.mem_range.mpr interval_lt, member⟩)
      have same : (network.reloaded network.demand kappa).kappaAt line =
          network.kappaAt line := elsewhere line untouched
      unfold flowRange
      rw [same]
      rfl)
  have rows : (network.reloaded network.demand kappa).rows = network.rowsOf topology :=
    generated
  have attached' : (network.reloaded network.demand kappa).topology? = some topology :=
    attached
  rw [patchFlowLimits_eq attached' (by rw [rows]; exact kind_flowLimitsOf network topology),
    rows]
  exact congrArg
    (fun limits => (network.reloaded network.demand kappa).withRows
      { network.rowsOf topology with flowLimits := limits }) patched

/-- The demand of an interval reads as before when none of its entries moved. -/
theorem demandAt_reloaded {demand kappa : List K} {entries : List Nat}
    (elsewhere : ∀ entry ∉ entries, demand.getD entry 0 = network.demand.getD entry 0)
    {interval node : Nat} (untouched : interval ∉ touchedIntervals network.nodes entries)
    (node_lt : node < network.nodes) :
    (network.reloaded demand kappa).demandAt interval node =
      network.demandAt interval node := by
  rw [demandAt_eq, demandAt_eq]
  apply elsewhere
  intro member
  exact untouched (mem_touchedIntervals.mpr ⟨_, member, Family.index_div interval node_lt⟩)

theorem demandFlow_reloaded (nodes : network.nodes = topology.nodes) {demand kappa : List K}
    {entries : List Nat}
    (elsewhere : ∀ entry ∉ entries, demand.getD entry 0 = network.demand.getD entry 0)
    {interval : Nat} (untouched : interval ∉ touchedIntervals topology.nodes entries)
    (line : Nat) :
    (network.reloaded demand kappa).demandFlow topology interval line =
      network.demandFlow topology interval line := by
  rw [← nodes] at untouched
  have same : (network.reloaded demand kappa).demandRow topology interval =
      network.demandRow topology interval := by
    unfold demandRow
    rw [← nodes]
    exact List.map_congr_left fun node member =>
      demandAt_reloaded elsewhere untouched (List.mem_range.mp member)
  unfold demandFlow
  rw [same]

theorem totalDemand_reloaded (nodes : network.nodes = topology.nodes) {demand kappa : List K}
    {entries : List Nat}
    (elsewhere : ∀ entry ∉ entries, demand.getD entry 0 = network.demand.getD entry 0)
    {interval : Nat} (untouched : interval ∉ touchedIntervals topology.nodes entries) :
    (network.reloaded demand kappa).totalDemand interval = network.totalDemand interval := by
  rw [← nodes] at untouched
  exact congrArg Scalar.sum (List.map_congr_left fun node member =>
    demandAt_reloaded elsewhere untouched (List.mem_range.mp member))

/-- Without lines no row depends on demand. -/
private theorem rowsOf_reloaded_none (kind : topology.lineKind = .none) (demand : List K) :
    (network.reloaded demand network.kappa).rowsOf topology = network.rowsOf topology := by
  simp only [rowsOf, flowLimitsOf, injectionBalanceOf, flowDefinitionOf, systemBalanceOf,
    hasAcLines, kind]
  rfl

private theorem rowsOf_reloaded_hvdc (kind : topology.lineKind = .hvdc) (demand : List K) :
    (network.reloaded demand network.kappa).rowsOf topology =
      { flowLimits := network.flowLimitsOf topology
        injectionBalance := .tabulate NetworkRows.balanceName network.intervals topology.nodes
          ((network.reloaded demand network.kappa).balanceRow topology)
        flowDefinition := (network.rowsOf topology).flowDefinition
        systemBalance := (network.rowsOf topology).systemBalance
        relaxedFlows := network.relaxedFlowsOf topology
        injectionBounds := network.injectionBoundsOf topology
        acLines := (network.rowsOf topology).acLines } := by
  simp only [rowsOf, flowLimitsOf, injectionBalanceOf, flowDefinitionOf, systemBalanceOf,
    hasAcLines, kind]
  rfl

private theorem rowsOf_reloaded_ac (ac : hasAcLines topology = true) (demand : List K) :
    (network.reloaded demand network.kappa).rowsOf topology =
      { flowLimits := (network.reloaded demand network.kappa).flowLimitsOf topology
        injectionBalance := (network.rowsOf topology).injectionBalance
        flowDefinition := (network.reloaded demand network.kappa).definitions topology
        systemBalance := Family.tabulate NetworkRows.systemName network.intervals 1
          fun interval _ => (network.reloaded demand network.kappa).systemRow topology interval
        relaxedFlows := network.relaxedFlowsOf topology
        injectionBounds := network.injectionBoundsOf topology
        acLines := (network.rowsOf topology).acLines } := by
  have kinds : topology.lineKind = .ac ∨ topology.lineKind = .hybrid := by
    simpa [hasAcLines] using ac
  cases kinds with
  | inl kind =>
      simp only [rowsOf, injectionBalanceOf, flowDefinitionOf, systemBalanceOf, hasAcLines, kind]
      rfl
  | inr kind =>
      simp only [rowsOf, injectionBalanceOf, flowDefinitionOf, systemBalanceOf, hasAcLines, kind]
      rfl

private theorem patchDemand_ac (attached : network.topology? = some topology)
    (ac : hasAcLines topology = true) {demand : List K} {entries : List Nat}
    (elsewhere : ∀ entry ∉ entries, demand.getD entry 0 = network.demand.getD entry 0) :
    (touchedIntervals topology.nodes entries).foldl
        ((network.reloaded demand network.kappa).patchInterval topology)
        (network.rowsOf topology) =
      (network.reloaded demand network.kappa).rowsOf topology := by
  have nodes := nodes_of_topology attached
  have acLines : (network.rowsOf topology).acLines = topology.acLines := if_pos ac
  have definitions : (network.rowsOf topology).flowDefinition =
      network.definitions topology := if_pos ac
  have system : (network.rowsOf topology).systemBalance =
      Family.tabulate NetworkRows.systemName network.intervals 1 fun interval _ =>
        network.systemRow topology interval := if_pos ac
  have limits : (network.rowsOf topology).flowLimits = network.flowLimitsOf topology := rfl
  have limitsPatched := flowLimitsOf_patched network topology demand network.kappa
    (places (touchedIntervals topology.nodes entries) topology.acLines) (by
      intro interval _ line line_lt outside
      unfold flowRange
      by_cases direct : topology.isHvdc line = true
      · simp only [direct, Bool.or_true, if_true]
        rfl
      · have listed : line ∈ topology.acLines := by
          simp [Topology.acLines, line_lt, direct]
        have untouched : interval ∉ touchedIntervals topology.nodes entries := fun touched =>
          outside (mem_places.mpr ⟨touched, listed⟩)
        rw [demandFlow_reloaded nodes elsewhere untouched]
        rfl)
  have definitionsPatched := definitions_patched network topology demand
    (touchedIntervals topology.nodes entries) fun interval _ untouched =>
      demandFlow_reloaded nodes elsewhere untouched
  have systemPatched := systemBalance_patched network topology demand
    (touchedIntervals topology.nodes entries) fun interval _ untouched =>
      totalDemand_reloaded nodes elsewhere untouched
  rw [foldl_patchInterval, rowsOf_reloaded_ac ac, acLines, definitions, system, limits,
    kind_flowLimitsOf, definitionsPatched, systemPatched,
    foldl_places fun (limits : FlowLimits K) interval line =>
      let range := (network.reloaded demand network.kappa).flowRange topology
        topology.lineKind interval line
      limits.setBounds interval line range.1 range.2,
    limitsPatched]
  rfl

/-- New demand: the rows of the entries or of the intervals it touches follow. -/
theorem patchDemand_rowsOf (attached : network.topology? = some topology)
    (generated : network.rows = network.rowsOf topology) {demand : List K}
    {entries : List Nat}
    (elsewhere : ∀ entry ∉ entries, demand.getD entry 0 = network.demand.getD entry 0) :
    (network.reloaded demand network.kappa).patchDemand entries =
      (network.reloaded demand network.kappa).withRows
        ((network.reloaded demand network.kappa).rowsOf topology) := by
  have attached' : (network.reloaded demand network.kappa).topology? = some topology :=
    attached
  have rows : (network.reloaded demand network.kappa).rows = network.rowsOf topology :=
    generated
  have limits : (network.rowsOf topology).flowLimits = network.flowLimitsOf topology := rfl
  unfold patchDemand
  rw [attached', rows]
  simp only [limits, kind_flowLimitsOf]
  cases kind : topology.lineKind with
  | none =>
      rw [rowsOf_reloaded_none kind, ← generated]
      rfl
  | hvdc =>
      have balance : (network.rowsOf topology).injectionBalance =
          .tabulate NetworkRows.balanceName network.intervals topology.nodes
            (network.balanceRow topology) := by
        simp only [rowsOf, injectionBalanceOf, kind]
      rw [rowsOf_reloaded_hvdc kind,
        ← balance_patched network topology demand entries (nodes_of_topology attached) elsewhere,
        ← balance]
      simp only [patchBalances, rows]
      rfl
  | ac =>
      have ac : hasAcLines topology = true := by simp [hasAcLines, kind]
      exact congrArg (network.reloaded demand network.kappa).withRows
        (patchDemand_ac attached ac elsewhere)
  | hybrid =>
      have ac : hasAcLines topology = true := by simp [hasAcLines, kind]
      exact congrArg (network.reloaded demand network.kappa).withRows
        (patchDemand_ac attached ac elsewhere)

/-- New injection bounds: every box follows. -/
theorem patchInjectionBounds_rowsOf (generated : network.rows = network.rowsOf topology)
    (minInjection maxInjection : List K) :
    ({ network with minInjection, maxInjection } : Network K).patchInjectionBounds
        minInjection maxInjection =
      ({ network with minInjection, maxInjection } : Network K).withRows
        (({ network with minInjection, maxInjection } : Network K).rowsOf topology) := by
  have boxes : (network.rowsOf topology).injectionBounds =
      .tabulate NetworkRows.boundsName network.intervals topology.nodes
        (network.boundsBox topology.nodes) := rfl
  simp only [patchInjectionBounds, generated, boxes, Family.tabulate, Family.mapIdx_table]
  rfl

end Dispatch.Network
