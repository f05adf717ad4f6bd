import Dispatch.Proofs.Attempt.Network
import Dispatch.Proofs.Network.Update
import Dispatch.Proofs.Number.Weighing

namespace Dispatch.Network

/-! What enters a network leaves it. Over direct lines the nodes are balanced one by one, and
every flow that leaves one of them enters another; over other lines one row balances them all. -/

variable {K : Type} [Scalar K] {network : Network K} {topology : Topology K}

omit [Scalar K] in
theorem endpoint_lt_of_checkShape {answer : PUnit}
    (checked : topology.checkShape = (.ok answer : Except Error PUnit.{1})) :
    topology.start.length = topology.lines ∧ topology.finish.length = topology.lines ∧
      ∀ node ∈ topology.start ++ topology.finish, node < topology.nodes := by
  unfold Topology.checkShape at checked
  obtain ⟨_, start, checked⟩ := Except.bind_eq_ok.mp checked
  obtain ⟨_, finish, checked⟩ := Except.bind_eq_ok.mp checked
  obtain ⟨_, _, checked⟩ := Except.bind_eq_ok.mp checked
  obtain ⟨_, _, checked⟩ := Except.bind_eq_ok.mp checked
  obtain ⟨_, _, checked⟩ := Except.bind_eq_ok.mp checked
  obtain ⟨_, _, checked⟩ := Except.bind_eq_ok.mp checked
  refine ⟨checkLength_ok start, checkLength_ok finish, ?_⟩
  have nowhere : ((topology.start ++ topology.finish).find? fun node =>
      decide (topology.nodes ≤ node)) = none := by
    cases found : (topology.start ++ topology.finish).find? fun node =>
        decide (topology.nodes ≤ node) with
    | none => rfl
    | some node =>
        simp only [found] at checked
        split at checked
        · cases checked
        · obtain ⟨_, _, refused⟩ := Except.bind_eq_ok.mp checked
          cases refused
  intro node member
  simpa using List.find?_eq_none.mp nowhere node member

/-- The lines of a network with rows join nodes, and there are some. -/
structure Joined (topology : Topology K) : Prop where
  lines : topology.lines ≠ 0
  start : ∀ line < topology.lines, topology.startOf line < topology.nodes
  finish : ∀ line < topology.lines, topology.finishOf line < topology.nodes

theorem joined_of_checkTopology (checked : network.checkTopology = .ok topology) :
    Joined topology := by
  obtain ⟨lines, _, shape⟩ := checkShape_of_checkTopology checked
  obtain ⟨start, finish, nodes⟩ := endpoint_lt_of_checkShape shape
  refine ⟨lines, fun line line_lt => ?_, fun line line_lt => ?_⟩
  · rw [← start] at line_lt
    exact nodes _ (List.mem_append_left _
      (List.mem_of_getElem? (Lookup.getElem?_eq_getD line_lt 0)))
  · rw [← finish] at line_lt
    exact nodes _ (List.mem_append_right _
      (List.mem_of_getElem? (Lookup.getElem?_eq_getD line_lt 0)))

theorem Joined.lineKind (joined : Joined topology) : topology.lineKind ≠ .none := by
  unfold Topology.lineKind LineKind.classify
  rw [if_neg joined.lines]
  dsimp only
  split
  · decide
  · split <;> decide

section Balances

variable {network : Network Exact} {topology : Topology Exact} {values : VarRef → ℚ}
  {interval : Nat}

/-- What all nodes inject in an interval. -/
def injected (network : Network Exact) (values : VarRef → ℚ) (interval : Nat) : Exact :=
  ((List.range network.nodes).map fun node =>
    Exact.number (values (network.injection interval node))).sum

theorem totalDemand_eq_sum (network : Network Exact) (interval : Nat) :
    network.totalDemand interval =
      ((List.range network.nodes).map (network.demandAt interval)).sum :=
  Exact.scalarSum_eq _

theorem weigh_incidence (node line : Nat) :
    weigh values (network.incidence topology interval node line) =
      (if topology.startOf line = node then
        Exact.number (values (network.flow interval line)) else 0) +
      (if topology.finishOf line = node then
        Exact.number (-values (network.flow interval line)) else 0) := by
  rw [incidence, weigh_append, weigh_ite, weigh_ite]
  simp [Exact.one_def]

/-- What the lines take from the nodes where they start, they bring to those where they end. -/
theorem sum_incidence (joined : Joined topology) :
    ((List.range topology.nodes).map fun node => weigh values
      ((List.range topology.lines).flatMap
        (network.incidence topology interval node))).sum = 0 := by
  have ends (node : Nat) : weigh values ((List.range topology.lines).flatMap
      (network.incidence topology interval node)) =
        ((List.range topology.lines).map fun line => if topology.startOf line = node then
          Exact.number (values (network.flow interval line)) else 0).sum +
        ((List.range topology.lines).map fun line => if topology.finishOf line = node then
          Exact.number (-values (network.flow interval line)) else 0).sum := by
    rw [weigh_flatMap]
    simp only [weigh_incidence]
    rw [List.sum_map_add]
  have starts : ∀ line ∈ List.range topology.lines, topology.startOf line < topology.nodes :=
    fun line member => joined.start line (List.mem_range.mp member)
  have finishes : ∀ line ∈ List.range topology.lines, topology.finishOf line < topology.nodes :=
    fun line member => joined.finish line (List.mem_range.mp member)
  simp only [ends]
  rw [List.sum_map_add, sum_at_places starts, sum_at_places finishes, Exact.sum_map_number,
    Exact.sum_map_number, Exact.number_add_number, ← List.sum_map_add]
  simp [Exact.zero_def]

theorem weigh_balanceTerms (node : Nat) :
    weigh values (network.balanceTerms topology interval node) =
      -Exact.number (values (network.injection interval node)) +
        weigh values ((List.range topology.lines).flatMap
          (network.incidence topology interval node)) := by
  rw [balanceTerms, weigh_cons]
  simp [Exact.one_def]

/-- Added up, the balances of the nodes say nothing of the flows. -/
theorem injected_of_balances (joined : Joined topology)
    (nodes : network.nodes = topology.nodes)
    (met : ∀ node < topology.nodes, (network.balanceRow topology interval node).Met values) :
    network.injected values interval = network.totalDemand interval := by
  have level (node : Nat) (node_lt : node < topology.nodes) :
      -Exact.number (values (network.injection interval node)) +
        weigh values ((List.range topology.lines).flatMap
          (network.incidence topology interval node)) = -network.demandAt interval node := by
    rw [← weigh_balanceTerms]
    exact (met node node_lt).weigh_eq
  have levels := congrArg List.sum
    (List.map_congr_left fun node member => level node (List.mem_range.mp member))
  rw [List.sum_map_add, sum_incidence joined, add_zero, Exact.neg_sum_map,
    Exact.neg_sum_map] at levels
  rw [injected, totalDemand_eq_sum, nodes]
  exact neg_injective levels

theorem injected_of_system (nodes : network.nodes = topology.nodes)
    (met : (network.systemRow topology interval).Met values) :
    network.injected values interval = network.totalDemand interval := by
  rw [← met.weigh_eq, injected, nodes, weigh, List.map_map]
  refine congrArg List.sum (List.map_congr_left fun node _ => ?_)
  simp [Exact.one_def]

/-- Whatever its lines, a network injects what it demands. -/
theorem injected_eq_totalDemand (checked : network.checkTopology = .ok topology)
    (rows : network.rows = network.rowsOf topology) (interval_lt : interval < network.intervals)
    (balances : ∀ row ∈ network.rows.injectionBalance.items, row.Met values)
    (systems : ∀ row ∈ network.rows.systemBalance.items, row.Met values) :
    network.injected values interval = network.totalDemand interval := by
  have joined := joined_of_checkTopology checked
  have nodes := nodes_of_topology (checkTopology_ok checked)
  rw [rows] at balances systems
  have system (several : hasAcLines topology = true) :
      (network.systemRow topology interval).Met values := by
    refine systems _ ?_
    change _ ∈ (network.systemBalanceOf topology).items
    rw [systemBalanceOf, if_pos several]
    exact Family.mem_table.mpr ⟨interval, interval_lt, 0, Nat.zero_lt_one, rfl⟩
  cases kind : topology.lineKind with
  | none => exact absurd kind joined.lineKind
  | hvdc =>
      refine injected_of_balances joined nodes fun node node_lt => balances _ ?_
      change _ ∈ (network.injectionBalanceOf topology).items
      rw [injectionBalanceOf, kind]
      exact Family.mem_table.mpr ⟨interval, interval_lt, node, node_lt, rfl⟩
  | ac => exact injected_of_system nodes (system (by rw [hasAcLines, kind]; rfl))
  | hybrid => exact injected_of_system nodes (system (by rw [hasAcLines, kind]; rfl))

end Balances

end Dispatch.Network
