import Dispatch.Proofs.Network.Rows

namespace Dispatch

/-! Which families of rows a network has, and how many rows there are in each. Generation
decides it by the class of the lines, and no patch of a row changes it. -/

/-- The form of the flow limits, and the number of entries in every family. -/
structure Census where
  kind : LineKind
  flowLimits : Nat
  injectionBalance : Nat
  flowDefinition : Nat
  systemBalance : Nat
  relaxedFlows : Nat
  injectionBounds : Nat
deriving DecidableEq, Repr

def Census.none : Census := ⟨.none, 0, 0, 0, 0, 0, 0⟩

variable {K : Type}

def NetworkRows.census (rows : NetworkRows K) : Census where
  kind := rows.flowLimits.kind
  flowLimits := rows.flowLimits.size
  injectionBalance := rows.injectionBalance.size
  flowDefinition := rows.flowDefinition.size
  systemBalance := rows.systemBalance.size
  relaxedFlows := rows.relaxedFlows.size
  injectionBounds := rows.injectionBounds.size

/-- What several nodes over a number of intervals call for. -/
def Topology.census [Scalar K] (topology : Topology K) (intervals : Nat) : Census where
  kind := topology.lineKind
  flowLimits := intervals * topology.lines
  injectionBalance := if topology.lineKind = .hvdc then intervals * topology.nodes else 0
  flowDefinition :=
    if topology.lineKind = .ac ∨ topology.lineKind = .hybrid then
      intervals * topology.acLines.length
    else 0
  systemBalance :=
    if topology.lineKind = .ac ∨ topology.lineKind = .hybrid then intervals else 0
  relaxedFlows := if topology.hasCost then 2 * intervals * topology.lines else 0
  injectionBounds := intervals * topology.nodes

@[simp] theorem Family.size_modify {α : Type} (family : Family α) (row col : Nat)
    (change : α → α) : (family.modify row col change).size = family.size := by
  unfold Family.modify Family.size
  split
  · exact List.length_modify _ _ _
  · rfl

@[simp] theorem Family.size_tabulate {α : Type} (name : String) (rows cols : Nat)
    (item : Nat → Nat → α) : (Family.tabulate name rows cols item).size = rows * cols :=
  Family.length_table rows cols item

@[simp] theorem FlowLimits.size_setBounds (limits : FlowLimits K) (interval line : Nat)
    (lhs rhs : K) : (limits.setBounds interval line lhs rhs).size = limits.size := by
  cases limits <;> simp [FlowLimits.setBounds, FlowLimits.size]

namespace Network

variable [Scalar K] {network : Network K}

theorem size_flowLimitsOf (network : Network K) {topology : Topology K}
    (lines : 0 < topology.lines) :
    (network.flowLimitsOf topology).size = network.intervals * topology.lines := by
  have classified : topology.lineKind ≠ .none := by
    unfold Topology.lineKind LineKind.classify
    rw [if_neg (Nat.ne_of_gt lines)]
    dsimp only
    split
    · exact LineKind.noConfusion
    · split <;> exact LineKind.noConfusion
  unfold flowLimitsOf
  cases kind : topology.lineKind with
  | none => exact absurd kind classified
  | hvdc => exact Family.size_tabulate _ _ _ _
  | ac => exact Family.size_tabulate _ _ _ _
  | hybrid => exact Family.size_tabulate _ _ _ _

theorem size_definitions (network : Network K) (topology : Topology K) :
    (network.definitions topology).size = network.intervals * topology.acLines.length := by
  simp [definitions, Family.size]

/-- Absolute values are only of interest where they cost something. -/
theorem size_relaxedFlowsOf (network : Network K) (topology : Topology K)
    (auxiliary : network.auxiliary.isEmpty = !topology.hasCost) :
    (network.relaxedFlowsOf topology).size =
      if topology.hasCost then 2 * network.intervals * topology.lines else 0 := by
  unfold relaxedFlowsOf
  rw [auxiliary]
  cases topology.hasCost with
  | false => rfl
  | true =>
      rw [Bool.not_true, if_neg Bool.false_ne_true, if_pos rfl, Family.size_tabulate]
      calc
        network.intervals * (2 * topology.lines) =
            network.intervals * 2 * topology.lines := (Nat.mul_assoc _ _ _).symm
        _ = 2 * network.intervals * topology.lines := by rw [Nat.mul_comm network.intervals 2]

theorem census_rowsOf (network : Network K) {topology : Topology K}
    (lines : 0 < topology.lines)
    (auxiliary : network.auxiliary.isEmpty = !topology.hasCost) :
    (network.rowsOf topology).census = topology.census network.intervals := by
  have kind := kind_flowLimitsOf network topology
  have limits := network.size_flowLimitsOf lines
  have relaxed := network.size_relaxedFlowsOf topology auxiliary
  have bounds : (network.injectionBoundsOf topology).size =
      network.intervals * topology.nodes := Family.size_tabulate _ _ _ _
  have definitions := network.size_definitions topology
  have empty (name : String) (cols : Nat) :
      (Family.empty name cols : Family (Row K)).size = 0 := rfl
  unfold NetworkRows.census Topology.census rowsOf
  dsimp only
  rw [kind, limits, relaxed, bounds]
  unfold injectionBalanceOf flowDefinitionOf systemBalanceOf hasAcLines
  cases topology.lineKind <;> simp [definitions, empty]

theorem census_patchFlowLimits (network : Network K) (lines : List Nat) :
    (network.patchFlowLimits lines).rows.census = network.rows.census := by
  unfold patchFlowLimits
  split
  · rfl
  · unfold NetworkRows.census
    dsimp only
    congr 1
    · exact foldl_kept FlowLimits.kind
        (fun _ _ => foldl_kept FlowLimits.kind (fun _ _ => kind_setBounds _ _ _ _ _) _ _) _ _
    · exact foldl_kept FlowLimits.size (fun _ _ =>
        foldl_kept FlowLimits.size (fun _ _ => FlowLimits.size_setBounds _ _ _ _ _) _ _) _ _

theorem census_patchInterval (network : Network K) (topology : Topology K)
    (rows : NetworkRows K) (interval : Nat) :
    (network.patchInterval topology rows interval).census = rows.census := by
  unfold patchInterval NetworkRows.census
  dsimp only
  congr 1
  · exact foldl_kept FlowLimits.kind (fun _ _ => kind_setBounds _ _ _ _ _) _ _
  · exact foldl_kept FlowLimits.size (fun _ _ => FlowLimits.size_setBounds _ _ _ _ _) _ _
  · exact foldl_kept Family.size (fun _ _ => Family.size_modify _ _ _ _) _ _
  · exact Family.size_modify _ _ _ _

theorem census_patchDemand (network : Network K) (entries : List Nat) :
    (network.patchDemand entries).rows.census = network.rows.census := by
  unfold patchDemand
  split
  · rfl
  · split
    · rfl
    · unfold patchBalances NetworkRows.census
      dsimp only
      congr 1
      exact foldl_kept Family.size (fun _ _ => Family.size_modify _ _ _ _) _ _
    · exact foldl_kept NetworkRows.census (network.census_patchInterval _) _ _

theorem census_patchInjectionBounds (network : Network K) (minimum maximum : List K) :
    (network.patchInjectionBounds minimum maximum).rows.census = network.rows.census := by
  unfold patchInjectionBounds NetworkRows.census
  dsimp only
  congr 1
  exact List.length_mapIdx

end Network

end Dispatch
