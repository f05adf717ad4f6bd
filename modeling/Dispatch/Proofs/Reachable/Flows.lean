import Dispatch.Proofs.Mps.Meaning
import Dispatch.Proofs.Network.Intervals
import Dispatch.Proofs.Number.Weighing
import Dispatch.Proofs.Reachable.Attuned

namespace Dispatch

/-! A flow limit over injections and a flow limit over flows say the same. On an AC line the limit
bounds what the injections distribute to the line, moved by what the demand does; the definition
makes the flow of the same two, so that meeting it turns one bound into the other. Both rows are
brought up to date by updates of their own, and agree because both are those of the data. -/

namespace Exact

theorem neg_mul_number (value : Exact) (factor : ℚ) :
    -value * number factor = -(value * number factor) := by
  rcases value with value | (_ | _) | _
  · simp
  · by_cases zero : factor = 0 <;> simp [zero]
  · by_cases zero : factor = 0 <;> simp [zero]
  · simp

/-- A shift by a number moves no comparison. -/
theorem atMost_add_number (low : Exact) (value shift : ℚ) :
    Scalar.atMost (low + number shift) (number (value + shift)) =
      Scalar.atMost low (number value) := by
  rcases low with low | (_ | _) | _ <;> simp

theorem add_number_atMost (high : Exact) (value shift : ℚ) :
    Scalar.atMost (number (value + shift)) (high + number shift) =
      Scalar.atMost (number value) high := by
  rcases high with high | (_ | _) | _ <;> simp

theorem eq_number_of_number_add_neg {value : Exact} {amount level : ℚ}
    (balanced : number amount + -value = number (-level)) : value = number (amount + level) := by
  cases value with
  | number value =>
      have equal : amount + -value = -level := number.inj balanced
      congr 1
      linarith
  | infinite isNegative => cases balanced
  | undefined => cases balanced

theorem isNumber_sumOfProducts {left right : List Exact}
    (lefts : ∀ value ∈ left, value.isNumber = true)
    (rights : ∀ value ∈ right, value.isNumber = true) :
    (Scalar.sumOfProducts left right).isNumber = true := by
  have run (pairs : List (Exact × Exact)) (total : Exact) (start : total.isNumber = true)
      (numbers : ∀ pair ∈ pairs, pair.1.isNumber = true ∧ pair.2.isNumber = true) :
      (pairs.foldl (fun total pair => total + pair.1 * pair.2) total).isNumber = true := by
    induction pairs generalizing total with
    | nil => exact start
    | cons pair rest induction =>
        obtain ⟨⟨first, second⟩, later⟩ := List.forall_mem_cons.mp numbers
        obtain ⟨total, rfl⟩ := eq_number_of_isNumber start
        obtain ⟨one, factor⟩ := eq_number_of_isNumber first
        obtain ⟨other, amount⟩ := eq_number_of_isNumber second
        refine induction _ ?_ later
        change (number total + pair.1 * pair.2).isNumber = true
        rw [factor, amount]
        rfl
  refine run _ 0 rfl fun pair member => ?_
  obtain ⟨first, second⟩ := List.of_mem_zip (show (pair.1, pair.2) ∈ _ from member)
  exact ⟨lefts _ first, rights _ second⟩

end Exact

/-- The terms with the other sign. -/
theorem weigh_neg (values : VarRef → ℚ) (terms : List (VarRef × Exact)) :
    weigh values (terms.map fun term => (term.1, -term.2)) = -weigh values terms := by
  rw [weigh, weigh, List.map_map, ← Exact.neg_sum_map]
  exact congrArg List.sum (List.map_congr_left fun term _ => Exact.neg_mul_number _ _)

/-- What the row adds up to lies between its bounds. -/
def Row.Kept (values : VarRef → ℚ) (row : Row Exact) : Prop :=
  ∃ level, row.function.evaluate (assigned values) = .ok level ∧
    (Constraint.row row).bounds.Holds level

theorem Row.kept_ofTerms {values : VarRef → ℚ} {terms : List (VarRef × Exact)} {low high : Exact} :
    (⟨.ofTerms terms, low, high⟩ : Row Exact).Kept values ↔
      (Bounds.mk low high).Holds (weigh values terms) := by
  have level : (LinearFunction.ofTerms terms).evaluate (assigned values) =
      .ok (weigh values terms) := by
    rw [evaluate_assigned]
    exact congrArg Except.ok (zero_add _)
  constructor
  · rintro ⟨found, evaluated, holds⟩
    rw [level] at evaluated
    cases evaluated
    exact holds
  · exact fun holds => ⟨_, level, holds⟩

theorem Family.get?_tabulate {α : Type} {name : String} {rows cols : Nat}
    {item : Nat → Nat → α} {row col : Nat} (row_lt : row < rows) (col_lt : col < cols) :
    (Family.tabulate name rows cols item).get? row col = some (item row col) := by
  unfold Family.get? Family.tabulate
  rw [if_pos col_lt, getElem?_table, if_pos (index_lt row_lt col_lt), index_div row col_lt,
    index_mod row col_lt]

/-- The limit on a line where it is a row. -/
def FlowLimits.row? {K : Type} (limits : FlowLimits K) (interval line : Nat) : Option (Row K) :=
  match limits with
  | .ac limits => limits.get? interval line
  | .hybrid limits => limits.get? interval line
  | _ => Option.none

namespace Network

/-- The limits of a line, scaled. -/
def scaledLimits {K : Type} [Scalar K] (network : Network K) (topology : Topology K)
    (line : Nat) : Bounds K :=
  ⟨network.kappaAt line * topology.minFlowOf line,
    network.kappaAt line * topology.maxFlowOf line⟩

/-- What the demand makes of the distribution factors has a number. -/
structure Numeric (network : Network Exact) (topology : Topology Exact) : Prop where
  demand : ∀ value ∈ network.demand, value.isNumber = true
  factors : ∀ matrix ∈ topology.factors, ∀ value ∈ matrix, value.isNumber = true

section Line

variable {network : Network Exact} {topology : Topology Exact} {values : VarRef → ℚ}
  {kind : LineKind} {interval line : Nat}

theorem Numeric.demandFlow (numeric : network.Numeric topology) (interval line : Nat) :
    ∃ shift, network.demandFlow topology interval line = .number shift := by
  refine Exact.eq_number_of_isNumber (Exact.isNumber_sumOfProducts ?_ ?_)
  · intro value member
    obtain ⟨node, -, rfl⟩ := List.mem_map.mp member
    unfold Topology.factor
    cases given : topology.factors with
    | none => rfl
    | some matrix =>
        change ((matrix[line * topology.nodes + node]?).getD 0).isNumber = true
        cases found : matrix[line * topology.nodes + node]? with
        | none => rfl
        | some value => exact numeric.factors matrix given value (List.mem_of_getElem? found)
  · intro value member
    obtain ⟨node, -, rfl⟩ := List.mem_map.mp member
    unfold demandAt
    split
    · rfl
    · rw [List.getD_eq_getElem?_getD]
      cases found : network.demand[interval * network.nodes + node]? with
      | none => rfl
      | some value => exact numeric.demand value (List.mem_of_getElem? found)

/-- A direct line is limited by its own flow. -/
theorem kept_limitRow_direct (direct : topology.isHvdc line = true) :
    (network.limitRow topology kind interval line).Kept values ↔
      (network.scaledLimits topology line).Holds
        (.number (values (network.flow interval line))) := by
  have level : weigh values [(network.flow interval line, 1)] =
      .number (values (network.flow interval line)) := by
    simp [Exact.one_def, Exact.zero_def]
  rw [limitRow, if_pos direct, Row.kept_ofTerms, level, flowRange,
    if_pos (by rw [direct, Bool.or_true])]
  rfl

/-- The distribution comes to the flow and what the demand takes of it. -/
theorem weigh_distribution_of_met {shift : ℚ}
    (demanded : network.demandFlow topology interval line = .number shift)
    (met : (network.definitionRow topology interval line).Met values) :
    weigh values (network.distribution topology interval line) =
      .number (values (network.flow interval line) + shift) := by
  have balanced := Row.Met.weigh_eq met
  rw [weigh_cons, weigh_neg, demanded] at balanced
  refine Exact.eq_number_of_number_add_neg ?_
  simpa [Exact.one_def] using balanced

theorem kept_limitRow_distributed (numeric : network.Numeric topology)
    (other : kind ≠ .hvdc) (distributed : topology.isHvdc line = false)
    (met : (network.definitionRow topology interval line).Met values) :
    (network.limitRow topology kind interval line).Kept values ↔
      (network.scaledLimits topology line).Holds
        (.number (values (network.flow interval line))) := by
  obtain ⟨shift, demanded⟩ := numeric.demandFlow interval line
  have level := weigh_distribution_of_met demanded met
  rw [limitRow, distributed, if_neg Bool.false_ne_true, Row.kept_ofTerms, level, flowRange,
    if_neg (by simp [other, distributed]), demanded]
  dsimp only [Bounds.Holds, scaledLimits]
  rw [Exact.atMost_add_number, Exact.add_number_atMost]

end Line

section Rows

variable {K : Type} [Scalar K] {network : Network K} {topology : Topology K}

/-- Limits that exist were generated, over the variables of that time. -/
theorem InStep.limited (inStep : network.InStep)
    (generated : network.rows.flowLimits.kind ≠ .none) :
    network.stage.hasConstraints = true ∧ 1 < network.nodes ∧
      network.powerFlow = network.stripped.withVariables.powerFlow := by
  have constrained {result : Network K}
      (advanced : network.stripped.withVariables.withConstraints = .ok result)
      (limits : result.rows.flowLimits.kind ≠ .none) :
      1 < result.nodes ∧ result.powerFlow = network.stripped.withVariables.powerFlow := by
    obtain ⟨-, rfl⟩ | ⟨topology, several, -, -, rfl⟩ := withConstraints_cases advanced
    · exact absurd rfl limits
    · exact ⟨several, rfl⟩
  rw [InStep] at inStep
  cases reached : network.stage with
  | empty =>
      rw [reached] at inStep
      rw [← Except.ok.inj inStep] at generated
      exact absurd rfl generated
  | vars =>
      rw [reached] at inStep
      rw [← Except.ok.inj inStep] at generated
      exact absurd rfl generated
  | constraints =>
      rw [reached] at inStep
      exact ⟨rfl, constrained inStep generated⟩
  | objective =>
      rw [reached] at inStep
      obtain ⟨middle, advanced, equality⟩ := Except.map_eq_ok.mp inStep
      rw [← equality] at generated
      have kept := constrained advanced generated
      generalize network.stripped.withVariables.powerFlow = flows at kept ⊢
      rw [← equality]
      exact ⟨rfl, kept⟩

/-- The rows are those of the data, and every line has a flow. -/
theorem InStep.lines (inStep : network.InStep) (attached : network.topology? = some topology)
    (generated : network.rows.flowLimits.kind ≠ .none) {interval line : Nat}
    (interval_lt : interval < network.intervals) (line_lt : line < topology.lines) :
    network.rows = network.rowsOf topology ∧
      network.flowVar? interval line = some (network.flow interval line) := by
  obtain ⟨late, several, flows⟩ := inStep.limited generated
  obtain ⟨found, checked, rows⟩ := inStep.rows_eq late several
  have same : found = topology :=
    Option.some.inj ((checkTopology_ok checked).symm.trans attached)
  subst same
  refine ⟨rows, ?_⟩
  have bare : network.stripped.Bare := rfl
  have empty := isEmpty_grid_withVariables bare (Nat.zero_lt_of_lt interval_lt) .flow
  have lines : 0 < network.lines := by
    rw [lines_of_topology attached]
    exact Nat.zero_lt_of_lt line_lt
  have has : network.stripped.has .flow = true := by
    change (decide (1 < network.nodes) && decide (0 < network.lines)) = true
    rw [decide_eq_true several, decide_eq_true lines]
    rfl
  rw [has] at empty
  have occupied : network.powerFlow.isEmpty = false := (congrArg Grid.isEmpty flows).trans empty
  rw [flowVar?, Store.cell?, occupied, if_neg Bool.false_ne_true]
  rfl

/-- The limits of a network with distribution factors are rows. -/
theorem row?_flowLimitsOf (network : Network K) (distributed : hasAcLines topology = true)
    {interval line : Nat} (interval_lt : interval < network.intervals)
    (line_lt : line < topology.lines) :
    ∃ kind, kind ≠ .hvdc ∧ (network.flowLimitsOf topology).row? interval line =
      some (network.limitRow topology kind interval line) := by
  unfold flowLimitsOf
  cases kind : topology.lineKind with
  | none => rw [hasAcLines, kind] at distributed; cases distributed
  | hvdc => rw [hasAcLines, kind] at distributed; cases distributed
  | ac => exact ⟨.ac, by decide, Family.get?_tabulate interval_lt line_lt⟩
  | hybrid => exact ⟨.hybrid, by decide, Family.get?_tabulate interval_lt line_lt⟩

/-- A line with distribution factors has one definition in each interval. -/
theorem get?_definitions (network : Network K) {interval line : Nat}
    (interval_lt : interval < network.intervals) (line_lt : line < topology.lines)
    (distributed : topology.isHvdc line = false) :
    ∃ place, topology.acLines[place]? = some line ∧
      (network.definitions topology).get? interval place =
        some (network.definitionRow topology interval line) := by
  have listed : line ∈ topology.acLines :=
    List.mem_filter.mpr ⟨List.mem_range.mpr line_lt, by rw [distributed]; rfl⟩
  obtain ⟨place, found⟩ := List.mem_iff_getElem?.mp listed
  refine ⟨place, found, ?_⟩
  rw [definitions_eq, Family.get?_tabulate interval_lt (List.getElem?_eq_some_iff.mp found).1,
    List.getD_eq_getElem?_getD, found]
  rfl

end Rows

/-- A network whose rows have followed its data: on its own after steps and updates with writing
modes, or in a schedule after such updates of that. -/
inductive Followed {K : Type} [Scalar K] : Network K → Prop
  | alone {start : Network K} (bare : start.Bare) {calls : List (Call K)}
      (writes : ∀ call ∈ calls, call.Writes) : Followed (start.play calls)
  | member {schedule : Schedule K} {allowed : Mode → Prop} (arises : schedule.Arises allowed)
      (writes : ∀ mode, allowed mode → mode.writes = true) {network : Network K}
      (present : network ∈ schedule.networks) : Followed network

theorem Followed.inStep {K : Type} [Scalar K] {network : Network K}
    (followed : network.Followed) : network.InStep := by
  cases followed with
  | alone bare writes => exact (inStep_of_stripped bare).play writes
  | member arises writes present => exact arises.attuned writes network present

/-- Limits of a network with AC lines bound the flows by the scaled limits: as they stand on a
direct line, and on any other for all values that meet the definition of its flow. -/
theorem Followed.kept_iff {network : Network Exact} (followed : network.Followed)
    {topology : Topology Exact} (attached : network.topology? = some topology)
    (kind : network.rows.flowLimits.kind = .ac ∨ network.rows.flowLimits.kind = .hybrid)
    (numeric : network.Numeric topology) {interval line : Nat}
    (interval_lt : interval < network.intervals) (line_lt : line < topology.lines)
    (values : VarRef → ℚ) :
    ∃ flow limit, network.flowVar? interval line = some flow ∧
      network.rows.flowLimits.row? interval line = some limit ∧
      (topology.isHvdc line = true →
        (limit.Kept values ↔
          (network.scaledLimits topology line).Holds (.number (values flow)))) ∧
      (topology.isHvdc line = false → ∃ place definition,
        network.rows.acLines[place]? = some line ∧
        network.rows.flowDefinition.get? interval place = some definition ∧
        (definition.Met values →
          (limit.Kept values ↔
            (network.scaledLimits topology line).Holds (.number (values flow))))) := by
  have generated : network.rows.flowLimits.kind ≠ .none := by
    rcases kind with kind | kind <;> rw [kind] <;> decide
  obtain ⟨rows, flow⟩ := followed.inStep.lines attached generated interval_lt line_lt
  have distributed : hasAcLines topology = true := by
    rw [rows] at kind
    have same : (network.flowLimitsOf topology).kind = topology.lineKind := by
      unfold flowLimitsOf
      cases topology.lineKind <;> rfl
    change (network.flowLimitsOf topology).kind = _ ∨ (network.flowLimitsOf topology).kind = _
      at kind
    rw [same] at kind
    rcases kind with kind | kind <;> rw [hasAcLines, kind] <;> rfl
  obtain ⟨kind, other, limit⟩ := network.row?_flowLimitsOf distributed interval_lt line_lt
  refine ⟨_, _, flow, by rw [rows]; exact limit, kept_limitRow_direct, fun indirect => ?_⟩
  obtain ⟨place, listed, definition⟩ := network.get?_definitions interval_lt line_lt indirect
  refine ⟨place, _, ?_, ?_, kept_limitRow_distributed numeric other indirect⟩
  · rw [rows]
    change (if hasAcLines topology then topology.acLines else [])[place]? = some line
    rw [if_pos distributed]
    exact listed
  · rw [rows]
    change (network.flowDefinitionOf topology).get? interval place = _
    rw [flowDefinitionOf, if_pos distributed]
    exact definition

/-- Three nodes in a ring of one direct line and two AC lines, over two intervals. -/
def circuit : Topology Exact where
  classname := "DCNetworkData"
  nodes := 3
  lines := 3
  start := [0, 1, 2]
  finish := [1, 2, 0]
  minFlow := [-1, -1, -1]
  maxFlow := [1, 1, 1]
  susceptance := [0, 1, 1]
  cost := []
  factors := some [0, 0, 0, 1, 0, 0, 0, 1, 0]
  nodeNames := []
  lineNames := []

def overCircuit : Network Exact :=
  { (bus ⟨0⟩ : Network Exact) with intervals := 2 }.attach
    (.shared (.extension ⟨circuit, fun group => group⟩))

/-- Kappa moves before and the demand after the rows exist. -/
def circuitCalls : List (Call Exact) :=
  [.generateVariables, .setKappa (.range 0 2) [.number 2, .number 3] .quiet .quiet,
    .generateConstraints,
    .setDemand (.subset [4, 1] false) [.number 5, .number 6] .quiet .quiet]

/-- The second node injects its demand and the first one 2 more, which leaves over line 1. -/
def circuitValues (var : VarRef) : ℚ :=
  [2, 6, 0, 2, 5, 0, 0, 2, 0, 0, 2, 0].getD var.slot 0

theorem Followed.kept_iff_circuit :
    let network := overCircuit.play circuitCalls
    (∀ row ∈ network.rows.flowDefinition.items, row.Met circuitValues) ∧
      ∃ flow limit, network.flowVar? 1 1 = some flow ∧
        network.rows.flowLimits.row? 1 1 = some limit ∧
        (limit.Kept circuitValues ↔
          (network.scaledLimits circuit 1).Holds (.number (circuitValues flow))) := by
  have followed : (overCircuit.play circuitCalls).Followed :=
    .alone (show overCircuit.Bare from rfl) (show ∀ call ∈ circuitCalls, call.Writes by
      simp [circuitCalls, Call.Writes, Mode.writes])
  have attached : (overCircuit.play circuitCalls).topology? = some circuit := rfl
  obtain ⟨topology, checked, rows⟩ := followed.inStep.rows_eq (by decide +kernel)
    (by decide +kernel)
  have same : topology = circuit :=
    Option.some.inj ((checkTopology_ok checked).symm.trans attached)
  subst same
  have met : ∀ row ∈ (overCircuit.play circuitCalls).rows.flowDefinition.items,
      row.Met circuitValues := by
    rw [rows]
    decide +kernel
  have numeric : (overCircuit.play circuitCalls).Numeric circuit :=
    ⟨by decide +kernel, by decide +kernel⟩
  obtain ⟨flow, limit, reads, limits, -, indirect⟩ := followed.kept_iff attached
    (by rw [rows]; decide +kernel) numeric (show 1 < 2 by decide) (show 1 < 3 by decide)
    circuitValues
  obtain ⟨place, definition, -, found, meets⟩ := indirect (by decide +kernel)
  refine ⟨met, flow, limit, reads, limits, meets (met definition ?_)⟩
  unfold Family.get? at found
  split at found
  · exact List.mem_of_getElem? found
  · cases found

end Network

end Dispatch
