import Dispatch.Proofs.Network.Conservation
import Dispatch.Proofs.Topology.Reloading

namespace Dispatch

/-! What the checks of a topology ensure stays true however it is edited, and it is all that a
network asks of the shape of its topology before it makes rows. -/

namespace Topology

variable {K : Type} {topology : Topology K}

/-- Lines join two nodes each, and what belongs to the nodes or the lines is there for all of
them or, where it may be left out, for none. -/
structure Coherent (topology : Topology K) : Prop where
  nodes : 1 ≤ topology.nodes
  single : topology.nodes = 1 → topology.lines = 0
  start : topology.start.length = topology.lines
  finish : topology.finish.length = topology.lines
  minFlow : topology.minFlow.length = topology.lines
  maxFlow : topology.maxFlow.length = topology.lines
  within : ∀ node ∈ topology.start ++ topology.finish, node < topology.nodes
  apart : ∀ ends ∈ topology.start.zip topology.finish, ends.1 ≠ ends.2
  susceptance : topology.susceptance = [] ∨ topology.susceptance.length = topology.lines
  cost : topology.cost = [] ∨ topology.cost.length = topology.lines
  factors : ∀ matrix, topology.factors = some matrix →
    matrix.length = topology.lines * topology.nodes
  nodeNames : topology.nodeNames = [] ∨ topology.nodeNames.length = topology.nodes
  lineNames : topology.lineNames = [] ∨ topology.lineNames.length = topology.lines

theorem checkLength_self {what : String} {expected found : Nat} (fits : found = expected) :
    checkLength what expected found = .ok () :=
  if_pos fits

theorem checkOptionalLength_of_fits {α : Type} {what : String} {expected : Nat} {values : List α}
    (fits : values = [] ∨ values.length = expected) :
    checkOptionalLength what expected values.length = .ok () := by
  unfold checkOptionalLength
  split
  · rfl
  · rename_i given
    refine checkLength_self (fits.resolve_left ?_)
    rintro rfl
    exact given rfl

theorem Coherent.checkShape (coherent : topology.Coherent) : topology.checkShape = .ok () := by
  have nowhere : ((topology.start ++ topology.finish).find? fun node =>
      decide (topology.nodes ≤ node)) = none :=
    List.find?_eq_none.mpr fun node member => by simpa using coherent.within node member
  unfold Topology.checkShape
  rw [checkLength_self coherent.start, checkLength_self coherent.finish,
    checkLength_self coherent.minFlow, checkLength_self coherent.maxFlow,
    checkOptionalLength_of_fits coherent.susceptance, checkOptionalLength_of_fits coherent.cost,
    nowhere]
  simp only [Except.ok_bind]
  cases given : topology.factors with
  | none => rfl
  | some matrix =>
      dsimp only
      rw [checkLength_self (coherent.factors matrix given)]
      rfl

end Topology

namespace DcData

variable {K : Type} {data : DcData K}

theorem checkEndpoints_eq_ok {nodes line : Nat} {ends : List (Nat × Nat)} :
    checkEndpoints nodes line ends = .ok () ↔
      ∀ pair ∈ ends, pair.1 < nodes ∧ pair.2 < nodes ∧ pair.1 ≠ pair.2 := by
  induction ends generalizing line with
  | nil => simp [checkEndpoints]
  | cons pair rest induction =>
      obtain ⟨start, finish⟩ := pair
      rw [checkEndpoints, List.forall_mem_cons]
      by_cases startFits : nodes ≤ start
      · simp [checkNode, startFits, Nat.not_lt.mpr startFits]
      by_cases finishFits : nodes ≤ finish
      · simp [checkNode, startFits, finishFits, Nat.not_lt.mpr finishFits]
      by_cases same : start = finish
      · simp [checkNode, finishFits, same]
      · simp [checkNode, startFits, finishFits, same, induction, Nat.lt_of_not_le]

/-- A refused edit leaves the topology as it was. -/
theorem edit_apply (edit : Edit K) (data : DcData K) :
    DcData.edit edit data =
      match data.edited edit with
      | .error error => ⟨data, [], .error error⟩
      | .ok result => ⟨result, [], .ok ()⟩ := by
  unfold DcData.edit
  rw [Change.current_bind]
  cases data.edited edit <;> rfl

theorem edit_refused {edit : Edit K} {error : Error}
    (refused : (DcData.edit edit data).result = .error error) :
    (DcData.edit edit data).state = data := by
  rw [edit_apply] at refused ⊢
  cases edited : data.edited edit with
  | error _ => rfl
  | ok result =>
      rw [edited] at refused
      cases refused

/-- What the optional checks let through. -/
theorem fits_of_checkOptional {α : Type} {what : String} {expected : Nat} {values : List α}
    (checked : Topology.checkOptionalLength what expected values.length = .ok ()) :
    values = [] ∨ values.length = expected :=
  (length_of_checkOptional checked).imp_left List.eq_nil_of_length_eq_zero

theorem Filable.coherent {data : DcData Float} (filable : data.Filable) :
    data.topology.Coherent := by
  obtain ⟨some, lone, finish, minFlow, maxFlow, endpoints⟩ := validate_eq_ok.mp filable.valid
  have joins := checkEndpoints_eq_ok.mp endpoints
  have starts : ∀ node ∈ data.start, node < data.nodes := by
    rw [← List.map_fst_zip (Nat.le_of_eq finish.symm)]
    exact List.forall_mem_map.mpr fun ends listed => (joins ends listed).1
  have finishes : ∀ node ∈ data.finish, node < data.nodes := by
    rw [← List.map_snd_zip (Nat.le_of_eq finish)]
    exact List.forall_mem_map.mpr fun ends listed => (joins ends listed).2.1
  exact {
    nodes := Nat.pos_of_ne_zero some
    single := fun single => Nat.eq_zero_of_not_pos fun lines => lone ⟨single, lines⟩
    start := rfl
    finish := finish
    minFlow := minFlow
    maxFlow := maxFlow
    within := List.forall_mem_append.mpr ⟨starts, finishes⟩
    apart := fun ends listed => (joins ends listed).2.2
    susceptance := fits_of_checkOptional filable.susceptance
    cost := fits_of_checkOptional filable.cost
    factors := filable.factors
    nodeNames := fits_of_checkOptional filable.nodeNames
    lineNames := fits_of_checkOptional filable.lineNames }

/-- Made at once or read from a group, and then edited; a refused edit counts with what it
leaves. -/
inductive Reachable : DcData Float → Prop
  | bus : Reachable DcData.bus
  | new {nodes : Nat} {start finish : List Nat} {minFlow maxFlow : List Float}
      {data : DcData Float} (created : DcData.new nodes start finish minFlow maxFlow = .ok data) :
      Reachable data
  | ofGroup {group : Group} {data : DcData Float} (read : DcData.ofGroup group = .ok data) :
      Reachable data
  | edit {data : DcData Float} (reachable : Reachable data) (edit : Edit Float) :
      Reachable (DcData.edit edit data).state

theorem Reachable.made {data : DcData Float} (reachable : data.Reachable) : data.Made := by
  induction reachable with
  | bus => exact .bus
  | new created => exact .new created
  | ofGroup read => exact .ofGroup read
  | @edit data _ edit made =>
      rw [edit_apply]
      cases edited : data.edited edit with
      | error error => exact made
      | ok result => exact .edited made edited

end DcData

namespace Network

variable {K : Type} [Scalar K] {network : Network K} {topology : Topology K}

/-- Refusals that leave the shape of the topology of so many nodes alone: a step out of turn, no
lines between several nodes, or lines that need distribution factors. -/
inductive ShapelessRefusal (nodes : Nat) : Error → Prop
  | outOfOrder (target current : Stage) : ShapelessRefusal nodes (.outOfOrder target current)
  | noLines : ShapelessRefusal nodes (.invalidTopology (.noLines nodes))
  | noFactors : ShapelessRefusal nodes (.invalidTopology .noDistributionFactors)

theorem shapelessRefusal_of_withConstraints (attached : network.topology? = some topology)
    (coherent : topology.Coherent) {error : Error}
    (refused : network.withConstraints = .error error) :
    ShapelessRefusal topology.nodes error := by
  unfold withConstraints at refused
  split at refused
  · unfold checkTopology at refused
    rw [attached] at refused
    dsimp only at refused
    split at refused
    · cases refused
      exact .noLines
    · rw [coherent.checkShape] at refused
      simp only [Except.ok_bind] at refused
      split at refused
      · cases refused
        exact .noFactors
      · cases refused
  · cases refused

/-- A change that keeps the topology of a network and refuses nothing for its shape. -/
def Adapts (topology : Topology K) (change : Change (Network K) Unit) : Prop :=
  ∀ network, network.topology? = some topology →
    (change network).state.topology? = some topology ∧
      ∀ error, (change network).result = .error error → ShapelessRefusal topology.nodes error

omit [Scalar K] in
theorem Adapts.andThen {first second : Change (Network K) Unit} (early : Adapts topology first)
    (late : Adapts topology second) :
    Adapts topology (first >>= fun _ => second) := by
  intro network attached
  obtain ⟨kept, refusals⟩ := early network attached
  rw [Change.bind_apply]
  cases answered : (first network).result with
  | error error =>
      refine ⟨kept, fun other same => ?_⟩
      cases same
      exact refusals error answered
  | ok _ => exact late _ kept

omit [Scalar K] in
theorem adapts_step {target : Stage} {advance : Network K → Except Error (Network K)}
    (keeps : ∀ network result, advance network = .ok result → result.topology? = network.topology?)
    (refuses : ∀ network error, network.topology? = some topology →
      advance network = .error error → ShapelessRefusal topology.nodes error) :
    Adapts topology (step target advance) := by
  intro network attached
  rw [step_apply]
  cases entered : network.stage.enter target with
  | error error =>
      refine ⟨attached, fun other same => ?_⟩
      cases same
      unfold Stage.enter at entered
      split at entered
      · cases entered
      · split at entered
        · cases entered
        · cases entered
          exact .outOfOrder target network.stage
  | ok action =>
      cases action with
      | skip => exact ⟨attached, nofun⟩
      | run =>
          dsimp only
          cases advanced : advance network with
          | error error =>
              refine ⟨attached, fun other same => ?_⟩
              cases same
              exact refuses network error attached advanced
          | ok result => exact ⟨(keeps network result advanced).trans attached, nofun⟩

theorem adapts_generateVariables :
    Adapts topology (generateVariables : Change (Network K) Unit) := by
  refine adapts_step (fun network result advanced => ?_) fun network error _ refused => ?_
  · cases advanced
    rfl
  · cases refused

omit [Scalar K] in
theorem adapts_generateObjective :
    Adapts topology (generateObjective : Change (Network K) Unit) := by
  refine adapts_step (fun network result advanced => ?_) fun network error _ refused => ?_
  · cases advanced
    rfl
  · cases refused

theorem Adapts.generateConstraints (coherent : topology.Coherent) :
    Adapts topology (generateConstraints : Change (Network K) Unit) :=
  adapts_step
    (fun network result advanced => by
      rw [withConstraints_ok advanced]
      rfl)
    fun _ _ attached refused => shapelessRefusal_of_withConstraints attached coherent refused

/-- Every way to generate a network. -/
def generations : List (Change (Network K) Unit) :=
  [generateVariables, generateConstraints, generateObjective, generateAll]

theorem adapts_of_mem_generations (coherent : topology.Coherent)
    {generate : Change (Network K) Unit} (member : generate ∈ generations) :
    Adapts topology generate := by
  have constraints := Adapts.generateConstraints coherent
  simp only [generations, List.mem_cons, List.not_mem_nil, or_false] at member
  rcases member with rfl | rfl | rfl | rfl
  · exact adapts_generateVariables
  · exact constraints
  · exact adapts_generateObjective
  · exact adapts_generateVariables.andThen (constraints.andThen adapts_generateObjective)

end Network

namespace DcData

/-- A topology is coherent after every edit, accepted or refused, and no network over it is refused
anything for the shape of its topology. -/
theorem coherent_of_reachable {data : DcData Float} (reachable : data.Reachable) :
    data.topology.Coherent ∧ data.topology.checkShape = .ok () ∧
      (∀ edit error, (DcData.edit edit data).result = .error error →
        (DcData.edit edit data).state = data) ∧
      ∀ network : Network Float, network.topology? = some data.topology →
        ∀ generate ∈ Network.generations, ∀ error, (generate network).result = .error error →
          Network.ShapelessRefusal data.nodes error := by
  have coherent := reachable.made.filable.coherent
  refine ⟨coherent, coherent.checkShape, fun edit error refused => edit_refused refused,
    fun network attached generate member error refused => ?_⟩
  exact (Network.adapts_of_mem_generations coherent member network attached).2 error refused

/-- Two lines in a row, of which the second is direct. -/
def chain : DcData Float where
  nodes := 3
  start := [0, 1]
  finish := [1, 2]
  minFlow := [-10, -10]
  maxFlow := [10, 10]
  susceptance := [1, 0]
  cost := []
  factors := none
  nodeNames := []
  lineNames := []
  layouts := Layouts.none

/-- A network over the chain that has no rows yet. -/
def overChain : Network Float :=
  (Network.generateVariables ((Network.bus ⟨0⟩).attach (.owned (.dc chain)))).state

/-- One cost is too few for two lines, and one of the lines needs factors. -/
theorem coherent_of_reachable_chain :
    chain.Reachable ∧ chain.topology.Coherent ∧
      (DcData.edit (.cost [1]) chain).result = .error (.shape "NetworkCost" 2 1) ∧
      (DcData.edit (.cost [1]) chain).state = chain ∧
      (Network.generateConstraints overChain).result =
        .error (.invalidTopology .noDistributionFactors) ∧
      Network.ShapelessRefusal 3 (.invalidTopology .noDistributionFactors) := by
  have created : DcData.new 3 [0, 1] [1, 2] [-10, -10] [10, 10] =
      .ok { chain with susceptance := [] } := rfl
  have reachable : chain.Reachable := .edit (.new created) (.susceptance [1, 0])
  obtain ⟨coherent, -, still, unrefused⟩ := coherent_of_reachable reachable
  have generated : (Network.generateConstraints overChain).result =
      .error (.invalidTopology .noDistributionFactors) := by
    decide +kernel
  exact ⟨reachable, coherent, rfl, still _ _ rfl, generated,
    unrefused overChain rfl _ (.tail _ (.head _)) _ generated⟩

end DcData

end Dispatch
