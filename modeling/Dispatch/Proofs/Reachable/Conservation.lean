import Dispatch.Proofs.Network.Conservation
import Dispatch.Proofs.Reachable.Attuned
import Dispatch.Proofs.Reachable.Index
import Dispatch.Proofs.Reachable.Mirror
import Dispatch.Proofs.Schedule.Supply

namespace Dispatch

/-! What all generators supply is what all nodes demand, in every instant, where the equalities of
a schedule with rows and of its networks are met exactly. Every generator stands in the balance of
one node. On a bus that balance has the demand; elsewhere it has the injection, and the networks
bring the injections to the demand. -/

theorem Exact.eq_of_agrees_number {value : Exact} {number : ℚ}
    (agrees : Agrees value (.number number)) : value = .number number := by
  rcases agrees with same | alike
  · exact same
  · cases value with
    | number other => rw [of_decide_eq_true alike]
    | infinite isNegative => cases alike
    | undefined => cases alike

namespace Schedule

variable {schedule : Schedule Exact} {plant : Plant Exact} {values : VarRef → ℚ}
  {generator instant node : Nat}

/-- What all generators supply. -/
def supplied (schedule : Schedule Exact) (values : VarRef → ℚ) (instant : Nat) : Exact :=
  (schedule.plants.map fun plant => ((List.range plant.generators).map fun generator =>
    plant.supplied values generator instant).sum).sum

/-- What all nodes demand. -/
def demanded (schedule : Schedule Exact) (instant : Nat) : Exact :=
  ((List.range schedule.nodes).map fun node => schedule.demandAt node instant).sum

/-- The equalities of the nodes and of the networks are met exactly. -/
structure Balanced (schedule : Schedule Exact) (values : VarRef → ℚ) : Prop where
  nodes : ∀ link ∈ schedule.links, link.kind = .balance → ∀ row ∈ link.rows.items, row.Met values
  injections : ∀ network ∈ schedule.networks,
    ∀ row ∈ network.rows.injectionBalance.items, row.Met values
  systems : ∀ network ∈ schedule.networks,
    ∀ row ∈ network.rows.systemBalance.items, row.Met values

instance : Decidable (schedule.Balanced values) :=
  decidable_of_iff ((∀ link ∈ schedule.links, link.kind = .balance →
      ∀ row ∈ link.rows.items, row.Met values) ∧ ∀ network ∈ schedule.networks,
    (∀ row ∈ network.rows.injectionBalance.items, row.Met values) ∧
      ∀ row ∈ network.rows.systemBalance.items, row.Met values)
    ⟨fun ⟨nodes, networks⟩ => ⟨nodes, fun network member => (networks network member).1,
        fun network member => (networks network member).2⟩,
      fun balanced => ⟨balanced.nodes, fun network member =>
        ⟨balanced.injections network member, balanced.systems network member⟩⟩⟩

/-- The data that balances are made of are numbers. -/
structure Numeric (schedule : Schedule Exact) : Prop where
  plants : ∀ plant ∈ schedule.plants, plant.Numeric
  demand : ∀ value ∈ schedule.demand, value.isNumber = true

instance : Decidable schedule.Numeric :=
  decidable_of_iff ((∀ plant ∈ schedule.plants, plant.Numeric) ∧
    ∀ value ∈ schedule.demand, value.isNumber = true)
    ⟨fun ⟨plants, demand⟩ => ⟨plants, demand⟩,
      fun numeric => ⟨numeric.plants, numeric.demand⟩⟩

theorem Numeric.demandAt (numeric : schedule.Numeric) (node instant : Nat) :
    (schedule.demandAt node instant).isNumber = true := by
  rw [Schedule.demandAt, List.getD_eq_getElem?_getD]
  cases found : schedule.demand[node * schedule.horizon + instant]? with
  | none => rfl
  | some value => exact numeric.demand value (List.mem_of_getElem? found)

theorem Numeric.demanded (numeric : schedule.Numeric) (instant : Nat) :
    (schedule.demanded instant).isNumber = true :=
  Exact.isNumber_sum (List.forall_mem_map.mpr fun node _ => numeric.demandAt node instant)

/-- Every generator stands at one node. -/
theorem sum_suppliedAt (placed : schedule.Placed) (grounded : 0 < schedule.nodes)
    (values : VarRef → ℚ) (instant : Nat) :
    ((List.range schedule.nodes).map (schedule.suppliedAt values instant)).sum =
      schedule.supplied values instant := by
  have within : ∀ place ∈ schedule.generatorPlaces,
      schedule.nodeOf place.2.2 < schedule.nodes := by
    intro place member
    obtain ⟨index, found, generator_lt, number⟩ := mem_generatorPlaces.mp member
    rw [number]
    rcases placed.nodeOf_lt (number_lt found generator_lt) with inside | first
    · exact inside
    · rw [first]
      exact grounded
  have whole : schedule.supplied values instant = (schedule.generatorPlaces.map fun place =>
      place.1.supplied values place.2.1 instant).sum := by
    rw [sum_generatorPlaces fun plant generator _ => plant.supplied values generator instant,
      supplied]
    nth_rewrite 1 [← List.zipIdx_map_fst 0 schedule.plants]
    rw [List.map_map]
    rfl
  rw [whole, ← sum_at_places within]
  rfl

variable {allowed : Mode → Prop}

theorem Arises.uncommitted (arises : schedule.Arises allowed)
    (late : schedule.stage.hasConstraints = true) :
    ∀ plant ∈ schedule.plants, plant.data.commitment = false →
      plant.commitment.isEmpty = true := by
  intro plant member uncommitted
  rw [Grid.isEmpty, (arises.gridSizes late member).2, uncommitted]
  rfl

/-- The balance rows of a schedule with rows are those of the moment. -/
theorem Arises.row_met (arises : schedule.Arises allowed)
    (writes : ∀ mode, allowed mode → mode.writes = true)
    (late : schedule.stage.hasConstraints = true)
    (nodes : ∀ link ∈ schedule.links, link.kind = .balance →
      ∀ row ∈ link.rows.items, row.Met values)
    (instant_lt : instant < schedule.horizon) (node_lt : node < schedule.nodes) :
    (schedule.rowOf (.balance instant node)).Met values := by
  have member : LinkRow.balance instant node ∈ schedule.linkRows .balance :=
    mem_balanceRows.mpr ⟨instant_lt, node_lt⟩
  have listed : schedule.linkOf .balance ∈ schedule.links := by
    rw [(arises.current writes late).2]
    exact List.mem_of_find?_eq_some (find?_linksNow member)
  exact nodes _ listed rfl _ (List.mem_map_of_mem member)

/-- A network injects the demand of its instant. -/
theorem Arises.injected_eq_demanded (arises : schedule.Arises allowed)
    (writes : ∀ mode, allowed mode → mode.writes = true)
    (late : schedule.stage.hasConstraints = true) (numeric : schedule.Numeric)
    (balanced : schedule.Balanced values) {network : Network Exact}
    (found : schedule.networks[instant]? = some network) :
    network.injected values 0 = schedule.demanded instant := by
  have member := List.mem_of_getElem? found
  obtain ⟨topology, checked, rows, sibling⟩ := arises.networkRows writes late member
  rw [Network.injected_eq_totalDemand checked rows (by rw [sibling.intervals]; decide)
    (balanced.injections network member) (balanced.systems network member),
    Network.totalDemand_eq_sum, (arises.network_shape member).2, demanded]
  refine congrArg List.sum (List.map_congr_left fun node listed => ?_)
  obtain ⟨number, demand⟩ := Exact.eq_number_of_isNumber (numeric.demandAt node instant)
  have agrees := arises.mirrored.demand instant network found node (List.mem_range.mp listed)
    List.not_mem_nil
  rw [Network.demandAt_eq, Nat.zero_mul, Nat.zero_add]
  exact Exact.eq_of_agrees_number (demand ▸ agrees) |>.trans demand.symm

/-- A node of a bus has its demand supplied. -/
theorem Arises.suppliedAt_of_isBus (arises : schedule.Arises allowed)
    (writes : ∀ mode, allowed mode → mode.writes = true)
    (late : schedule.stage.hasConstraints = true) (numeric : schedule.Numeric)
    (balanced : schedule.Balanced values) (bus : schedule.isBus = true)
    (instant_lt : instant < schedule.horizon) (node_lt : node < schedule.nodes) :
    schedule.suppliedAt values instant node = schedule.demandAt node instant := by
  have met := arises.row_met writes late balanced.nodes instant_lt node_lt
  have level := headOf_add_suppliedAt numeric.plants (arises.uncommitted late) met
  rwa [headOf, linkHead, if_pos bus, if_pos bus, weigh_nil, zero_add] at level

/-- A node of a network has supplied what it injects, once the balances of the nodes are met. -/
theorem Arises.suppliedAt_of_nodes (arises : schedule.Arises allowed)
    (writes : ∀ mode, allowed mode → mode.writes = true)
    (late : schedule.stage.hasConstraints = true)
    (numeric : ∀ plant ∈ schedule.plants, plant.Numeric)
    (nodes : ∀ link ∈ schedule.links, link.kind = .balance →
      ∀ row ∈ link.rows.items, row.Met values) (several : schedule.isBus = false)
    {network : Network Exact} (found : schedule.networks[instant]? = some network)
    (instant_lt : instant < schedule.horizon) (node_lt : node < schedule.nodes) :
    schedule.suppliedAt values instant node = .number (values (network.injection 0 node)) := by
  have met := arises.row_met writes late nodes instant_lt node_lt
  have level := headOf_add_suppliedAt numeric (arises.uncommitted late) met
  obtain ⟨topology, siblings⟩ := arises.paced.networks
  have injection := (siblings network (List.mem_of_getElem? found)).injectionVar?
    (Stage.hasVariables_of_late late) node
  rw [headOf, linkHead, several, if_neg Bool.false_ne_true, if_neg Bool.false_ne_true, found,
    Option.bind_some, injection, weigh_cons, weigh_nil, add_zero, Exact.one_def,
    Exact.neg_number, Exact.number_mul_number, neg_one_mul] at level
  exact Exact.eq_number_of_neg_add level

theorem Arises.suppliedAt_of_network (arises : schedule.Arises allowed)
    (writes : ∀ mode, allowed mode → mode.writes = true)
    (late : schedule.stage.hasConstraints = true) (numeric : schedule.Numeric)
    (balanced : schedule.Balanced values) (several : schedule.isBus = false)
    {network : Network Exact} (found : schedule.networks[instant]? = some network)
    (instant_lt : instant < schedule.horizon) (node_lt : node < schedule.nodes) :
    schedule.suppliedAt values instant node = .number (values (network.injection 0 node)) :=
  arises.suppliedAt_of_nodes writes late numeric.plants balanced.nodes several found instant_lt
    node_lt

/-- Generators have the variables that supply is about. -/
theorem Arises.isSome_vars (arises : schedule.Arises allowed)
    (late : schedule.stage.hasConstraints = true) (member : plant ∈ schedule.plants)
    (generator_lt : generator < plant.generators) (instant_lt : instant < schedule.horizon) :
    (plant.activePowerVar? generator instant).isSome = true ∧
      (plant.commitmentVar? generator instant).isSome = plant.data.commitment := by
  have positive : plant.generators * schedule.horizon ≠ 0 :=
    Nat.ne_of_gt (Nat.mul_pos (Nat.zero_lt_of_lt generator_lt) (Nat.zero_lt_of_lt instant_lt))
  obtain ⟨power, commitment⟩ := arises.gridSizes late member
  unfold Plant.activePowerVar? Plant.commitmentVar? Store.cell? Grid.isEmpty
  rw [power, commitment]
  cases plant.data.commitment <;> simp [positive]

/-- While all modes write, and there is a node, all generators together supply what all nodes
demand. -/
theorem Arises.supplied_eq_demanded
    (arises : schedule.Arises fun mode => mode.writes = true)
    (late : schedule.stage.hasConstraints = true) (grounded : 0 < schedule.nodes)
    (numeric : schedule.Numeric) (balanced : schedule.Balanced values) :
    ∀ instant < schedule.horizon,
      (∀ plant ∈ schedule.plants, ∀ generator < plant.generators,
        (plant.activePowerVar? generator instant).isSome = true ∧
          (plant.commitmentVar? generator instant).isSome = plant.data.commitment) ∧
      ∃ power : ℚ, schedule.supplied values instant = .number power ∧
        schedule.demanded instant = .number power := by
  intro instant instant_lt
  refine ⟨fun plant member generator generator_lt =>
    arises.isSome_vars late member generator_lt instant_lt, ?_⟩
  have writes : ∀ mode : Mode, mode.writes = true → mode.writes = true := fun _ writes => writes
  have equal : schedule.supplied values instant = schedule.demanded instant := by
    rw [← sum_suppliedAt (arises.sound.placed late) grounded]
    cases bus : schedule.isBus with
    | true =>
        exact congrArg List.sum (List.map_congr_left fun node listed =>
          arises.suppliedAt_of_isBus writes late numeric balanced bus instant_lt
            (List.mem_range.mp listed))
    | false =>
        have there : instant < schedule.networks.length := by
          rw [arises.sound.stocked.count bus]
          exact instant_lt
        have found := List.getElem?_eq_getElem there
        rw [← arises.injected_eq_demanded writes late numeric balanced found, Network.injected,
          (arises.network_shape (List.mem_of_getElem? found)).2]
        exact congrArg List.sum (List.map_congr_left fun node listed =>
          arises.suppliedAt_of_network writes late numeric balanced bus found instant_lt
            (List.mem_range.mp listed))
  obtain ⟨power, demand⟩ := Exact.eq_number_of_isNumber (numeric.demanded instant)
  exact ⟨power, equal.trans demand, demand⟩

/-! Two plants at the ends of a direct line, one of them committed. -/

def straitData (commitment : Bool) : PlantData Exact where
  generators := 1
  horizon := 1
  minPower := [0]
  maxPower := [.number 5]
  linearCost := []
  commitment := commitment
  primaryReserve := false
  secondaryReserve := false
  fixedConsumption := [.number (1 / 2)]
  inertiaPower := []
  inertiaCommitment := []

def straitLine : Descriptor Exact :=
  .dc { (DcData.bus : DcData Exact) with
    nodes := 2
    start := [0]
    finish := [1]
    minFlow := [.number (-4)]
    maxFlow := [.number 4]
    susceptance := [0] }

def strait : Schedule Exact :=
  { (ofHorizon ⟨0⟩ 1 : Schedule Exact) with
    nodes := 2
    plants := [
      { Plant.ofData ⟨1⟩ (straitData true) with notifier := .own ⟨0⟩ },
      { Plant.ofData ⟨2⟩ (straitData false) with notifier := .own ⟨0⟩ }]
    networks := [{ (Network.bus ⟨3⟩).attach (.shared straitLine) with notifier := .own ⟨0⟩ }]
    generatorNode := [0, 1] }

theorem arises_straitPlant (id : BlockId) (commitment : Bool) :
    (Plant.ofData id (straitData commitment)).Arises :=
  .start (.ofData id (by simp [PlantData.Shaped, PlantData.profiles]) 1 Layouts.none)

theorem arises_strait : strait.Arises fun mode => mode.writes = true := by
  have start : (ofHorizon ⟨0⟩ 1 : Schedule Exact).Arises fun mode => mode.writes = true :=
    .start (.ofHorizon ⟨0⟩ 1)
  have filled := (start.step (.addPlant _) (arises_straitPlant ⟨1⟩ true)).step (.addPlant _)
    (arises_straitPlant ⟨2⟩ false)
  exact filled.setNetwork trivial
    (show Schedule.setNetwork _ straitLine [0, 1] 3 = (.ok strait, 4) from rfl)

/-- The committed generator is off; three units are injected at its node, and two of them are
sent over the line. -/
def straitValues (var : VarRef) : ℚ :=
  match var.block.number, var.slot with
  | 1, 0 => 1
  | 2, 0 => 1
  | 3, 0 => 3
  | 3, 1 => 1
  | 3, 2 => 2
  | _, _ => 0

theorem Arises.supplied_eq_demanded_strait :
    let generated := (Schedule.generateObjective (Schedule.generateConstraints
      (Schedule.generateVariables strait).state).state).state
    let scaled := (Schedule.scalePlantAt 0 (.range 0 1) [.number 2] .quiet .quiet generated).state
    let updated := (Schedule.setDemand (.range 0 2) [1, .number 3] .default .quiet scaled).state
    updated.Arises (fun mode => mode.writes = true) ∧ updated.stage = .objective ∧
      updated.Numeric ∧ updated.Balanced straitValues ∧
      ∃ power : ℚ, updated.supplied straitValues 0 = .number power ∧
        updated.demanded 0 = .number power := by
  intro generated scaled updated
  have stage : updated.stage = .objective := by decide +kernel
  have numeric : updated.Numeric := by decide +kernel
  have balanced : updated.Balanced straitValues := by decide +kernel
  have built : generated.Arises fun mode => mode.writes = true :=
    arises_strait.calls [.generateVariables, .generateConstraints, .generateObjective]
      (by simp [Operation.Within])
  have arises : updated.Arises fun mode => mode.writes = true :=
    (built.step (.call (.scalePlantAt 0 (.range 0 1) [.number 2] .quiet .quiet)) rfl).step
      (.call (.setDemand (.range 0 2) [1, .number 3] .default .quiet)) rfl
  refine ⟨arises, stage, numeric, balanced, ?_⟩
  exact (supplied_eq_demanded arises (by rw [stage]; rfl) (by decide +kernel) numeric balanced 0
    (by decide +kernel)).2

/-! A network from outside this library may have no nodes at all. A schedule over it is a bus
without balances, and nothing ties what its generators supply. -/

def nowhereLine : Descriptor Exact :=
  .extension ⟨{ (DcData.bus : DcData Exact).topology with nodes := 0 }, fun group => group⟩

def nowhere : Schedule Exact :=
  { (ofHorizon ⟨0⟩ 1 : Schedule Exact) with
    nodes := 0
    plants := [{ Plant.ofData ⟨1⟩ (straitData false) with notifier := .own ⟨0⟩ }] }

theorem arises_nowhere : nowhere.Arises fun mode => mode.writes = true := by
  have start : (ofHorizon ⟨0⟩ 1 : Schedule Exact).Arises fun mode => mode.writes = true :=
    .start (.ofHorizon ⟨0⟩ 1)
  exact (start.step (.addPlant _) (arises_straitPlant ⟨1⟩ false)).setNetwork trivial
    (show Schedule.setNetwork _ nowhereLine [] 2 = (.ok nowhere, 2) from rfl)

theorem supplied_ne_demanded_nowhere :
    ¬∀ (schedule : Schedule Exact) (values : VarRef → ℚ),
      schedule.Arises (fun mode => mode.writes = true) → schedule.stage = .objective →
      schedule.Numeric → schedule.Balanced values → ∀ instant < schedule.horizon,
        ∃ power : ℚ, schedule.supplied values instant = .number power ∧
          schedule.demanded instant = .number power := by
  intro conserved
  let generated := (Schedule.generateObjective (Schedule.generateConstraints
    (Schedule.generateVariables nowhere).state).state).state
  have arises : generated.Arises fun mode => mode.writes = true :=
    arises_nowhere.calls [.generateVariables, .generateConstraints, .generateObjective]
      (by simp [Operation.Within])
  obtain ⟨power, supplied, demanded⟩ := conserved generated (fun _ => 5) arises
    (by decide +kernel) (by decide +kernel) (by decide +kernel) 0 (by decide +kernel)
  have five : generated.supplied (fun _ => 5) 0 = .number 5 := by decide +kernel
  have none : generated.demanded 0 = .number 0 := by decide +kernel
  have differ : (5 : ℚ) = 0 := Exact.number.inj
    ((five.symm.trans supplied).trans (demanded.symm.trans none))
  exact absurd differ (by decide)

end Schedule

end Dispatch
