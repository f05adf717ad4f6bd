import Dispatch.Proofs.Schedule.Assembly
import Dispatch.Proofs.Schedule.Update

namespace Dispatch.Schedule

/-! Any run of generation steps and writing updates ends with the rows, bounds and
objectives that the data of the end generate at once. -/

variable {K : Type}

/-- Nothing is generated, here or in a member. -/
structure Bare (schedule : Schedule K) : Prop where
  plants : ∀ plant ∈ schedule.plants, plant.Bare
  networks : ∀ network ∈ schedule.networks, network.Bare
  horizons : ∀ plant ∈ schedule.plants, plant.horizon = schedule.horizon
  single : schedule.isBus = true → schedule.nodes ≤ 1 ∨ schedule.horizon = 0
  stage : schedule.stage = .empty
  links : schedule.links = []
  objective : schedule.objective = none

variable [Scalar K]

theorem Bare.inStep {schedule : Schedule K} (bare : schedule.Bare) : schedule.InStep where
  members :=
    { plants := fun plant member => (bare.plants plant member).inStep
      plantStages := fun plant _ => by
        rw [bare.stage]
        exact Nat.zero_le _
      horizons := bare.horizons
      networks := fun network member => Network.inStep_of_stripped (bare.networks network member)
      networkStages := fun network _ => by
        rw [bare.stage]
        exact Nat.zero_le _
      single := bare.single }
  linked late := by
    rw [bare.stage] at late
    cases late
  unlinked _ := bare.links
  objective := by
    rw [bare.stage, bare.objective]
    rfl

/-! Generation starts with variables, and the arrays are checked after that. -/

theorem validate_stepMembers_generateVariables (schedule : Schedule K) (stage : Stage) :
    ((stepMembers Plant.generateVariables Network.generateVariables schedule).state.atStage
      stage).validate = schedule.validate := by
  have generators (plant : Plant K) :
      (Plant.generateVariables plant).state.generators = plant.generators := by
    rw [Plant.generateVariables, Plant.step_apply]
    split <;> rfl
  obtain ⟨plants, networks, stepped, same, moved⟩ := stepMembers_forall₂
    (fun before after : Plant K => after.generators = before.generators)
    (fun _ _ : Network K => True) (fun _ => rfl) (fun _ => trivial) generators
    (fun _ => trivial) schedule
  have counts : plants.map Plant.generators = schedule.plants.map Plant.generators :=
    Change.forall₂_map_eq same.flip
  have layout : SameLayout ((schedule.withMembers plants networks).atStage stage) schedule :=
    ⟨rfl, rfl, rfl, fun need => by cases need <;> rfl, rfl, counts⟩
  rw [stepped]
  exact layout.validate moved.length_eq.symm

/-- Nothing is generated of arrays that do not fit. -/
theorem Bare.validate_of_generateAll {schedule : Schedule K} (bare : schedule.Bare)
    (generated : (generateAll schedule).result = .ok ⟨⟩) : schedule.validate = .ok () := by
  obtain ⟨_, first, rest⟩ := Change.bind_accepted generated
  obtain ⟨_, second, -⟩ := Change.bind_accepted rest
  obtain ⟨-, moved⟩ := step_accepted (by rw [bare.stage]; rfl) first
  rw [generateVariables, moved] at second
  obtain ⟨built, -⟩ := step_accepted rfl second
  rw [← validate_stepMembers_generateVariables schedule .vars]
  rcases buildConstraints_cases ((stepMembers Plant.generateVariables Network.generateVariables
    schedule).state.atStage .vars) with ⟨error, refused, -⟩ | ⟨_, valid, -⟩
  · rw [refused] at built
    cases built
  · exact valid

/-! Whatever is added, attached or read before the first step, a schedule stays bare. -/

omit [Scalar K] in
theorem bare_ofHorizon (id : BlockId) (horizon : Nat) :
    (ofHorizon id horizon : Schedule K).Bare where
  plants _ member := by cases member
  networks _ member := by cases member
  horizons _ member := by cases member
  single _ := .inl (Nat.le_refl 1)
  stage := rfl
  links := rfl
  objective := rfl

omit [Scalar K] in
theorem Bare.checkOpen {schedule : Schedule K} (bare : schedule.Bare) (part : String) :
    schedule.checkOpen part = .ok () := by
  rw [Schedule.checkOpen, bare.stage]
  rfl

omit [Scalar K] in
theorem Bare.addPlant {schedule : Schedule K} (bare : schedule.Bare) {plant : Plant K}
    (new : plant.Bare) : (Schedule.addPlant plant schedule).state.Bare := by
  refine addPlant_preserves bare fun _ fits => { bare with plants := ?_, horizons := ?_ }
  · refine List.forall_mem_append.mpr ⟨bare.plants, List.forall_mem_singleton.mpr ?_⟩
    exact congrArg (fun bare : Plant K => { bare with notifier := schedule.notifier }) new
  · exact List.forall_mem_append.mpr ⟨bare.horizons, List.forall_mem_singleton.mpr fits⟩

theorem Bare.setNetwork {schedule result : Schedule K} (bare : schedule.Bare)
    {descriptor : Descriptor K} {generatorNode : List Nat} {before after : Nat}
    (created : schedule.setNetwork descriptor generatorNode before = (.ok result, after)) :
    result.Bare := by
  obtain ⟨-, networks, rfl, ⟨-, attached⟩ | ⟨single, rfl, -⟩⟩ := setNetwork_eq_ok created
  · obtain ⟨length, new⟩ := networksFor_new attached
    refine { bare with networks := fun network member => ?_, single := fun bus => .inr ?_ }
    · obtain ⟨id, rfl⟩ := new network member
      rfl
    · rw [← length]
      exact List.isEmpty_iff_length_eq_zero.mp bus
  · exact { bare with
      networks := fun network member => by cases member
      single := fun _ => .inl (Nat.le_of_not_lt single) }

omit [Scalar K] in
theorem Bare.setZoning {schedule : Schedule K} (bare : schedule.Bare) (need : Need)
    (zoning : Zoning K) : (Schedule.setZoning need zoning schedule).state.Bare :=
  whileOpen_preserves bare fun _ => by cases need <;> exact { bare with }

omit [Scalar K] in
theorem Bare.setEmissions {schedule : Schedule K} (bare : schedule.Bare)
    (emissions : Emissions K) : (Schedule.setEmissions emissions schedule).state.Bare :=
  whileOpen_preserves bare fun _ => { bare with }

theorem Bare.setNetworkConstants {schedule : Schedule K} (bare : schedule.Bare)
    (constants : List K) :
    (Schedule.setNetworkConstants constants schedule).state.Bare := by
  rw [setNetworkConstants_apply]
  split
  · refine { bare with objective := ?_ }
    change Option.map _ schedule.objective = none
    rw [bare.objective]
    rfl
  · split
    · exact bare
    · refine { bare with networks := ?_, single := ?_, objective := ?_ }
      · intro network member
        obtain ⟨instant, found⟩ := List.mem_iff_getElem?.mp member
        change (List.mapIdx _ schedule.networks)[instant]? = _ at found
        rw [List.getElem?_mapIdx] at found
        obtain ⟨earlier, there, rfl⟩ := Option.map_eq_some_iff.mp found
        have still := bare.networks earlier (List.mem_of_getElem? there)
        refine still.change (fun n => n.withConstant (constants.getD instant 0)) ?_
        rfl
      · intro bus
        refine bare.single ?_
        rw [isBus, List.isEmpty_iff_length_eq_zero] at bus ⊢
        simpa [withConstants, withNetworks] using bus
      · change Option.map _ schedule.objective = none
        rw [bare.objective]
        rfl

theorem Bare.setDemand {schedule : Schedule K} (bare : schedule.Bare) (address : Address)
    (values : List K) (physical abstract : Mode) :
    (Schedule.setDemand address values physical abstract schedule).state.Bare := by
  have early : schedule.stage.hasConstraints = false := by
    rw [bare.stage]
    rfl
  rcases setDemand_state address values physical abstract schedule with
    still | ⟨selection, -, ⟨-, moved⟩ | ⟨-, moved⟩⟩
  · rw [still]
    exact bare
  · rw [moved, withBusLevels, early, Bool.and_false, if_neg (by simp)]
    exact { bare with }
  · obtain ⟨state, related⟩ := forwardDemand_forall₂
      (fun before after => before.Bare → after.Bare) (fun _ bare => bare)
      (fun _ _ _ early late bare => late (early bare))
      (fun address values network bare => bare.setDemand address values .quiet abstract.silent)
      selection.indices
      (schedule.withDemand (selection.write schedule.demand schedule.extent 0 values))
    rw [moved, state]
    refine { bare with networks := ?_, single := ?_ }
    · intro network member
      obtain ⟨earlier, there, kept⟩ := Change.mem_of_forall₂ related member
      exact kept (bare.networks earlier there)
    · exact fun bus => bare.single ((Change.isEmpty_of_forall₂ related).symm.trans bus)

theorem bare_ofGroup_plant {group : Group} {plant : Plant Float} {before after : Nat}
    (created : Plant.ofGroup group before = (.ok plant, after)) : plant.Bare := by
  obtain ⟨data, _, _, created⟩ := Creation.bind_eq_ok created
  obtain ⟨fresh, _, opened, created⟩ := Creation.bind_eq_ok created
  obtain ⟨id, _, _, opened⟩ := Creation.bind_eq_ok opened
  cases Creation.pure_eq_ok opened
  obtain ⟨scale, _, _, created⟩ := Creation.bind_eq_ok created
  cases Creation.pure_eq_ok created
  rfl

inductive Call (K : Type)
  | generateVariables
  | generateConstraints
  | generateObjective
  | scalePlantAt (index : Nat) (address : Address) (values : List K) (physical abstract : Mode)
  | setDemand (address : Address) (values : List K) (physical abstract : Mode)
  | setNetworkConstants (constants : List K)

namespace Call

/-- An update follows through in the rows; a dry run of the data moves nothing. -/
def Writes : Call K → Prop
  | .scalePlantAt _ _ _ _ abstract => abstract.writes = true
  | .setDemand _ _ _ abstract => abstract.writes = true
  | _ => True

/-- The schedule afterwards, whether the call was refused or not. -/
def perform (schedule : Schedule K) : Call K → Schedule K
  | .generateVariables => (Schedule.generateVariables schedule).state
  | .generateConstraints => (Schedule.generateConstraints schedule).state
  | .generateObjective => (Schedule.generateObjective schedule).state
  | .scalePlantAt index address values physical abstract =>
      (Schedule.scalePlantAt index address values physical abstract schedule).state
  | .setDemand address values physical abstract =>
      (Schedule.setDemand address values physical abstract schedule).state
  | .setNetworkConstants constants => (Schedule.setNetworkConstants constants schedule).state

end Call

def play (schedule : Schedule K) (calls : List (Call K)) : Schedule K :=
  calls.foldl Call.perform schedule

theorem InStep.perform {schedule : Schedule K} (inStep : schedule.InStep) {call : Call K}
    (writes : call.Writes) : (call.perform schedule).InStep := by
  cases call with
  | generateVariables => exact inStep.generateVariables
  | generateConstraints => exact inStep.generateConstraints
  | generateObjective => exact inStep.generateObjective
  | scalePlantAt index address values physical abstract =>
      exact inStep.scalePlantAt index address values physical writes
  | setDemand address values physical abstract =>
      exact inStep.setDemand address values physical writes
  | setNetworkConstants constants => exact inStep.setNetworkConstants constants

theorem InStep.play {schedule : Schedule K} (inStep : schedule.InStep)
    {calls : List (Call K)} (writes : ∀ call ∈ calls, call.Writes) :
    (schedule.play calls).InStep := by
  induction calls generalizing schedule with
  | nil => exact inStep
  | cons call rest induction =>
      exact induction (inStep.perform (writes call (by simp)))
        fun other member => writes other (by simp [member])

/-- Updating and generating in any order is generating once from the data of the end. -/
theorem generateAll_stripped_of_play {start : Schedule K} (bare : start.Bare)
    {calls : List (Call K)} (writes : ∀ call ∈ calls, call.Writes)
    (complete : (start.play calls).stage = .objective) :
    generateAll (start.play calls).stripped = ⟨start.play calls, [], .ok ⟨⟩⟩ :=
  (bare.inStep.play writes).generateAll_stripped complete

/-- Two nodes joined by a direct line, over two instants. -/
def pairLine : Descriptor Float :=
  .dc { (DcData.bus : DcData Float) with
    nodes := 2
    start := [0]
    finish := [1]
    minFlow := [-4]
    maxFlow := [4]
    susceptance := [0] }

def pairPlant (id : BlockId) (commitment : Bool) : Plant Float :=
  .ofData id {
    generators := 1
    horizon := 2
    minPower := [1, 1]
    maxPower := [5, 6]
    linearCost := [3, 3]
    commitment := commitment
    primaryReserve := true
    secondaryReserve := false
    fixedConsumption := [0.5, 0.25]
    inertiaPower := []
    inertiaCommitment := [] }

def pair : Schedule Float :=
  { (ofHorizon ⟨0⟩ 2 : Schedule Float) with
    nodes := 2
    plants := [pairPlant ⟨1⟩ true, pairPlant ⟨2⟩ false]
    networks := [(Network.bus ⟨3⟩).attach (.shared pairLine),
      (Network.bus ⟨4⟩).attach (.shared pairLine)]
    generatorNode := [0, 1]
    primary := ⟨1, [], [2, 2]⟩
    emissions := ⟨[1], [], [9], [0.1, 0.2, 0.3, 0.4]⟩ }

/-- Scale and demand move before and after there are rows. -/
def pairCalls : List (Call Float) :=
  [.scalePlantAt 1 (.range 0 1) [2] .quiet .quiet, .generateVariables,
    .setDemand (.range 0 4) [1, 2, 3, 4] .quiet .quiet, .generateConstraints,
    .scalePlantAt 0 (.range 0 1) [3] .quiet .quiet, .generateObjective,
    .setDemand (.range 1 2) [7] .quiet .quiet, .setNetworkConstants [5, 6]]

theorem generateAll_stripped_of_play_pair :
    generateAll (pair.play pairCalls).stripped = ⟨pair.play pairCalls, [], .ok ⟨⟩⟩ := by
  have bare : pair.Bare :=
    { plants := by simp [pair, pairPlant, Plant.bare_ofData]
      networks := by
        simp [pair, (Network.bare_bus _).attach]
      horizons := by simp [pair, pairPlant, Plant.ofData, Plant.horizon, ofHorizon]
      single := by simp [pair, isBus]
      stage := rfl
      links := rfl
      objective := rfl }
  exact generateAll_stripped_of_play bare
    (by simp [pairCalls, Call.Writes, Mode.writes]) (by decide +kernel)

end Dispatch.Schedule
