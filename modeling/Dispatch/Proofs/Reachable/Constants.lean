import Dispatch.Proofs.Closure.Schedule
import Dispatch.Proofs.Reachable.Conservation

namespace Dispatch

/-! The constants of all objectives of a schedule. Plants have none, a network has its own term,
and a bus adds up the terms it was given. The networks hold the terms of the schedule until they
are replaced: new networks start with zero, while the schedule keeps the terms it has. -/

variable {K : Type} [Scalar K]

def constantOf (objective : Option (Objective K)) : Option K :=
  objective.map fun objective => objective.function.constant

omit [Scalar K] in
theorem constantOf_replaced (objective : Option (Objective K)) (constant : K) :
    constantOf (objective.map fun objective =>
      { objective with function := { objective.function with constant } }) =
        (constantOf objective).map fun _ => constant := by
  cases objective <;> rfl

namespace Plant

/-- The costs of the plant come without a constant. -/
def Free (plant : Plant K) : Prop :=
  ∀ objective ∈ plant.objective, objective.function.constant = 0

variable {plant : Plant K}

theorem Free.step (free : plant.Free) {target : Stage} {advance : Plant K → Plant K}
    (advances : (advance plant).Free) : (Plant.step target advance plant).state.Free :=
  step_preserves free fun _ => advances

theorem Free.generateVariables (free : plant.Free) :
    (Plant.generateVariables plant).state.Free :=
  have advances : plant.withVariables.Free := free
  free.step advances

theorem Free.generateConstraints (free : plant.Free) :
    (Plant.generateConstraints plant).state.Free :=
  have advances : plant.withConstraints.Free := free
  free.step advances

theorem Free.generateObjective (free : plant.Free) :
    (Plant.generateObjective plant).state.Free := by
  refine free.step fun objective member => ?_
  cases member
  rfl

theorem Free.withCosts (free : plant.Free) {result : Plant K}
    (patched : plant.withCosts = .ok result) : result.Free := by
  unfold Plant.withCosts at patched
  split at patched
  · cases patched
    exact free
  · rename_i objective generated
    obtain ⟨function, replaced, equality⟩ := Except.bind_eq_ok.mp patched
    cases equality
    intro other member
    cases member
    exact (LinearFunction.constant_setCoefficients replaced).trans (free objective generated)

theorem Free.setScaleAt (free : plant.Free) (address : Address) (values : List K)
    (physical abstract : Mode) :
    (Plant.setScaleAt address values physical abstract plant).state.Free := by
  rw [setScaleAt_apply]
  split
  · exact free
  · exact free
  · rw [updateScale_apply]
    dsimp only
    split
    · exact free
    · split
      · exact free
      · split
        · exact free
        · rename_i moved
          have rescaled (scale : K) : (plant.rescaled scale).Free := free
          unfold Plant.withScale at moved
          split at moved
          · exact (rescaled _).withCosts moved
          · cases moved
            exact rescaled _

theorem Free.perform (free : plant.Free) (operation : Operation K) :
    (operation.perform plant).Free := by
  cases operation with
  | withSettings settings => exact free
  | withNotifier notifier => exact free
  | editStore edit => exact free
  | generateVariables => exact free.generateVariables
  | generateConstraints => exact free.generateConstraints
  | generateObjective => exact free.generateObjective
  | setScaleAt address values physical abstract =>
      exact free.setScaleAt address values physical abstract

theorem Arises.free (arises : plant.Arises) : plant.Free := by
  induction arises with
  | start initial =>
      cases initial
      exact nofun
  | step _ operation _ free => exact free.perform operation

end Plant

namespace Network

/-- A generated objective has the term of the network. -/
def Charged (network : Network K) : Prop :=
  constantOf network.objective =
    if network.stage.hasObjective then some network.constantTerm else none

structure SameCharge (before after : Network K) : Prop where
  charged : before.Charged → after.Charged
  term : after.constantTerm = before.constantTerm

variable {before after network : Network K}

omit [Scalar K] in
theorem SameCharge.refl (network : Network K) : SameCharge network network :=
  ⟨fun charged => charged, rfl⟩

omit [Scalar K] in
theorem SameCharge.trans {first second third : Network K} (early : SameCharge first second)
    (late : SameCharge second third) : SameCharge first third :=
  ⟨fun charged => late.charged (early.charged charged), late.term.trans early.term⟩

omit [Scalar K] in
theorem SameCharge.of_eq (objective : after.objective = before.objective)
    (term : after.constantTerm = before.constantTerm)
    (stage : after.stage.hasObjective = before.stage.hasObjective) : SameCharge before after := by
  refine ⟨fun charged => ?_, term⟩
  rw [Charged, objective, term, stage]
  exact charged

omit [Scalar K] in
theorem SameCharge.step {target : Stage} {advance : Network K → Except Error (Network K)}
    (advances : network.stage.enter target = .ok .run → ∀ result,
      advance network = .ok result → SameCharge network result) :
    SameCharge network (Network.step target advance network).state :=
  step_preserves (.refl network) advances

theorem SameCharge.generateVariables (network : Network K) :
    SameCharge network (Network.generateVariables network).state :=
  SameCharge.step fun entered result advanced => by
    cases advanced
    refine .of_eq rfl rfl ?_
    rw [Stage.enter_vars entered]
    rfl

theorem SameCharge.generateConstraints (network : Network K) :
    SameCharge network (Network.generateConstraints network).state :=
  SameCharge.step fun entered result advanced => by
    have stage := Stage.enter_constraints entered
    rcases withConstraints_cases advanced with ⟨-, rfl⟩ | ⟨topology, -, -, -, rfl⟩
    · exact .of_eq rfl rfl (by rw [stage]; rfl)
    · exact .of_eq rfl rfl (by rw [stage]; rfl)

omit [Scalar K] in
theorem SameCharge.generateObjective (network : Network K) :
    SameCharge network (Network.generateObjective network).state :=
  SameCharge.step fun _ result advanced => by
    cases advanced
    exact ⟨fun _ => rfl, rfl⟩

theorem SameCharge.setDemand (address : Address) (values : List K) (physical abstract : Mode)
    (network : Network K) :
    SameCharge network (Network.setDemand address values physical abstract network).state := by
  rw [reloaded_setDemand address values physical abstract network]
  exact .of_eq rfl rfl rfl

theorem SameCharge.setInjectionBounds (minimum maximum : List K) (physical abstract : Mode)
    (network : Network K) :
    SameCharge network
      (Network.setInjectionBounds minimum maximum physical abstract network).state := by
  rw [rebounded_setInjectionBounds minimum maximum physical abstract network]
  exact .of_eq rfl rfl rfl

omit [Scalar K] in
theorem Charged.withConstant (charged : network.Charged) (constant : K) :
    (network.withConstant constant).Charged := by
  refine (constantOf_replaced network.objective constant).trans ?_
  rw [charged]
  change Option.map _ (if network.stage.hasObjective then _ else _) =
    if network.stage.hasObjective then _ else _
  split <;> rfl

theorem charged_attach (id : BlockId) (descriptor : Descriptor K) (notifier : NotifierKey) :
    let network : Network K := { (bus id).attach (.shared descriptor) with notifier }
    network.constantTerm = 0 ∧ network.Charged := by
  intro network
  have same : SameCharge (bus id) network := .of_eq rfl rfl rfl
  have charged : (bus id : Network K).Charged := rfl
  exact ⟨same.term, same.charged charged⟩

end Network

namespace Schedule

/-- Either the networks hold the terms of the schedule, or they are as new. -/
structure Charged (schedule : Schedule K) : Prop where
  plants : ∀ plant ∈ schedule.plants, plant.Free
  networks : ∀ network ∈ schedule.networks, network.Charged
  own : constantOf schedule.objective =
    if schedule.stage.hasObjective then some schedule.ownConstant else none
  terms : schedule.isBus = true ∨
    schedule.networks.map Network.constantTerm = schedule.networkConstants ∨
      ∀ network ∈ schedule.networks, network.constantTerm = 0

variable {schedule before after : Schedule K}

/-- What any call does but those that attach members, give terms or generate the objective. -/
structure SameCharge (before after : Schedule K) : Prop where
  plants : List.Forall₂ (fun before after : Plant K => before.Free → after.Free)
    before.plants after.plants
  networks : List.Forall₂ Network.SameCharge before.networks after.networks
  constants : after.networkConstants = before.networkConstants

theorem SameCharge.of_eq (plants : after.plants = before.plants)
    (networks : after.networks = before.networks)
    (constants : after.networkConstants = before.networkConstants) :
    SameCharge before after :=
  ⟨plants ▸ List.forall₂_same.mpr fun _ _ free => free,
    networks ▸ List.forall₂_same.mpr fun network _ => .refl network, constants⟩

theorem SameCharge.isBus (same : SameCharge before after) : after.isBus = before.isBus :=
  Change.isEmpty_of_forall₂ same.networks

theorem SameCharge.ownConstant (same : SameCharge before after) :
    after.ownConstant = before.ownConstant := by
  rw [Schedule.ownConstant, Schedule.ownConstant, same.isBus, same.constants]

theorem SameCharge.map_term (same : SameCharge before after) :
    after.networks.map Network.constantTerm = before.networks.map Network.constantTerm := by
  refine (Change.forall₂_map_eq (same.networks.imp fun _ _ moved => ?_)).symm
  exact moved.term.symm

theorem Charged.moves (charged : before.Charged) (same : SameCharge before after)
    (own : constantOf after.objective =
      if after.stage.hasObjective then some after.ownConstant else none) : after.Charged where
  plants plant member := by
    obtain ⟨earlier, listed, kept⟩ := Change.mem_of_forall₂ same.plants member
    exact kept (charged.plants earlier listed)
  networks network member := by
    obtain ⟨earlier, listed, moved⟩ := Change.mem_of_forall₂ same.networks member
    exact moved.charged (charged.networks earlier listed)
  own := own
  terms := by
    rw [same.isBus, same.map_term, same.constants]
    refine charged.terms.imp_right (Or.imp_right fun new network member => ?_)
    obtain ⟨earlier, listed, moved⟩ := Change.mem_of_forall₂ same.networks member
    exact moved.term.trans (new earlier listed)

/-- The objective of the schedule and the step it has reached are as they were. -/
theorem Charged.still (charged : before.Charged) (same : SameCharge before after)
    (objective : after.objective = before.objective)
    (stage : after.stage.hasObjective = before.stage.hasObjective) : after.Charged := by
  refine charged.moves same ?_
  rw [objective, stage, same.ownConstant]
  exact charged.own

theorem sameCharge_stepMembers {plantStep : Change (Plant K) PUnit}
    {networkStep : Change (Network K) PUnit}
    (plantSteps : ∀ plant : Plant K, plant.Free → (plantStep plant).state.Free)
    (networkSteps : ∀ network, Network.SameCharge network (networkStep network).state)
    (schedule : Schedule K) :
    ∃ plants networks, (stepMembers plantStep networkStep schedule).state =
        schedule.withMembers plants networks ∧
      SameCharge schedule (schedule.withMembers plants networks) := by
  obtain ⟨plants, networks, state, free, charged⟩ := stepMembers_forall₂
    (fun before after => before.Free → after.Free) Network.SameCharge (fun _ free => free)
    Network.SameCharge.refl plantSteps networkSteps schedule
  exact ⟨plants, networks, state, free, charged, rfl⟩

theorem sameCharge_refreshInjectionBounds (abstract : Mode) (schedule : Schedule K) :
    ∃ networks, (refreshInjectionBounds abstract schedule).state =
        schedule.withNetworks networks ∧
      SameCharge schedule (schedule.withNetworks networks) := by
  rw [refreshInjectionBounds_apply]
  exact ⟨_, rfl, List.forall₂_same.mpr fun _ _ free => free,
    Change.each_forall₂ Network.SameCharge.refl (fun _ network =>
      .setInjectionBounds _ _ .quiet abstract network) _, rfl⟩

theorem Charged.refreshInjectionBounds (charged : schedule.Charged) (abstract : Mode) :
    (refreshInjectionBounds abstract schedule).state.Charged := by
  obtain ⟨networks, state, same⟩ := sameCharge_refreshInjectionBounds abstract schedule
  rw [state]
  exact charged.still same rfl rfl

/-- A step before the last one leaves the objective to be generated. -/
theorem Charged.atStage (charged : schedule.Charged) {stage : Stage}
    (same : stage.hasObjective = schedule.stage.hasObjective) :
    (schedule.atStage stage).Charged :=
  charged.still (.of_eq rfl rfl rfl) rfl same

theorem Charged.withLinks (charged : schedule.Charged) (links : List (Link K)) :
    (schedule.withLinks links).Charged :=
  charged.still (.of_eq rfl rfl rfl) rfl rfl

theorem Charged.generateVariables (charged : schedule.Charged) :
    (Schedule.generateVariables schedule).state.Charged := by
  obtain ⟨plants, networks, state, same⟩ := sameCharge_stepMembers
    (fun _ => Plant.Free.generateVariables) Network.SameCharge.generateVariables schedule
  have stepped : (schedule.withMembers plants networks).Charged := charged.still same rfl rfl
  refine step_preserves charged (fun _ _ _ => ?_) fun entered _ _ => ?_
  · rw [state]
    exact stepped
  · rw [state]
    refine stepped.atStage ?_
    change Stage.vars.hasObjective = schedule.stage.hasObjective
    rw [Stage.enter_vars entered]
    rfl

theorem Charged.generateConstraints (charged : schedule.Charged) :
    (Schedule.generateConstraints schedule).state.Charged := by
  obtain ⟨bounded, refresh, rebound⟩ := sameCharge_refreshInjectionBounds .quiet schedule
  obtain ⟨plants, networks, step, same⟩ := sameCharge_stepMembers
    (fun _ => Plant.Free.generateConstraints) Network.SameCharge.generateConstraints
    (schedule.withNetworks bounded)
  have refreshed : (schedule.withNetworks bounded).Charged := charged.still rebound rfl rfl
  have stepped : ((schedule.withNetworks bounded).withMembers plants networks).Charged :=
    refreshed.still same rfl rfl
  have cases := buildConstraints_cases schedule
  dsimp only at cases
  rw [refresh, step] at cases
  refine step_preserves charged (fun _ error refused => ?_) fun entered answer accepted => ?_
  · rcases cases with ⟨_, _, untouched | atBounds | atStep⟩ | ⟨_, _, _, _, _, _, done⟩
    · rw [untouched]
      exact charged
    · rw [atBounds]
      exact refreshed
    · rw [atStep]
      exact stepped
    · rw [refused] at done
      cases done
  · rcases cases with ⟨_, failed, _⟩ | ⟨links, _, _, _, _, state, _⟩
    · rw [accepted] at failed
      cases failed
    · rw [state]
      refine (stepped.withLinks links).atStage ?_
      change Stage.constraints.hasObjective = schedule.stage.hasObjective
      rw [Stage.enter_constraints entered]
      rfl

theorem Charged.generateObjective (charged : schedule.Charged) :
    (Schedule.generateObjective schedule).state.Charged := by
  obtain ⟨plants, networks, state, same⟩ := sameCharge_stepMembers
    (fun _ => Plant.Free.generateObjective) Network.SameCharge.generateObjective schedule
  have applied := buildObjective_apply schedule
  dsimp only at applied
  rw [state] at applied
  refine step_preserves charged (fun _ error refused => ?_) fun _ answer accepted => ?_
  · rw [applied] at refused ⊢
    split at refused
    · exact charged.still same rfl rfl
    · cases refused
  · rw [applied] at accepted ⊢
    split at accepted
    · cases accepted
    · exact charged.moves ⟨same.plants, same.networks, same.constants⟩ rfl

theorem charged_ofHorizon (id : BlockId) (horizon : Nat) :
    (ofHorizon id horizon : Schedule K).Charged where
  plants _ member := by cases member
  networks _ member := by cases member
  own := rfl
  terms := .inl rfl

theorem Charged.addPlant (charged : schedule.Charged) {plant : Plant K} (free : plant.Free) :
    (Schedule.addPlant plant schedule).state.Charged := by
  refine addPlant_preserves charged fun _ _ => { charged with plants := ?_ }
  exact List.forall_mem_append.mpr ⟨charged.plants, List.forall_mem_singleton.mpr free⟩

/-- New networks start without a term, whatever terms the schedule keeps. -/
theorem setNetwork_forgets {result : Schedule K} {descriptor : Descriptor K}
    {generatorNode : List Nat} {before after : Nat}
    (created : schedule.setNetwork descriptor generatorNode before = (.ok result, after)) :
    (∀ network ∈ result.networks, network.constantTerm = 0 ∧ network.Charged) ∧
      result.networkConstants = schedule.networkConstants := by
  obtain ⟨-, networks, rfl, ⟨-, attached⟩ | ⟨-, rfl, -⟩⟩ := setNetwork_eq_ok created
  · refine ⟨fun network member => ?_, rfl⟩
    obtain ⟨id, rfl⟩ := (networksFor_new attached).2 network member
    exact Network.charged_attach id descriptor schedule.notifier
  · exact ⟨fun network member => (List.not_mem_nil member).elim, rfl⟩

theorem Charged.setNetwork (charged : schedule.Charged) {result : Schedule K}
    {descriptor : Descriptor K} {generatorNode : List Nat} {before after : Nat}
    (created : schedule.setNetwork descriptor generatorNode before = (.ok result, after)) :
    result.Charged := by
  obtain ⟨new, -⟩ := setNetwork_forgets created
  obtain ⟨opened, networks, rfl, -⟩ := setNetwork_eq_ok created
  have stage := empty_of_checkOpen opened
  have own := charged.own
  rw [stage] at own
  refine ⟨charged.plants, fun network member => (new network member).2, ?_,
    .inr (.inr fun network member => (new network member).1)⟩
  change constantOf schedule.objective = if schedule.stage.hasObjective then _ else _
  rw [stage]
  exact own

theorem own_withConstants (constants : List K)
    (generated : (constantOf schedule.objective).isSome = schedule.stage.hasObjective) :
    constantOf (schedule.withConstants constants).objective =
      if schedule.stage.hasObjective then some (schedule.withConstants constants).ownConstant
      else none := by
  refine (constantOf_replaced schedule.objective _).trans ?_
  rw [← generated]
  cases constantOf schedule.objective <;> rfl

omit [Scalar K] in
theorem isSome_ite {given : Bool} {value : K} :
    (if given then some value else none).isSome = given := by
  cases given <;> rfl

theorem map_term_withConstant (networks : List (Network K)) {constants : List K}
    (fits : constants.length = networks.length) :
    (networks.mapIdx fun instant network =>
      network.withConstant (constants.getD instant 0)).map Network.constantTerm = constants := by
  refine List.ext_getElem (by simp [fits]) fun instant _ instant_lt => ?_
  simp [Network.withConstant, instant_lt]

theorem Charged.setNetworkConstants (charged : schedule.Charged) (constants : List K) :
    (Schedule.setNetworkConstants constants schedule).state.Charged := by
  have generated := (congrArg Option.isSome charged.own).trans isSome_ite
  rw [setNetworkConstants_apply]
  split
  · rename_i bus
    exact ⟨charged.plants, charged.networks, own_withConstants constants generated, .inl bus⟩
  · split
    · exact charged
    · rename_i fits
      refine ⟨charged.plants, fun network member => ?_, own_withConstants constants generated,
        .inr (.inl (map_term_withConstant schedule.networks (not_not.mp fits)))⟩
      obtain ⟨instant, instant_lt, rfl⟩ := List.mem_mapIdx.mp member
      exact (charged.networks _ (List.getElem_mem instant_lt)).withConstant _

/-- Terms that are accepted stand in the networks, unless there are none. -/
theorem setNetworkConstants_terms {constants : List K} {answer : PUnit}
    (accepted : (Schedule.setNetworkConstants constants schedule).result = .ok answer) :
    let after := (Schedule.setNetworkConstants constants schedule).state
    after.stage = schedule.stage ∧ after.networkConstants = constants ∧
      (after.isBus = true ∨ after.networks.map Network.constantTerm = constants) := by
  have applied := setNetworkConstants_apply constants schedule
  dsimp only
  split at applied
  · rename_i bus
    rw [applied]
    exact ⟨rfl, rfl, .inl bus⟩
  · split at applied
    · rw [applied] at accepted
      cases accepted
    · rename_i fits
      rw [applied]
      exact ⟨rfl, rfl, .inr (map_term_withConstant schedule.networks (not_not.mp fits))⟩

theorem Charged.withNotifier (charged : schedule.Charged) (notifier : NotifierKey) :
    (schedule.withNotifier notifier).Charged := by
  refine charged.still ⟨?_, ?_, rfl⟩ rfl rfl
  · exact List.forall₂_map_right_iff.mpr (List.forall₂_same.mpr fun _ _ free => free)
  · exact List.forall₂_map_right_iff.mpr (List.forall₂_same.mpr fun _ _ => .of_eq rfl rfl rfl)

theorem Charged.patchPlant (charged : schedule.Charged) (index : Nat) :
    (patchPlant index schedule).state.Charged := by
  obtain ⟨links, state, -⟩ := sameFrame_patchPlant index schedule
  rw [state]
  exact charged.withLinks links

theorem Charged.afterScale (charged : schedule.Charged) (index : Nat) (outcome : Outcome)
    (abstract : Mode) : (Schedule.afterScale index outcome abstract schedule).state.Charged := by
  rw [afterScale_apply]
  split
  · exact charged
  · have refreshed := charged.refreshInjectionBounds abstract.silent
    refine Change.state_bind Charged refreshed fun _ => ?_
    split
    · have patched := refreshed.patchPlant index
      exact Change.state_bind Charged patched fun _ => patched
    · exact refreshed

theorem Charged.scalePlantAt (charged : schedule.Charged) (index : Nat) (address : Address)
    (values : List K) (physical abstract : Mode) :
    (Schedule.scalePlantAt index address values physical abstract schedule).state.Charged := by
  have rescaled : (onPlant index (Plant.setScaleAt address values physical abstract)
      schedule).state.Charged := by
    rw [onPlant_apply]
    cases found : schedule.plants[index]? with
    | none => exact charged
    | some plant =>
        refine charged.still ⟨?_, List.forall₂_same.mpr fun network _ => .refl network, rfl⟩
          rfl rfl
        exact Change.set_forall₂ (fun _ free => free) found fun free =>
          free.setScaleAt address values physical abstract
  exact Change.state_bind Charged rescaled fun outcome =>
    rescaled.afterScale index outcome abstract

theorem Charged.setDemand (charged : schedule.Charged) (address : Address) (values : List K)
    (physical abstract : Mode) :
    (Schedule.setDemand address values physical abstract schedule).state.Charged := by
  rcases setDemand_state address values physical abstract schedule with
    still | ⟨selection, -, ⟨-, moved⟩ | ⟨-, moved⟩⟩
  · rw [still]
    exact charged
  · rw [moved]
    unfold withBusLevels
    split <;> exact charged.still (.of_eq rfl rfl rfl) rfl rfl
  · obtain ⟨state, follow⟩ := forwardDemand_forall₂ Network.SameCharge Network.SameCharge.refl
      (fun _ _ _ => .trans) (fun address values network =>
        .setDemand address values .quiet abstract.silent network)
      selection.indices (schedule.withDemand
        (selection.write schedule.demand schedule.extent 0 values))
    rw [moved, state]
    exact charged.still ⟨List.forall₂_same.mpr fun _ _ free => free, follow, rfl⟩ rfl rfl

variable {allowed : Mode → Prop}

theorem Charged.perform (charged : schedule.Charged) {operation : Operation K}
    (within : operation.Within Plant.Arises allowed) : (operation.perform schedule).Charged := by
  cases operation with
  | addPlant plant => exact charged.addPlant (Plant.Arises.free within)
  | setNetwork => exact setNetwork_preserves charged fun created => charged.setNetwork created
  | setZoning need zoning =>
      cases need <;>
        exact whileOpen_preserves charged fun _ => charged.still (.of_eq rfl rfl rfl) rfl rfl
  | setEmissions emissions =>
      exact whileOpen_preserves charged fun _ => charged.still (.of_eq rfl rfl rfl) rfl rfl
  | withSettings settings => exact charged.still (.of_eq rfl rfl rfl) rfl rfl
  | withNotifier notifier => exact charged.withNotifier notifier
  | withData =>
      exact whileOpen_preserves charged fun _ => charged.still (.of_eq rfl rfl rfl) rfl rfl
  | call step =>
      cases step with
      | generateVariables => exact charged.generateVariables
      | generateConstraints => exact charged.generateConstraints
      | generateObjective => exact charged.generateObjective
      | scalePlantAt index address values physical abstract =>
          exact charged.scalePlantAt index address values physical abstract
      | setDemand address values physical abstract =>
          exact charged.setDemand address values physical abstract
      | setNetworkConstants constants => exact charged.setNetworkConstants constants

theorem Arises.charged (arises : schedule.Arises allowed) : schedule.Charged := by
  induction arises with
  | start initial =>
      cases initial with
      | ofHorizon id horizon => exact charged_ofHorizon id horizon
  | step _ operation within charged => exact charged.perform within

end Schedule

namespace Schedule

variable {schedule : Schedule Exact} {allowed : Mode → Prop}

/-- The constants of all objectives. -/
def charges (schedule : Schedule Exact) : List Exact :=
  schedule.model.objectives.map fun objective => objective.function.constant

theorem sum_constants (objective : Option (Objective Exact)) :
    (objective.toList.map fun objective => objective.function.constant).sum =
      (constantOf objective).getD 0 := by
  cases objective <;> simp [constantOf]

theorem sum_plant_constants (free : ∀ plant ∈ schedule.plants, plant.Free) :
    ((schedule.plants.flatMap fun plant => plant.model.objectives).map fun objective =>
      objective.function.constant).sum = 0 := by
  rw [sum_map_flatMap]
  refine List.sum_eq_zero (List.forall_mem_map.mpr fun plant member => ?_)
  refine (sum_constants plant.objective).trans ?_
  cases generated : plant.objective with
  | none => rfl
  | some objective => exact free plant member objective generated

theorem sum_network_constants (charged : ∀ network ∈ schedule.networks, network.Charged)
    (late : ∀ network ∈ schedule.networks, network.stage = .objective) :
    ((schedule.networks.flatMap fun network => network.model.objectives).map fun objective =>
      objective.function.constant).sum = (schedule.networks.map Network.constantTerm).sum := by
  rw [sum_map_flatMap]
  refine congrArg List.sum (List.map_congr_left fun network member => ?_)
  refine (sum_constants network.objective).trans ?_
  rw [charged network member, late network member]
  rfl

/-- All constants together: what a bus adds up itself, and the terms of the networks. -/
theorem Arises.sum_charges (arises : schedule.Arises allowed)
    (late : schedule.stage = .objective) :
    schedule.charges.sum =
      schedule.ownConstant + (schedule.networks.map Network.constantTerm).sum := by
  have charged := arises.charged
  obtain ⟨topology, siblings⟩ := arises.paced.networks
  have stages (network : Network Exact) (member : network ∈ schedule.networks) :
      network.stage = .objective := (siblings network member).paced.trans late
  rw [charges, model, List.map_append, List.map_append, List.sum_append, List.sum_append,
    sum_plant_constants charged.plants, sum_network_constants charged.networks stages, add_zero,
    sum_constants, charged.own, late]
  rfl

theorem sum_terms (terms : schedule.isBus = true ∨
    schedule.networks.map Network.constantTerm = schedule.networkConstants) :
    schedule.ownConstant + (schedule.networks.map Network.constantTerm).sum =
      schedule.networkConstants.sum := by
  cases bus : schedule.isBus with
  | true =>
      rw [ownConstant, if_pos bus, List.isEmpty_iff.mp bus, Exact.scalarSum_eq]
      exact add_zero _
  | false =>
      rw [ownConstant, if_neg (by rw [bus]; exact Bool.false_ne_true),
        terms.resolve_left (by rw [bus]; exact Bool.false_ne_true), zero_add]

/-- Once the objective is there, the constants add up to the stored terms, or to nothing: the
networks have replaced others, or a bus, that the terms were given to. -/
theorem Arises.charges_cases (arises : schedule.Arises allowed)
    (late : schedule.stage = .objective) :
    schedule.charges.sum = schedule.networkConstants.sum ∨
      schedule.isBus = false ∧ schedule.charges.sum = 0 := by
  rw [arises.sum_charges late]
  cases bus : schedule.isBus with
  | true => exact .inl (sum_terms (.inl bus))
  | false =>
      rcases arises.charged.terms with single | held | new
      · exact .inl (sum_terms (.inl single))
      · exact .inl (sum_terms (.inr held))
      · refine .inr ⟨rfl, ?_⟩
        rw [ownConstant, if_neg (by rw [bus]; exact Bool.false_ne_true), zero_add]
        exact List.sum_eq_zero (List.forall_mem_map.mpr new)

/-- A bus is given five as its term and then becomes a network of two nodes. -/
theorem charges_replaced_strait :
    let replaced : Schedule Exact := { strait with networkConstants := [.number 5] }
    let generated := (Schedule.generateObjective (Schedule.generateConstraints
      (Schedule.generateVariables replaced).state).state).state
    generated.Arises anyMode ∧ generated.stage = .objective ∧
      generated.networkConstants.sum = .number 5 ∧ generated.charges.sum = 0 := by
  intro replaced generated
  have empty : (ofHorizon ⟨0⟩ 1 : Schedule Exact).Arises anyMode := .start (.ofHorizon ⟨0⟩ 1)
  have peopled := (empty.step (.addPlant _) (arises_straitPlant ⟨1⟩ true)).step (.addPlant _)
    (arises_straitPlant ⟨2⟩ false)
  have charged := peopled.step (.call (.setNetworkConstants [.number 5])) trivial
  have arises : replaced.Arises anyMode := charged.setNetwork trivial
    (show Schedule.setNetwork _ straitLine [0, 1] 3 = (.ok replaced, 4) from rfl)
  refine ⟨arises.calls [.generateVariables, .generateConstraints, .generateObjective]
    fun call _ => call.within Plant.Arises, ?_, ?_, ?_⟩
  · decide +kernel
  · decide +kernel
  · decide +kernel

/-- Terms that are given after the network count in full. -/
theorem Arises.charges_setNetworkConstants (arises : schedule.Arises allowed)
    (late : schedule.stage = .objective) {constants : List Exact} {answer : PUnit}
    (accepted : (Schedule.setNetworkConstants constants schedule).result = .ok answer) :
    (Schedule.setNetworkConstants constants schedule).state.charges.sum = constants.sum := by
  obtain ⟨stage, stored, terms⟩ := setNetworkConstants_terms accepted
  have arises : (Schedule.setNetworkConstants constants schedule).state.Arises allowed :=
    Reached.step arises (.call (.setNetworkConstants constants)) trivial
  rw [arises.sum_charges (stage.trans late),
    sum_terms (terms.imp_right fun held => held.trans stored.symm), stored]

end Schedule

end Dispatch
