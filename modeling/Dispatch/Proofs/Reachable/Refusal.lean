import Dispatch.Proofs.Reachable.Pace

namespace Dispatch

/-! What a refused generation step leaves behind in a reachable schedule: nothing, unless the
data of the networks is at fault. Then the plants have taken the step already. -/

variable {K : Type} [Scalar K]

/-- A change that the first member refuses reaches no other. -/
theorem Change.each_refused {T α : Type} {change : Nat → Change T α} {members : List T}
    {error : Error} (occupied : members ≠ [])
    (refuses : ∀ index, ∀ member ∈ members, change index member = ⟨member, [], .error error⟩) :
    each change members = ⟨members, [], .error error⟩ := by
  cases members with
  | nil => exact absurd rfl occupied
  | cons first rest => simp [each, eachFrom, refuses 0 first]

namespace Network

/-- Only injection bounds are new, which nobody sees while there are no rows. -/
def Reinjected (before after : Network K) : Prop :=
  after = { before with minInjection := after.minInjection, maxInjection := after.maxInjection }

theorem reinjected_setInjectionBounds {network : Network K}
    (bare : network.rows.injectionBounds.items = []) (minimum maximum : List K)
    (physical abstract : Mode) :
    Reinjected network (setInjectionBounds minimum maximum physical abstract network).state := by
  have rows : { network.rows.injectionBounds with items := [] } = network.rows.injectionBounds := by
    rw [← bare]
  rcases setInjectionBounds_state minimum maximum physical abstract network with still | moved
  · rw [still]
    rfl
  · rw [moved, Reinjected, Network.withInjectionBounds]
    split
    · simp only [patchInjectionBounds, rebounded, bare, List.mapIdx_nil, rows]
    · rfl

omit [Scalar K] in
theorem Reinjected.sameSite {before after : Network K} (reinjected : before.Reinjected after) :
    SameSite before after := by
  rw [reinjected]
  exact ⟨rfl, rfl, rfl, rfl⟩

theorem Reinjected.checkTopology {before after : Network K}
    (reinjected : before.Reinjected after) : after.checkTopology = before.checkTopology :=
  checkTopology_congr reinjected.sameSite.topology

omit [Scalar K] in
theorem Reinjected.model {before after : Network K} (reinjected : before.Reinjected after) :
    after.model = before.model := by
  rw [reinjected]
  rfl

end Network

theorem Plant.model_generateConstraints (plant : Plant K) :
    (Plant.generateConstraints plant).state.model.vars = plant.model.vars ∧
      (Plant.generateConstraints plant).state.model.objectives = plant.model.objectives := by
  rw [Plant.generateConstraints, step_apply]
  cases plant.stage.enter .constraints with
  | error error => exact ⟨rfl, rfl⟩
  | ok action => cases action <;> exact ⟨rfl, rfl⟩

namespace Schedule

variable {schedule : Schedule K}

/-- The plants have taken the step to constraints, which all networks refuse. -/
structure Abandoned (before after : Schedule K) (error : Error) : Prop where
  stage : before.stage = .vars
  refused : before.networks ≠ [] ∧ ∀ network ∈ before.networks,
    network.checkTopology = .error error
  plants : after.plants = before.plants.map fun plant => (Plant.generateConstraints plant).state
  networks : List.Forall₂ Network.Reinjected before.networks after.networks
  rest : after = { before with plants := after.plants, networks := after.networks }

theorem Sound.refreshInjectionBounds_bare (sound : schedule.Sound)
    (early : ∀ network ∈ schedule.networks, network.stage.hasConstraints = false)
    (abstract : Mode) :
    ∃ networks, refreshInjectionBounds abstract schedule =
        ⟨schedule.withNetworks networks, [], .ok ⟨⟩⟩ ∧
      List.Forall₂ Network.Reinjected schedule.networks networks := by
  obtain ⟨networks, refreshed, -⟩ := sound.refreshInjectionBounds_accepted abstract
  refine ⟨networks, refreshed, ?_⟩
  have bare : ∀ network ∈ schedule.networks, network.rows.injectionBounds.items = [] :=
    fun network member => List.length_eq_zero_iff.mp
      ((sound.stocked.networks network member).bounds (early network member))
  have reinjected : List.Forall₂ (fun before after : Network K =>
      before.rows.injectionBounds.items = [] → before.Reinjected after)
      schedule.networks networks :=
    refreshInjectionBounds_forall₂ (fun _ _ => rfl) (fun minimum maximum network bare =>
      Network.reinjected_setInjectionBounds bare minimum maximum .quiet abstract) refreshed
  exact ((List.forall₂_and_left _ _).mpr ⟨bare, reinjected⟩).imp fun _ _ both => both.2 both.1

/-- Where networks have variables, every balance row finds its injection. -/
theorem hasHeads_of_siblings
    (count : schedule.isBus = false → schedule.networks.length = schedule.horizon)
    {topology : Topology K} {stage : Stage}
    (siblings : ∀ network ∈ schedule.networks, network.Sibling topology stage)
    (late : stage.hasVariables = true) : schedule.HasHeads := by
  intro kind row member
  cases kind with
  | zonal need =>
      obtain ⟨instant, _, zone, _, rfl⟩ := Family.mem_table.mp member
      exact ⟨_, rfl⟩
  | budget =>
      obtain ⟨entry, _, rfl⟩ := List.mem_map.mp member
      exact ⟨_, rfl⟩
  | balance =>
      obtain ⟨instant, within, node, _, rfl⟩ := Family.mem_table.mp member
      cases bus : schedule.isBus with
      | true => exact ⟨[], by simp [linkHead, bus]⟩
      | false =>
          rw [← count bus] at within
          have found := List.getElem?_eq_getElem within
          have injection := (siblings _ (List.getElem_mem within)).injectionVar? late node
          simp [linkHead, bus, found, injection]

theorem buildConstraints_refused {refreshed stepped : Schedule K} {error : Error}
    (valid : schedule.validate = .ok ())
    (refreshes : refreshInjectionBounds .quiet schedule = ⟨refreshed, [], .ok ⟨⟩⟩)
    (steps : stepMembers Plant.generateConstraints Network.generateConstraints refreshed =
      ⟨stepped, [], .error error⟩) :
    buildConstraints schedule = ⟨stepped, [], .error error⟩ := by
  unfold buildConstraints
  rw [Change.current_bind, valid, Change.require_ok_bind, Change.bind_ok refreshes,
    Effect.after_nil, Change.bind_error steps]

omit [Scalar K] in
theorem stepMembers_refused (target : Stage) (advance : Plant K → Plant K)
    (ready : ∀ plant ∈ schedule.plants, target.predecessor.rank ≤ plant.stage.rank)
    {networkStep : Change (Network K) PUnit} {error : Error}
    (occupied : schedule.networks ≠ [])
    (refuses : ∀ network ∈ schedule.networks, networkStep network = ⟨network, [], .error error⟩) :
    stepMembers (Plant.step target advance) networkStep schedule =
      ⟨schedule.withMembers
        (schedule.plants.map fun plant => (Plant.step target advance plant).state)
        schedule.networks, [], .error error⟩ := by
  have plants : Change.each (fun _ => Plant.step target advance)
      (schedule.plants.map fun plant => plant) =
      ⟨schedule.plants.map fun plant => (Plant.step target advance plant).state, [], .ok ⟨⟩⟩ :=
    Change.each_map (fun plant => plant) _
      fun plant member => ⟨⟨⟩, Plant.step_accepted (ready plant member)⟩
  have networks : Change.each (fun _ => networkStep) schedule.networks =
      ⟨schedule.networks, [], .error error⟩ :=
    Change.each_refused occupied fun _ => refuses
  rw [List.map_id'] at plants
  unfold stepMembers onPlants onNetworks
  rw [Change.bind_apply, Change.onPart_apply, Change.onPart_apply]
  simp only [withMembers, plants, networks, Effect.after_mk, List.append_nil]

/-- Networks over one topology are accepted or refused together. -/
theorem checked_or_refused {topology : Topology K} {stage : Stage} {networks : List (Network K)}
    (siblings : ∀ network ∈ networks, network.Sibling topology stage) :
    (∀ network ∈ networks, network.checkTopology = .ok topology) ∨
      ∃ error, networks ≠ [] ∧ ∀ network ∈ networks, network.checkTopology = .error error := by
  cases networks with
  | nil => exact .inl fun network member => by cases member
  | cons first rest =>
      have attached := (siblings first (.head _)).attached
      have same (network : Network K) (member : network ∈ first :: rest) :
          network.checkTopology = first.checkTopology :=
        Network.checkTopology_congr ((siblings network member).attached.trans attached.symm)
      cases check : first.checkTopology with
      | error error =>
          exact .inr ⟨error, List.cons_ne_nil _ _, fun network member =>
            (same network member).trans check⟩
      | ok other =>
          cases (Network.checkTopology_ok check).symm.trans attached
          exact .inl fun network member => (same network member).trans check

section Building

variable {topology : Topology K} {networks : List (Network K)}
  (valid : schedule.validate = .ok ())
  (refreshes : refreshInjectionBounds .quiet schedule =
    ⟨schedule.withNetworks networks, [], .ok ⟨⟩⟩)
  (ready : ∀ plant ∈ schedule.plants, Stage.vars.rank ≤ plant.stage.rank)
  (siblings : ∀ network ∈ networks, network.Sibling topology .vars)

include valid refreshes ready siblings

theorem buildConstraints_advanced
    (count : networks.isEmpty = false → networks.length = schedule.horizon)
    (checked : ∀ network ∈ networks, network.checkTopology = .ok topology) :
    ∃ after, Schedule.buildConstraints schedule = ⟨after, [], .ok ⟨⟩⟩ ∧
      (after.atStage .constraints).Paced := by
  have stepped := stepMembers_accepted .constraints Plant.withConstraints
    (show ∀ plant ∈ (schedule.withNetworks networks).plants, _ from ready)
    fun network member =>
      ((siblings network member).generateConstraints (checked network member)).1
  have advanced := List.forall_mem_map.mpr fun network member =>
    ((siblings network member).generateConstraints (checked network member)).2
  have heads : ((schedule.withNetworks networks).withMembers
      (schedule.plants.map fun plant => (Plant.generateConstraints plant).state)
      (networks.map fun network => network.withRowsOf topology)).HasHeads := by
    refine hasHeads_of_siblings (fun several => ?_) advanced rfl
    refine List.length_map _ |>.trans (count ?_)
    rw [← several]
    exact List.isEmpty_map.symm
  have moved := paced_of_members .constraints Plant.withConstraints (fun _ => rfl) ready advanced
  exact ⟨_, buildConstraints_ok valid refreshes stepped (linksOf_ok.mpr ⟨heads, rfl⟩),
    moved.of_eq rfl rfl rfl⟩

theorem buildConstraints_abandoned {error : Error} (occupied : networks ≠ [])
    (refused : ∀ network ∈ networks, network.checkTopology = .error error) :
    Schedule.buildConstraints schedule = ⟨(schedule.withNetworks networks).withMembers
      (schedule.plants.map fun plant => (Plant.generateConstraints plant).state) networks,
      [], .error error⟩ := by
  have stepped := stepMembers_refused .constraints Plant.withConstraints
    (show ∀ plant ∈ (schedule.withNetworks networks).plants, _ from ready)
    (show (schedule.withNetworks networks).networks ≠ [] from occupied) fun network member =>
      (siblings network member).generateConstraints_refused (refused network member)
  exact buildConstraints_refused valid refreshes stepped

end Building

/-- The constraints of a schedule fail for its own data, for the data of its networks, or not
at all. -/
theorem Sound.buildConstraints_outcome (sound : schedule.Sound) (paced : schedule.Paced)
    (vars : schedule.stage = .vars) :
    (∃ error, Schedule.buildConstraints schedule = ⟨schedule, [], .error error⟩) ∨
    (∃ after error, Schedule.buildConstraints schedule = ⟨after, [], .error error⟩ ∧
      Abandoned schedule after error) ∨
    ∃ after, Schedule.buildConstraints schedule = ⟨after, [], .ok ⟨⟩⟩ ∧
      (after.atStage .constraints).Paced := by
  obtain ⟨topology, siblings⟩ := paced.networks
  have ready := paced.plants
  rw [vars] at siblings ready
  cases valid : schedule.validate with
  | error error =>
      refine .inl ⟨error, ?_⟩
      unfold Schedule.buildConstraints
      rw [Change.current_bind, valid]
      rfl
  | ok answer =>
      obtain ⟨networks, refreshes, reinjected⟩ := sound.refreshInjectionBounds_bare
        (fun network member => by rw [(siblings network member).paced]; rfl) .quiet
      have carried {property : Network K → Prop}
          (kept : ∀ before after, before.Reinjected after → property before → property after)
          (held : ∀ network ∈ schedule.networks, property network) :
          ∀ network ∈ networks, property network := by
        intro network member
        obtain ⟨before, listed, moved⟩ := Change.mem_of_forall₂ reinjected member
        exact kept before network moved (held before listed)
      have refreshed := carried (fun _ _ moved sibling => sibling.congr moved.sameSite) siblings
      rcases checked_or_refused siblings with checked | ⟨error, occupied, refused⟩
      · have count : networks.isEmpty = false → networks.length = schedule.horizon := by
          rw [← reinjected.length_eq, Change.isEmpty_of_forall₂ reinjected]
          exact sound.stocked.count
        exact .inr (.inr (buildConstraints_advanced valid refreshes ready refreshed count
          (carried (fun _ _ moved check => moved.checkTopology.trans check) checked)))
      · have others : networks ≠ [] := by
          rw [← List.length_pos_iff, ← reinjected.length_eq]
          exact List.length_pos_iff.mpr occupied
        have built := buildConstraints_abandoned valid refreshes ready refreshed others
          (carried (fun _ _ moved check => moved.checkTopology.trans check) refused)
        exact .inr (.inl ⟨_, error, built, vars, ⟨occupied, refused⟩, rfl, reinjected, rfl⟩)

theorem Sound.generateConstraints_outcome (sound : schedule.Sound) (paced : schedule.Paced) :
    (∃ error, Schedule.generateConstraints schedule = ⟨schedule, [], .error error⟩) ∨
    (∃ after error, Schedule.generateConstraints schedule = ⟨after, [], .error error⟩ ∧
      Abandoned schedule after error) ∨
    ∃ after, Schedule.generateConstraints schedule = ⟨after, [], .ok ⟨⟩⟩ ∧ after.Paced := by
  have taken := step_apply .constraints Schedule.buildConstraints schedule
  cases entered : schedule.stage.enter .constraints with
  | error error =>
      rw [entered] at taken
      exact .inl ⟨error, taken⟩
  | ok action =>
      cases action with
      | skip =>
          rw [entered] at taken
          exact .inr (.inr ⟨schedule, taken, paced⟩)
      | run =>
          rcases sound.buildConstraints_outcome paced (Stage.enter_constraints entered) with
            ⟨error, built⟩ | ⟨after, error, built, abandoned⟩ | ⟨after, built, moved⟩
          · rw [entered, built] at taken
            exact .inl ⟨error, taken⟩
          · rw [entered, built] at taken
            exact .inr (.inl ⟨after, error, taken, abandoned⟩)
          · rw [entered, built] at taken
            exact .inr (.inr ⟨_, taken, moved⟩)

namespace Abandoned

variable {before after : Schedule K} {error : Error} (abandoned : Abandoned before after error)

include abandoned

theorem paced (paced : before.Paced) : after.Paced := by
  obtain ⟨topology, siblings⟩ := paced.networks
  have ready := paced.plants
  have stage : after.stage = before.stage := by rw [abandoned.rest]
  refine ⟨fun plant member => ?_, topology, fun network member => ?_⟩
  · rw [abandoned.plants] at member
    obtain ⟨earlier, listed, rfl⟩ := List.mem_map.mp member
    rw [stage]
    exact Nat.le_trans (ready earlier listed) (Plant.Onward.generateConstraints earlier).1.stage
  · obtain ⟨earlier, listed, moved⟩ := Change.mem_of_forall₂ abandoned.networks member
    rw [stage]
    exact (siblings earlier listed).congr moved.sameSite

theorem models_networks : after.networks.map Network.model = before.networks.map Network.model := by
  have same : List.Forall₂ Eq (after.networks.map Network.model)
      (before.networks.map Network.model) :=
    List.forall₂_map_left_iff.mpr (List.forall₂_map_right_iff.mpr
      (abandoned.networks.flip.imp fun _ _ moved => Network.Reinjected.model moved))
  rwa [List.forall₂_eq_eq_eq] at same

/-- New rows of plants are all that is seen. -/
theorem model :
    after.model.stage = before.model.stage ∧ after.model.vars = before.model.vars ∧
      after.model.objectives = before.model.objectives ∧
      after.model.constraints = (before.links.flatMap fun link => link.rows.entries) ++
        (before.plants.flatMap fun plant =>
          (Plant.generateConstraints plant).state.model.constraints) ++
        before.networks.flatMap fun network => network.model.constraints := by
  have networks {α : Type} (view : Model K → List α) :
      (after.networks.flatMap fun network => view network.model) =
        before.networks.flatMap fun network => view network.model := by
    have same := congrArg (List.flatMap view) abandoned.models_networks
    rwa [List.flatMap_map, List.flatMap_map] at same
  have plants {α : Type} (view : Plant K → List α) :
      after.plants.flatMap view =
        before.plants.flatMap fun plant => view (Plant.generateConstraints plant).state := by
    rw [abandoned.plants, List.flatMap_map]
  refine ⟨?_, ?_, ?_, ?_⟩
  · rw [abandoned.rest]
    rfl
  · have same (plant : Plant K) := (Plant.model_generateConstraints plant).1
    simp only [Schedule.model, networks Model.vars, plants fun plant => plant.model.vars, same]
  · have same (plant : Plant K) := (Plant.model_generateConstraints plant).2
    have own : after.objective = before.objective := by rw [abandoned.rest]
    simp only [Schedule.model, networks Model.objectives,
      plants fun plant => plant.model.objectives, same, own]
  · have own : after.links = before.links := by rw [abandoned.rest]
    simp only [Schedule.model, networks Model.constraints,
      plants fun plant => plant.model.constraints, own]

/-- Plants that have their rows keep them. -/
theorem plants_eq (late : ∀ plant ∈ before.plants, plant.stage.hasConstraints = true) :
    after.plants = before.plants := by
  rw [abandoned.plants]
  refine (List.map_congr_left fun plant member => ?_).trans (List.map_id' _)
  have entered : plant.stage.enter .constraints = .ok .skip := if_pos (late plant member)
  rw [Plant.generateConstraints, Plant.step_apply, entered]

end Abandoned

/-- A step of generation. -/
inductive Generation
  | vars
  | constraints
  | objective

def Generation.run : Generation → Change (Schedule K) PUnit
  | .vars => generateVariables
  | .constraints => generateConstraints
  | .objective => generateObjective

theorem Sound.generation_outcome (sound : schedule.Sound) (paced : schedule.Paced)
    (step : Generation) :
    (∃ error, step.run schedule = ⟨schedule, [], .error error⟩) ∨
    (∃ after error, step = .constraints ∧ step.run schedule = ⟨after, [], .error error⟩ ∧
      Abandoned schedule after error) ∨
    ∃ after, step.run schedule = ⟨after, [], .ok ⟨⟩⟩ ∧ after.Paced := by
  cases step with
  | vars => exact .inr (.inr paced.generateVariables)
  | constraints =>
      rcases sound.generateConstraints_outcome paced with
        refused | ⟨after, error, run, abandoned⟩ | accepted
      · exact .inl refused
      · exact .inr (.inl ⟨after, error, rfl, run, abandoned⟩)
      · exact .inr (.inr accepted)
  | objective =>
      rcases paced.generateObjective with refused | accepted
      · exact .inl refused
      · exact .inr (.inr accepted)

theorem Sound.paced_generation (sound : schedule.Sound) (paced : schedule.Paced)
    (step : Generation) : (step.run schedule).state.Paced := by
  rcases sound.generation_outcome paced step with
    ⟨error, run⟩ | ⟨after, error, -, run, abandoned⟩ | ⟨after, run, moved⟩
  · rw [run]
    exact paced
  · rw [run]
    exact abandoned.paced paced
  · rw [run]
    exact moved

omit [Scalar K] in
theorem Initial.paced (initial : schedule.Initial) : schedule.Paced := by
  cases initial with
  | ofHorizon id horizon =>
      refine ⟨fun _ member => ?_, (DcData.bus : DcData K).topology, fun _ member => ?_⟩ <;>
        cases member

theorem Paced.perform (paced : schedule.Paced) (sound : schedule.Sound)
    (operation : Operation K) : (operation.perform schedule).Paced := by
  cases operation with
  | addPlant plant => exact paced.addPlant plant
  | setNetwork => exact setNetwork_preserves paced fun created => paced.setNetwork created
  | setZoning need zoning =>
      cases need <;> exact whileOpen_preserves paced fun _ => paced.of_eq rfl rfl rfl
  | setEmissions emissions => exact whileOpen_preserves paced fun _ => paced.of_eq rfl rfl rfl
  | withSettings settings => exact paced.of_eq rfl rfl rfl
  | withNotifier notifier => exact paced.withNotifier notifier
  | withData => exact whileOpen_preserves paced fun _ => paced.of_eq rfl rfl rfl
  | call step =>
      cases step with
      | generateVariables => exact sound.paced_generation paced .vars
      | generateConstraints => exact sound.paced_generation paced .constraints
      | generateObjective => exact sound.paced_generation paced .objective
      | scalePlantAt index address values physical abstract =>
          exact sound.paced_scalePlantAt paced index address values physical abstract
      | setDemand address values physical abstract =>
          exact sound.paced_setDemand paced address values physical abstract
      | setNetworkConstants constants => exact paced.setNetworkConstants constants

theorem Arises.paced {allowed : Mode → Prop} (arises : schedule.Arises allowed) :
    schedule.Paced := by
  induction arises with
  | start initial => exact initial.paced
  | step arises operation _ paced => exact paced.perform (Arises.sound arises) operation

/-- A refused step leaves a reachable schedule as it was, or it was for the constraints and the
networks refused it. -/
theorem Reachable.refused_generation {schedule : Schedule Float} (reachable : schedule.Reachable)
    {step : Generation} {error : Error} (refused : (step.run schedule).result = .error error) :
    (step.run schedule).state = schedule ∨
      step = .constraints ∧ Abandoned schedule (step.run schedule).state error := by
  rcases reachable.sound.generation_outcome reachable.arises.paced step with
    ⟨other, run⟩ | ⟨after, other, constraints, run, abandoned⟩ | ⟨after, run, -⟩
  · rw [run]
    exact .inl rfl
  · rw [run] at refused ⊢
    cases refused
    exact .inr ⟨constraints, abandoned⟩
  · rw [run] at refused
    cases refused

/-- An AC line without distribution factors. -/
def looseLine : Descriptor Float :=
  .dc { (DcData.bus : DcData Float) with
    nodes := 2
    start := [0]
    finish := [1]
    minFlow := [-10]
    maxFlow := [10]
    susceptance := [1] }

/-- One plant over such a network. -/
def stranded : Schedule Float :=
  { (ofHorizon ⟨0⟩ 2 : Schedule Float) with
    nodes := 2
    plants := [{ Plant.ofData ⟨1⟩ soloData with notifier := .own ⟨0⟩ }]
    networks := [
      { (Network.bus ⟨2⟩).attach (.shared looseLine) with notifier := .own ⟨0⟩ },
      { (Network.bus ⟨3⟩).attach (.shared looseLine) with notifier := .own ⟨0⟩ }]
    generatorNode := [0] }

theorem reachable_stranded : stranded.Reachable := by
  have start : (ofHorizon ⟨0⟩ 2 : Schedule Float).Reachable := .start (created_ofHorizon 0 2)
  have filled := start.step (.addPlant _) (.start (created_solo 1))
  exact filled.setNetwork trivial
    (show Schedule.setNetwork _ looseLine [0] 2 = (.ok stranded, 4) from rfl)

theorem refused_generation_stranded :
    let generated := (Generation.vars.run stranded).state
    (Generation.constraints.run generated).result =
        .error (.invalidTopology .noDistributionFactors) ∧
      (Generation.constraints.run generated).state ≠ generated ∧
      Abandoned generated (Generation.constraints.run generated).state
        (.invalidTopology .noDistributionFactors) := by
  intro generated
  have reachable : generated.Reachable := reachable_stranded.play [.generateVariables]
  have refused : (Generation.constraints.run generated).result =
      .error (.invalidTopology .noDistributionFactors) := by decide +kernel
  have moved : (Generation.constraints.run generated).state ≠ generated := by
    intro same
    have stages : (Generation.constraints.run generated).state.plants.map Plant.stage =
        generated.plants.map Plant.stage := by rw [same]
    exact absurd stages (by decide +kernel)
  exact ⟨refused, moved, ((reachable.refused_generation refused).resolve_left moved).2⟩

end Schedule

end Dispatch
