import Dispatch.Proofs.Attempt.Demand
import Dispatch.Proofs.Schedule.Operation

namespace Dispatch

/-! Schedules that a program can arrive at: assembled or read, generated and updated in any
order. All of them are sound, so that an update happens as a whole or not at all. -/

variable {K : Type} [Scalar K]

namespace Plant

theorem Kept.generateVariables (plant : Plant K) :
    Kept plant (Plant.generateVariables plant).state :=
  ⟨fun shaped => shaped.generateVariables, (Onward.generateVariables plant).1.horizon⟩

theorem Kept.generateConstraints (plant : Plant K) :
    Kept plant (Plant.generateConstraints plant).state :=
  ⟨fun shaped => shaped.generateConstraints, (Onward.generateConstraints plant).1.horizon⟩

theorem Kept.generateObjective (plant : Plant K) :
    Kept plant (Plant.generateObjective plant).state :=
  ⟨fun shaped => shaped.generateObjective, (Onward.generateObjective plant).1.horizon⟩

omit [Scalar K] in
theorem SameFrame.step {target : Stage} {advance : Plant K → Plant K} {plant : Plant K}
    (advances : SameFrame plant (advance plant)) :
    SameFrame plant (Plant.step target advance plant).state := by
  rw [step_apply]
  cases plant.stage.enter target with
  | error error => exact SameFrame.refl plant
  | ok action =>
      cases action with
      | skip => exact SameFrame.refl plant
      | run => exact advances

theorem SameFrame.generateConstraints (plant : Plant K) :
    SameFrame plant (Plant.generateConstraints plant).state :=
  SameFrame.step ⟨rfl, rfl, rfl, rfl, rfl⟩

theorem SameFrame.generateObjective (plant : Plant K) :
    SameFrame plant (Plant.generateObjective plant).state :=
  SameFrame.step ⟨rfl, rfl, rfl, rfl, rfl⟩

end Plant

namespace Network

theorem Kept.generateVariables (network : Network K) :
    Kept network (Network.generateVariables network).state :=
  ⟨fun sound => sound.generateVariables, (Onward.generateVariables network).1.extent⟩

theorem Kept.generateConstraints (network : Network K) :
    Kept network (Network.generateConstraints network).state :=
  ⟨fun sound => sound.generateConstraints, (Onward.generateConstraints network).1.extent⟩

theorem Kept.generateObjective (network : Network K) :
    Kept network (Network.generateObjective network).state :=
  ⟨fun sound => sound.generateObjective, (Onward.generateObjective network).1.extent⟩

end Network

namespace Schedule

variable {schedule : Schedule K}

omit [Scalar K] in
theorem stocked_ofHorizon (id : BlockId) (horizon : Nat) :
    (ofHorizon id horizon : Schedule K).Stocked where
  plants _ member := by cases member
  horizons _ member := by cases member
  networks _ member := by cases member
  extents _ member := by cases member
  count several := by cases several
  single _ := .inl (Nat.le_refl 1)
  demand := .inl rfl

theorem sound_ofHorizon (id : BlockId) (horizon : Nat) :
    (ofHorizon id horizon : Schedule K).Sound :=
  (stocked_ofHorizon id horizon).early rfl rfl

omit [Scalar K] in
theorem early_of_checkOpen {part : String} {answer : PUnit}
    (opened : schedule.checkOpen part = .ok answer) :
    schedule.stage.hasConstraints = false := by
  unfold checkOpen at opened
  split at opened
  · cases opened
  · rename_i bare
    exact Stage.hasConstraints_of_bare (by simpa using bare)

theorem Sound.addPlant (sound : schedule.Sound) {plant : Plant K} (shaped : plant.Shaped) :
    (Schedule.addPlant plant schedule).state.Sound := by
  have stocked := sound.stocked
  refine addPlant_preserves sound fun opened fits => ?_
  have early := early_of_checkOpen opened
  refine Stocked.early { stocked with plants := ?_, horizons := ?_ } early (sound.unlinked early)
  · exact List.forall_mem_append.mpr
      ⟨stocked.plants, List.forall_mem_singleton.mpr (shaped.congr rfl rfl)⟩
  · exact List.forall_mem_append.mpr ⟨stocked.horizons, List.forall_mem_singleton.mpr fits⟩

theorem Sound.setNetwork {result : Schedule K} (sound : schedule.Sound)
    {descriptor : Descriptor K} {generatorNode : List Nat} {before after : Nat}
    (created : schedule.setNetwork descriptor generatorNode before = (.ok result, after)) :
    result.Sound := by
  have stocked := sound.stocked
  obtain ⟨opened, networks, rfl, ⟨-, attached⟩ | ⟨single, rfl, -⟩⟩ := setNetwork_eq_ok created
  · have early := early_of_checkOpen opened
    obtain ⟨length, new⟩ := networksFor_new attached
    refine Stocked.early { stocked with
      networks := fun network member => ?_
      extents := fun network member => ?_
      count := fun _ => length
      single := fun bus => .inr ?_
      demand := .inl rfl } early (sound.unlinked early)
    · obtain ⟨id, rfl⟩ := new network member
      have fresh := (Network.sound_bus id).attach rfl (.shared descriptor)
      exact fresh.congr ⟨rfl, rfl, rfl, rfl, rfl, rfl⟩ (.inl rfl) (.inl rfl)
    · obtain ⟨id, rfl⟩ := new network member
      exact Nat.one_mul _
    · rw [← length]
      exact List.isEmpty_iff_length_eq_zero.mp bus
  · have early := early_of_checkOpen opened
    exact Stocked.early { stocked with
      networks := fun network member => by cases member
      extents := fun network member => by cases member
      count := fun several => by cases several
      single := fun _ => .inl (Nat.le_of_not_lt single)
      demand := .inl rfl } early (sound.unlinked early)

theorem Sound.whileOpen (sound : schedule.Sound) {part : String}
    {update : Schedule K → Schedule K} (stage : (update schedule).stage = schedule.stage)
    (links : (update schedule).links = schedule.links) (updated : (update schedule).Stocked) :
    (Schedule.whileOpen part update schedule).state.Sound := by
  refine whileOpen_preserves sound fun opened => ?_
  have early := early_of_checkOpen opened
  exact updated.early (by rw [stage, early]) (by rw [links, sound.unlinked early])

theorem Sound.setZoning (sound : schedule.Sound) (need : Need) (zoning : Zoning K) :
    (Schedule.setZoning need zoning schedule).state.Sound := by
  have stocked := sound.stocked
  cases need <;> exact sound.whileOpen rfl rfl { stocked with }

theorem Sound.setEmissions (sound : schedule.Sound) (emissions : Emissions K) :
    (Schedule.setEmissions emissions schedule).state.Sound := by
  have stocked := sound.stocked
  exact sound.whileOpen rfl rfl { stocked with }

theorem Sound.setNetworkConstants (sound : schedule.Sound) (constants : List K) :
    (Schedule.setNetworkConstants constants schedule).state.Sound := by
  rcases sound.setNetworkConstants_cases constants with ⟨error, refused⟩ | ⟨after, accepted, kept⟩
  · rw [refused]
    exact sound
  · rw [accepted]
    exact kept

theorem Sound.setDemand (sound : schedule.Sound) (address : Address) (values : List K)
    (physical abstract : Mode) :
    (Schedule.setDemand address values physical abstract schedule).state.Sound := by
  rcases sound.setDemand_cases address values physical abstract with
    ⟨error, refused⟩ | ⟨after, notices, outcome, accepted, kept⟩
  · rw [refused]
    exact sound
  · rw [accepted]
    exact kept

theorem Sound.scalePlantAt (sound : schedule.Sound) (index : Nat) (address : Address)
    (values : List K) (physical abstract : Mode) :
    (Schedule.scalePlantAt index address values physical abstract schedule).state.Sound := by
  rcases sound.scalePlantAt_cases index address values physical abstract with
    ⟨error, refused⟩ | ⟨after, notices, outcome, accepted, kept⟩
  · rw [refused]
    exact sound
  · rw [accepted]
    exact kept

theorem Sound.atStage (sound : schedule.Sound) {stage : Stage}
    (same : stage.hasConstraints = schedule.stage.hasConstraints) :
    (schedule.atStage stage).Sound := by
  have stocked := sound.stocked
  refine sound.moved { stocked with } (.of_eq ⟨rfl, rfl, rfl, fun need => ?_, rfl, rfl⟩ rfl) rfl
    same schedule.links_still
  cases need <;> rfl

theorem Sound.withOwnObjective (sound : schedule.Sound) :
    schedule.withOwnObjective.Sound := by
  have stocked := sound.stocked
  refine sound.moved { stocked with } (.of_eq ⟨rfl, rfl, rfl, fun need => ?_, rfl, rfl⟩ rfl) rfl
    rfl schedule.links_still
  cases need <;> rfl

theorem Sound.withSettings (sound : schedule.Sound) (settings : Option (Settings K)) :
    ({ schedule with settings } : Schedule K).Sound := by
  have stocked := sound.stocked
  refine sound.moved { stocked with } (.of_eq ⟨rfl, rfl, rfl, fun need => ?_, rfl, rfl⟩ rfl) rfl
    rfl schedule.links_still
  cases need <;> rfl

theorem Sound.withNotifier (sound : schedule.Sound) (notifier : NotifierKey) :
    (schedule.withNotifier notifier).Sound := by
  have plants : List.Forall₂ (fun before after => Plant.Kept before after ∧
      Plant.SameFrame before after) schedule.plants (schedule.withNotifier notifier).plants :=
    List.forall₂_map_right_iff.mpr (List.forall₂_same.mpr fun plant _ =>
      ⟨⟨fun shaped => shaped.congr rfl rfl, rfl⟩, rfl, rfl, rfl, rfl, rfl⟩)
  have networks : List.Forall₂ Network.Kept schedule.networks
      (schedule.withNotifier notifier).networks :=
    List.forall₂_map_right_iff.mpr (List.forall₂_same.mpr fun network _ =>
      ⟨fun still => still.congr ⟨rfl, rfl, rfl, rfl, rfl, rfl⟩ still.shaped.kappa
        still.shaped.demand, rfl⟩)
  have frames := plants.imp fun _ _ kept => kept.2
  refine sound.moved ?_ ⟨⟨rfl, rfl, rfl, fun need => ?_, rfl, generators_of_forall₂ frames⟩,
    frames⟩ (Change.isEmpty_of_forall₂ networks) rfl schedule.links_still
  · exact sound.stocked.moved (plants.imp fun _ _ kept => kept.1) networks rfl rfl
      sound.stocked.demand
  · cases need <;> rfl

theorem Sound.step (sound : schedule.Sound) {target : Stage}
    {advance : Change (Schedule K) PUnit}
    (refused : schedule.stage.enter target = .ok .run → ∀ error,
      (advance schedule).result = .error error → (advance schedule).state.Sound)
    (advances : schedule.stage.enter target = .ok .run → ∀ answer,
      (advance schedule).result = .ok answer →
        ((advance schedule).state.atStage target).Sound) :
    (Schedule.step target advance schedule).state.Sound := by
  rw [step_apply]
  cases entered : schedule.stage.enter target with
  | error error => exact sound
  | ok action =>
      cases action with
      | skip => exact sound
      | run =>
          dsimp only
          cases ran : (advance schedule).result with
          | error error => exact refused entered error ran
          | ok answer => exact advances entered answer ran

theorem Sound.generateVariables (sound : schedule.Sound) :
    (Schedule.generateVariables schedule).state.Sound := by
  have stepped : (stepMembers Plant.generateVariables Network.generateVariables
      schedule).state.Stocked ∧ (stepMembers Plant.generateVariables Network.generateVariables
      schedule).state.stage = schedule.stage ∧ (stepMembers Plant.generateVariables
      Network.generateVariables schedule).state.links = schedule.links := by
    obtain ⟨plants, networks, state, plantsKept, networksKept⟩ := stepMembers_forall₂
      Plant.Kept Network.Kept Plant.Kept.refl Network.Kept.refl Plant.Kept.generateVariables
      Network.Kept.generateVariables schedule
    rw [state]
    exact ⟨sound.stocked.moved plantsKept networksKept rfl rfl sound.stocked.demand, rfl, rfl⟩
  obtain ⟨stocked, stage, links⟩ := stepped
  have bare (entered : schedule.stage.enter .vars = .ok .run) :
      schedule.stage.hasConstraints = false := by
    rw [Stage.enter_vars entered]
    rfl
  refine sound.step (fun entered _ _ => stocked.early ?_ ?_) fun entered _ _ =>
    Stocked.early { stocked with } rfl ?_
  · rw [stage, bare entered]
  · rw [links, sound.unlinked (bare entered)]
  · exact links.trans (sound.unlinked (bare entered))

/-- A term index fits the rows that it was recorded with. -/
theorem Stocked.linked (stocked : schedule.Stocked) (placed : schedule.Placed)
    {links : List (Link K)} (linked : schedule.linksOf = .ok links) :
    ((schedule.withLinks links).atStage .constraints).Sound := by
  obtain ⟨heads, rfl⟩ := linksOf_ok.mp linked
  have layout : SameLayout ((schedule.withLinks schedule.linksNow).atStage .constraints)
      schedule := ⟨rfl, rfl, rfl, fun need => by cases need <;> rfl, rfl, rfl⟩
  refine ⟨{ stocked with }, fun _ => placed.congr layout rfl, fun _ link member => ?_,
    fun early => by cases early⟩
  obtain ⟨kind, _, rfl⟩ := List.mem_map.mp (List.mem_filter.mp member).1
  exact (fits_linkOf heads kind).congr (.of_eq layout rfl) (Link.SameFrame.refl _)

theorem Sound.buildConstraints (sound : schedule.Sound)
    (early : schedule.stage.hasConstraints = false) :
    (∀ error, (Schedule.buildConstraints schedule).result = .error error →
      (Schedule.buildConstraints schedule).state.Sound) ∧
    ∀ answer, (Schedule.buildConstraints schedule).result = .ok answer →
      ((Schedule.buildConstraints schedule).state.atStage .constraints).Sound := by
  obtain ⟨networks, refreshes, members⟩ := sound.refreshInjectionBounds_accepted .quiet
  have refreshed := sound.withNetworks members
  obtain ⟨plants, others, stepped, plantsKept, networksKept⟩ := stepMembers_forall₂
    (fun before after => Plant.Kept before after ∧ Plant.SameFrame before after) Network.Kept
    (fun plant => ⟨Plant.Kept.refl plant, Plant.SameFrame.refl plant⟩) Network.Kept.refl
    (fun plant => ⟨Plant.Kept.generateConstraints plant,
      Plant.SameFrame.generateConstraints plant⟩)
    Network.Kept.generateConstraints (schedule.withNetworks networks)
  have frames := plantsKept.imp fun _ _ kept => kept.2
  have stocked := refreshed.stocked.moved
    (show List.Forall₂ Plant.Kept (schedule.withNetworks networks).plants
      ((schedule.withNetworks networks).withMembers plants others).plants from
      plantsKept.imp fun _ _ kept => kept.1) networksKept rfl rfl refreshed.stocked.demand
  have cases := buildConstraints_cases schedule
  rw [refreshes] at cases
  dsimp only at cases
  rw [stepped] at cases
  rcases cases with ⟨error, result, state⟩ | ⟨links, valid, _, _, linked, state, result⟩
  · refine ⟨fun _ _ => ?_, fun answer accepted => ?_⟩
    · rcases state with state | state | state
      · rw [state]
        exact sound
      · rw [state]
        exact refreshed
      · rw [state]
        exact stocked.early early (sound.unlinked early)
    · rw [result] at accepted
      cases accepted
  · have layout : SameLayout ((schedule.withNetworks networks).withMembers plants others)
        schedule :=
      ⟨rfl, rfl, rfl, fun need => by cases need <;> rfl, rfl, generators_of_forall₂ frames⟩
    have isBus : ((schedule.withNetworks networks).withMembers plants others).isBus =
        schedule.isBus :=
      (Change.isEmpty_of_forall₂ networksKept).trans (Change.isEmpty_of_forall₂ members)
    have placed := (placed_of_validate valid).congr layout isBus
    refine ⟨fun error refused => ?_, fun _ _ => ?_⟩
    · rw [result] at refused
      cases refused
    · rw [state]
      exact stocked.linked placed linked

theorem Sound.generateConstraints (sound : schedule.Sound) :
    (Schedule.generateConstraints schedule).state.Sound := by
  have early (entered : schedule.stage.enter .constraints = .ok .run) :
      schedule.stage.hasConstraints = false := by
    rw [Stage.enter_constraints entered]
    rfl
  exact sound.step (fun entered => (sound.buildConstraints (early entered)).1)
    fun entered => (sound.buildConstraints (early entered)).2

theorem Sound.generateObjective (sound : schedule.Sound) :
    (Schedule.generateObjective schedule).state.Sound := by
  obtain ⟨plants, networks, stepped, plantsKept, networksKept⟩ := stepMembers_forall₂
    (fun before after => Plant.Kept before after ∧ Plant.SameFrame before after) Network.Kept
    (fun plant => ⟨Plant.Kept.refl plant, Plant.SameFrame.refl plant⟩) Network.Kept.refl
    (fun plant => ⟨Plant.Kept.generateObjective plant, Plant.SameFrame.generateObjective plant⟩)
    Network.Kept.generateObjective schedule
  have frames := plantsKept.imp fun _ _ kept => kept.2
  have stocked := sound.stocked.moved
    (show List.Forall₂ Plant.Kept schedule.plants (schedule.withMembers plants networks).plants
      from plantsKept.imp fun _ _ kept => kept.1) networksKept rfl rfl sound.stocked.demand
  have layout : SameLayout (schedule.withMembers plants networks) schedule :=
    ⟨rfl, rfl, rfl, fun need => by cases need <;> rfl, rfl, generators_of_forall₂ frames⟩
  have moved : (schedule.withMembers plants networks).Sound :=
    sound.moved stocked ⟨layout, frames⟩ (Change.isEmpty_of_forall₂ networksKept) rfl
      schedule.links_still
  have built : (buildObjective schedule).state.Sound ∧
      (buildObjective schedule).state.stage = schedule.stage := by
    rw [buildObjective_apply]
    dsimp only
    split
    · rw [stepped]
      exact ⟨moved, rfl⟩
    · rw [stepped]
      exact ⟨moved.withOwnObjective, rfl⟩
  obtain ⟨kept, stage⟩ := built
  refine sound.step (fun _ _ _ => kept) fun entered _ _ => kept.atStage ?_
  rw [stage, Stage.enter_objective entered]
  rfl

theorem Initial.sound (initial : schedule.Initial) : schedule.Sound := by
  cases initial with
  | ofHorizon id horizon => exact sound_ofHorizon id horizon

theorem Sound.call (sound : schedule.Sound) (call : Call K) : (call.perform schedule).Sound := by
  cases call with
  | generateVariables => exact sound.generateVariables
  | generateConstraints => exact sound.generateConstraints
  | generateObjective => exact sound.generateObjective
  | scalePlantAt index address values physical abstract =>
      exact sound.scalePlantAt index address values physical abstract
  | setDemand address values physical abstract =>
      exact sound.setDemand address values physical abstract
  | setNetworkConstants constants => exact sound.setNetworkConstants constants

theorem Sound.perform (sound : schedule.Sound) {allowed : Mode → Prop} {operation : Operation K}
    (within : operation.Within Plant.Arises allowed) : (operation.perform schedule).Sound := by
  have stocked := sound.stocked
  cases operation with
  | addPlant plant => exact sound.addPlant (Plant.Arises.shaped within)
  | setNetwork => exact setNetwork_preserves sound fun created => sound.setNetwork created
  | setZoning need zoning => exact sound.setZoning need zoning
  | setEmissions emissions => exact sound.setEmissions emissions
  | withSettings settings => exact sound.withSettings settings
  | withNotifier notifier => exact sound.withNotifier notifier
  | withData => exact sound.whileOpen rfl rfl { stocked with }
  | call step => exact sound.call step

theorem Arises.sound {allowed : Mode → Prop} (arises : schedule.Arises allowed) :
    schedule.Sound := by
  induction arises with
  | start initial => exact initial.sound
  | step _ operation within sound => exact sound.perform within

theorem Assembled.sound {schedule : Schedule Float} (assembled : schedule.Assembled Plant.Read) :
    schedule.Sound :=
  (assembled.arises fun _ read => read.arises).sound

theorem Reachable.sound {schedule : Schedule Float} (reachable : schedule.Reachable) :
    schedule.Sound :=
  reachable.arises.sound

end Schedule

end Dispatch
