import Dispatch.Proofs.Reachable.Arising

namespace Dispatch

/-! What holds of every network of a schedule. Networks only move in a few ways once they are
attached, and whatever these keep holds of all of them along every run, given that it held of
each network when it was attached. -/

variable {K : Type} [Scalar K]

/-- All that a schedule does to a network keeps this, where only some modes reach the networks. -/
structure Network.Lasting (passes : Mode → Prop) (kept : Network K → Prop) : Prop where
  quiet : passes .quiet
  withNotifier : ∀ {network : Network K}, kept network → ∀ notifier, kept { network with notifier }
  withConstant : ∀ {network : Network K}, kept network → ∀ constant,
    kept (network.withConstant constant)
  generateVariables : ∀ network : Network K, kept network → kept (generateVariables network).state
  generateConstraints : ∀ network : Network K, kept network →
    kept (generateConstraints network).state
  generateObjective : ∀ network : Network K, kept network → kept (generateObjective network).state
  setDemand : ∀ {network : Network K}, kept network → ∀ address values {abstract : Mode},
    passes abstract → kept (setDemand address values .quiet abstract network).state
  setInjectionBounds : ∀ {network : Network K}, kept network → ∀ minimum maximum {abstract : Mode},
    passes abstract → kept (setInjectionBounds minimum maximum .quiet abstract network).state

namespace Schedule

variable {kept : Network K → Prop} {passes allowed : Mode → Prop}
  {before after schedule : Schedule K}

def EachNetwork (kept : Network K → Prop) (schedule : Schedule K) : Prop :=
  ∀ network ∈ schedule.networks, kept network

namespace EachNetwork

omit [Scalar K] in
theorem of_eq (each : before.EachNetwork kept) (networks : after.networks = before.networks) :
    after.EachNetwork kept := by
  intro network member
  rw [networks] at member
  exact each network member

omit [Scalar K] in
theorem moved (each : before.EachNetwork kept)
    (networks : List.Forall₂ (fun before after : Network K => kept before → kept after)
      before.networks after.networks) : after.EachNetwork kept := by
  intro network member
  obtain ⟨earlier, there, moved⟩ := Change.mem_of_forall₂ networks member
  exact moved (each earlier there)

omit [Scalar K] in
theorem addPlant (each : schedule.EachNetwork kept) (plant : Plant K) :
    (Schedule.addPlant plant schedule).state.EachNetwork kept :=
  addPlant_preserves each fun _ _ => each

omit [Scalar K] in
theorem whileOpen (each : schedule.EachNetwork kept) {part : String}
    {update : Schedule K → Schedule K}
    (networks : (update schedule).networks = schedule.networks) :
    (Schedule.whileOpen part update schedule).state.EachNetwork kept :=
  whileOpen_preserves each fun _ => each.of_eq networks

theorem setNetworkConstants (each : schedule.EachNetwork kept)
    (keeps : ∀ {network : Network K}, kept network → ∀ constant,
      kept (network.withConstant constant)) (constants : List K) :
    (Schedule.setNetworkConstants constants schedule).state.EachNetwork kept := by
  rw [setNetworkConstants_apply]
  split
  · exact each
  · split
    · exact each
    · exact each.moved (Change.mapIdx_forall₂ fun instant _ holds =>
        keeps holds (constants.getD instant 0))

theorem withNotifier (lasting : Network.Lasting passes kept) (each : schedule.EachNetwork kept)
    (notifier : NotifierKey) : (schedule.withNotifier notifier).EachNetwork kept :=
  each.moved (List.forall₂_map_right_iff.mpr
    (List.forall₂_same.mpr fun _ _ holds => lasting.withNotifier holds notifier))

omit [Scalar K] in
theorem stepMembers (each : schedule.EachNetwork kept) (plantStep : Change (Plant K) PUnit)
    {networkStep : Change (Network K) PUnit}
    (steps : ∀ network, kept network → kept (networkStep network).state) :
    (stepMembers plantStep networkStep schedule).state.EachNetwork kept := by
  obtain ⟨plants, networks, stepped, -, moves⟩ := stepMembers_forall₂ (fun _ _ : Plant K => True)
    (fun before after : Network K => kept before → kept after) (fun _ => trivial)
    (fun _ holds => holds) (fun _ => trivial) steps schedule
  rw [stepped]
  exact each.moved moves

theorem refreshed (lasting : Network.Lasting passes kept) (each : schedule.EachNetwork kept)
    {abstract : Mode} (follows : passes abstract) :
    (refreshInjectionBounds abstract schedule).state.EachNetwork kept :=
  each.moved (Change.each_forall₂ (fun _ holds => holds)
    (fun _ _ holds => lasting.setInjectionBounds holds _ _ follows) _)

theorem buildConstraints (lasting : Network.Lasting passes kept)
    (each : schedule.EachNetwork kept) : (buildConstraints schedule).state.EachNetwork kept := by
  have bounded := each.refreshed lasting lasting.quiet
  have stepped := bounded.stepMembers Plant.generateConstraints lasting.generateConstraints
  rcases buildConstraints_cases schedule with ⟨_, _, state⟩ | ⟨_, _, _, _, _, state, _⟩
  · rcases state with state | state | state
    · rw [state]
      exact each
    · rw [state]
      exact bounded
    · rw [state]
      exact stepped
  · rw [state]
    exact stepped

theorem buildObjective (lasting : Network.Lasting passes kept)
    (each : schedule.EachNetwork kept) : (buildObjective schedule).state.EachNetwork kept := by
  have stepped := each.stepMembers Plant.generateObjective lasting.generateObjective
  rw [buildObjective_apply]
  dsimp only
  split
  · exact stepped
  · exact stepped

omit [Scalar K] in
theorem step (each : schedule.EachNetwork kept) {target : Stage}
    {advance : Change (Schedule K) PUnit} (advances : (advance schedule).state.EachNetwork kept) :
    (Schedule.step target advance schedule).state.EachNetwork kept :=
  step_preserves each (fun _ _ _ => advances) fun _ _ _ => advances

theorem generateVariables (lasting : Network.Lasting passes kept)
    (each : schedule.EachNetwork kept) :
    (Schedule.generateVariables schedule).state.EachNetwork kept :=
  each.step (each.stepMembers Plant.generateVariables lasting.generateVariables)

theorem generateConstraints (lasting : Network.Lasting passes kept)
    (each : schedule.EachNetwork kept) :
    (Schedule.generateConstraints schedule).state.EachNetwork kept :=
  each.step (each.buildConstraints lasting)

theorem generateObjective (lasting : Network.Lasting passes kept)
    (each : schedule.EachNetwork kept) :
    (Schedule.generateObjective schedule).state.EachNetwork kept :=
  each.step (each.buildObjective lasting)

theorem scalePlantAt (lasting : Network.Lasting passes kept) (each : schedule.EachNetwork kept)
    (sound : schedule.Sound) (index : Nat) (address : Address) (values : List K)
    (physical : Mode) {abstract : Mode} (follows : passes abstract.silent) :
    (Schedule.scalePlantAt index address values physical abstract schedule).state.EachNetwork
      kept := by
  rcases sound.scalePlantAt_state index address values physical abstract with
    still | ⟨plant, scale, objective, found, ⟨_, moved⟩ | ⟨_, networks, refreshed, moved⟩⟩
  · rw [still]
    exact each
  · rw [moved]
    exact each
  · have scaled : (schedule.withScaled index plant scale objective).EachNetwork kept := each
    have bounded := scaled.refreshed lasting follows
    rw [refreshed] at bounded
    rw [moved]
    split
    · obtain ⟨links, patched, -⟩ := sameFrame_patchPlant index
        ((schedule.withScaled index plant scale objective).withNetworks networks)
      rw [patched]
      exact bounded
    · exact bounded

theorem setDemand (each : schedule.EachNetwork kept) {abstract : Mode}
    (keeps : ∀ {network : Network K}, kept network → ∀ address values,
      kept (Network.setDemand address values .quiet abstract.silent network).state)
    (address : Address) (values : List K) (physical : Mode) :
    (Schedule.setDemand address values physical abstract schedule).state.EachNetwork kept := by
  rcases setDemand_state address values physical abstract schedule with
    still | ⟨selection, -, ⟨-, moved⟩ | ⟨-, moved⟩⟩
  · rw [still]
    exact each
  · rw [moved, withBusLevels]
    split <;> exact each
  · obtain ⟨state, moves⟩ := forwardDemand_forall₂
      (fun before after : Network K => kept before → kept after)
      (fun _ holds => holds) (fun _ _ _ early late holds => late (early holds))
      (fun address values _ holds => keeps holds address values)
      selection.indices
      (schedule.withDemand (selection.write schedule.demand schedule.extent 0 values))
    rw [moved, state]
    exact each.moved moves

end EachNetwork

theorem eachNetwork_setNetwork {result : Schedule K} {descriptor : Descriptor K}
    (new : ∀ id notifier,
      kept { (Network.bus id).attach (.shared descriptor) with notifier })
    {generatorNode : List Nat} {before after : Nat}
    (created : schedule.setNetwork descriptor generatorNode before = (.ok result, after)) :
    result.EachNetwork kept := by
  obtain ⟨-, networks, rfl, ⟨-, attached⟩ | ⟨-, rfl, -⟩⟩ := setNetwork_eq_ok created
  · intro network member
    obtain ⟨id, rfl⟩ := (networksFor_new attached).2 network member
    exact new id schedule.notifier
  · exact fun network member => absurd member List.not_mem_nil

theorem EachNetwork.perform (each : schedule.EachNetwork kept)
    (lasting : Network.Lasting passes kept) (sound : schedule.Sound)
    (follows : ∀ mode, allowed mode → passes mode.silent)
    (new : ∀ id descriptor notifier,
      kept { (Network.bus id).attach (.shared descriptor) with notifier })
    {plants : Plant K → Prop} {operation : Operation K}
    (within : operation.Within plants allowed) :
    (operation.perform schedule).EachNetwork kept := by
  cases operation with
  | addPlant plant => exact each.addPlant plant
  | setNetwork =>
      exact setNetwork_preserves each fun created =>
        eachNetwork_setNetwork (fun id notifier => new id _ notifier) created
  | setZoning need zoning => cases need <;> exact each.whileOpen rfl
  | setEmissions emissions => exact each.whileOpen rfl
  | withSettings settings => exact each
  | withNotifier notifier => exact each.withNotifier lasting notifier
  | withData => exact each.whileOpen rfl
  | call step =>
      cases step with
      | generateVariables => exact each.generateVariables lasting
      | generateConstraints => exact each.generateConstraints lasting
      | generateObjective => exact each.generateObjective lasting
      | scalePlantAt index address values physical abstract =>
          exact each.scalePlantAt lasting sound index address values physical (follows _ within)
      | setDemand address values physical abstract =>
          exact each.setDemand (fun holds address values =>
            lasting.setDemand holds address values (follows _ within)) address values physical
      | setNetworkConstants constants =>
          exact each.setNetworkConstants lasting.withConstant constants

theorem Arises.eachNetwork (arises : schedule.Arises allowed)
    (lasting : Network.Lasting passes kept) (follows : ∀ mode, allowed mode → passes mode.silent)
    (new : ∀ id descriptor notifier,
      kept { (Network.bus id).attach (.shared descriptor) with notifier }) :
    schedule.EachNetwork kept := by
  induction arises with
  | start initial =>
      cases initial with
      | ofHorizon id horizon => exact fun _ member => absurd member List.not_mem_nil
  | step arises operation within each =>
      exact each.perform lasting (Arises.sound arises) follows new within

end Schedule

namespace Network

/-- The descriptor and the factors of its flow limits are as they were. -/
structure SameLines (before after : Network K) : Prop where
  descriptor : after.descriptor = before.descriptor
  kappa : after.kappa = before.kappa

omit [Scalar K] in
theorem SameLines.step {target : Stage} {advance : Network K → Except Error (Network K)}
    {network : Network K} (advances : ∀ result, advance network = .ok result →
      SameLines network result) : SameLines network (Network.step target advance network).state :=
  step_preserves ⟨rfl, rfl⟩ fun _ => advances

/-- No schedule moves the lines of its networks. -/
theorem Lasting.of_sameLines {kept : Network K → Prop}
    (congr : ∀ {before after : Network K}, SameLines before after → kept before → kept after) :
    Lasting Schedule.anyMode kept where
  quiet := trivial
  withNotifier holds _ := by
    refine congr ?_ holds
    exact ⟨rfl, rfl⟩
  withConstant holds _ := by
    refine congr ?_ holds
    exact ⟨rfl, rfl⟩
  generateVariables _ := congr (.step fun _ advanced => by
    cases advanced
    exact ⟨rfl, rfl⟩)
  generateConstraints _ := congr (.step fun _ advanced => by
    rw [withConstraints_ok advanced]
    exact ⟨rfl, rfl⟩)
  generateObjective _ := congr (.step fun _ advanced => by
    cases advanced
    exact ⟨rfl, rfl⟩)
  setDemand {network} holds address values abstract _ := by
    have reloaded := reloaded_setDemand address values .quiet abstract network
    refine congr ?_ holds
    rw [reloaded]
    exact ⟨rfl, rfl⟩
  setInjectionBounds {network} holds minimum maximum abstract _ := by
    have rebounded := rebounded_setInjectionBounds minimum maximum .quiet abstract network
    refine congr ?_ holds
    rw [rebounded]
    exact ⟨rfl, rfl⟩

end Network

/-- The factors of the flow limits of a network can only be set at the network itself. -/
theorem Schedule.Arises.kappa_eq_nil {schedule : Schedule K} {allowed : Mode → Prop}
    (arises : schedule.Arises allowed) {network : Network K}
    (member : network ∈ schedule.networks) : network.kappa = [] := by
  have bare : schedule.EachNetwork fun network => network.kappa = [] :=
    arises.eachNetwork (.of_sameLines fun same bare => same.kappa.trans bare)
      (fun _ _ => trivial) fun _ _ _ => rfl
  exact bare network member

end Dispatch
