import Dispatch.Proofs.Reachable.Accounted

namespace Dispatch

/-! The plants of a schedule publish where the schedule does, so whoever observes a reachable
schedule is told of every update of it, a new scale included. -/

/-- A refused update and one that is not applied leave everything as it was, so an invariant
is a matter of the applied ones. -/
theorem Accounted.preserves {S : Type} {before : S} {announced : Prop}
    {change : Change S Outcome} (accounted : Accounted (change before) before announced)
    (atomic : change.Atomic before) {Invariant : S → Prop} (held : Invariant before)
    (applied : announced → Invariant (change before).state) :
    Invariant (change before).state := by
  cases answer : (change before).result with
  | error error =>
      rw [atomic error answer]
      exact held
  | ok outcome =>
      by_cases wrote : outcome = .applied
      · subst wrote
        exact applied (accounted.applied answer)
      · rw [(accounted.still outcome answer wrote).1]
        exact held

namespace Plant

variable {K : Type} [Scalar K]

omit [Scalar K] in
theorem notifier_step {target : Stage} {advance : Plant K → Plant K} {plant : Plant K}
    (advances : (advance plant).notifier = plant.notifier) :
    (Plant.step target advance plant).state.notifier = plant.notifier := by
  rw [step_apply]
  cases plant.stage.enter target with
  | error error => rfl
  | ok action =>
      cases action with
      | skip => rfl
      | run => exact advances

theorem notifier_withVariables (plant : Plant K) :
    plant.withVariables.notifier = plant.notifier := rfl

theorem notifier_withConstraints (plant : Plant K) :
    plant.withConstraints.notifier = plant.notifier := rfl

theorem notifier_withObjective (plant : Plant K) :
    plant.withObjective.notifier = plant.notifier := rfl

end Plant

namespace Schedule

variable {K : Type} [Scalar K] {before after schedule : Schedule K}

def Published (schedule : Schedule K) : Prop :=
  ∀ plant ∈ schedule.plants, plant.notifier = schedule.notifier

/-- Nobody publishes elsewhere than before. -/
structure SameSenders (before after : Schedule K) : Prop where
  notifier : after.notifier = before.notifier
  plants : List.Forall₂ (fun before after : Plant K => after.notifier = before.notifier)
    before.plants after.plants

omit [Scalar K] in
theorem SameSenders.of_eq (notifier : after.notifier = before.notifier)
    (plants : after.plants = before.plants) : SameSenders before after :=
  ⟨notifier, plants ▸ List.forall₂_same.mpr fun _ _ => rfl⟩

omit [Scalar K] in
theorem SameSenders.trans {first second third : Schedule K} (early : SameSenders first second)
    (late : SameSenders second third) : SameSenders first third :=
  ⟨late.notifier.trans early.notifier,
    Change.forall₂_trans (fun _ _ _ same next => next.trans same) early.plants late.plants⟩

omit [Scalar K] in
theorem Published.congr (published : before.Published) (same : SameSenders before after) :
    after.Published := by
  intro plant member
  obtain ⟨earlier, listed, unmoved⟩ := Change.mem_of_forall₂ same.plants member
  rw [unmoved, same.notifier]
  exact published earlier listed

omit [Scalar K] in
theorem Published.addPlant (published : schedule.Published) (plant : Plant K) :
    (Schedule.addPlant plant schedule).state.Published :=
  addPlant_preserves published fun _ _ =>
    List.forall_mem_append.mpr ⟨published, List.forall_mem_singleton.mpr rfl⟩

theorem sameSenders_setNetwork {descriptor : Descriptor K} {generatorNode : List Nat}
    {earlier later : Nat}
    (created : before.setNetwork descriptor generatorNode earlier = (.ok after, later)) :
    SameSenders before after := by
  obtain ⟨-, networks, rfl, -⟩ := setNetwork_eq_ok created
  exact .of_eq rfl rfl

omit [Scalar K] in
theorem sameSenders_whileOpen (part : String) {update : Schedule K → Schedule K}
    (updated : SameSenders schedule (update schedule)) :
    SameSenders schedule (Schedule.whileOpen part update schedule).state :=
  whileOpen_preserves (.of_eq rfl rfl : SameSenders schedule schedule) fun _ => updated

theorem sameSenders_setNetworkConstants (constants : List K) (schedule : Schedule K) :
    SameSenders schedule (Schedule.setNetworkConstants constants schedule).state := by
  rw [setNetworkConstants_apply]
  split
  · exact .of_eq rfl rfl
  · split <;> exact .of_eq rfl rfl

omit [Scalar K] in
theorem Published.withNotifier (notifier : NotifierKey) :
    (schedule.withNotifier notifier).Published := by
  intro plant member
  obtain ⟨earlier, -, rfl⟩ := List.mem_map.mp member
  rfl

omit [Scalar K] in
theorem SameSenders.step {target : Stage} {advance : Change (Schedule K) PUnit}
    (advances : SameSenders schedule (advance schedule).state) :
    SameSenders schedule (Schedule.step target advance schedule).state := by
  rw [step_apply]
  cases schedule.stage.enter target with
  | error error => exact .of_eq rfl rfl
  | ok action =>
      cases action with
      | skip => exact .of_eq rfl rfl
      | run =>
          dsimp only
          split
          · exact advances
          · exact ⟨advances.notifier, advances.plants⟩

omit [Scalar K] in
theorem sameSenders_stepMembers (target : Stage) {advance : Plant K → Plant K}
    (advances : ∀ plant, (advance plant).notifier = plant.notifier)
    (networkStep : Change (Network K) PUnit) (schedule : Schedule K) :
    SameSenders schedule (stepMembers (Plant.step target advance) networkStep schedule).state := by
  obtain ⟨plants, networks, state, moved, -⟩ := stepMembers_forall₂
    (fun before after : Plant K => after.notifier = before.notifier) (fun _ _ => True)
    (fun _ => rfl) (fun _ => trivial) (fun plant => Plant.notifier_step (advances plant))
    (fun _ => trivial) schedule
  rw [state]
  exact ⟨rfl, moved⟩

theorem sameSenders_generateVariables (schedule : Schedule K) :
    SameSenders schedule (Schedule.generateVariables schedule).state :=
  .step (sameSenders_stepMembers .vars Plant.notifier_withVariables _ schedule)

theorem sameSenders_generateConstraints (schedule : Schedule K) :
    SameSenders schedule (Schedule.generateConstraints schedule).state := by
  have refreshed : SameSenders schedule (refreshInjectionBounds .quiet schedule).state :=
    .of_eq rfl rfl
  have stepped := refreshed.trans (sameSenders_stepMembers .constraints
    Plant.notifier_withConstraints Network.generateConstraints _)
  refine .step ?_
  rcases buildConstraints_cases schedule with ⟨_, _, state⟩ | ⟨_, _, _, _, _, state, _⟩
  · rcases state with state | state | state
    · rw [state]
      exact .of_eq rfl rfl
    · rw [state]
      exact refreshed
    · rw [state]
      exact stepped
  · rw [state]
    exact ⟨stepped.notifier, stepped.plants⟩

theorem sameSenders_generateObjective (schedule : Schedule K) :
    SameSenders schedule (Schedule.generateObjective schedule).state := by
  have stepped := sameSenders_stepMembers .objective Plant.notifier_withObjective
    Network.generateObjective schedule
  refine .step ?_
  rw [buildObjective_apply]
  dsimp only
  split
  · exact stepped
  · exact ⟨stepped.notifier, stepped.plants⟩

theorem Sound.published_scalePlantAt (sound : schedule.Sound) (published : schedule.Published)
    (index : Nat) (address : Address) (values : List K) (physical abstract : Mode) :
    (Schedule.scalePlantAt index address values physical abstract schedule).state.Published := by
  refine (sound.accounted_scalePlantAt index address values physical abstract).preserves
    (sound.allOrNothing_scalePlantAt index address values physical abstract).atomic published ?_
  rintro ⟨plant, rescaled, -, written, followed⟩ member listed
  rw [followed.rest]
  rw [followed.plants] at listed
  cases List.mem_or_eq_of_mem_set listed with
  | inl earlier => exact published member earlier
  | inr same =>
      rw [same, written.rest]
      exact published plant (List.mem_of_getElem? followed.found)

theorem Sound.published_setDemand (sound : schedule.Sound) (published : schedule.Published)
    (address : Address) (values : List K) (physical abstract : Mode) :
    (Schedule.setDemand address values physical abstract schedule).state.Published := by
  refine (sound.accounted_setDemand address values physical abstract).preserves
    (sound.update (.demand address values physical abstract)).atomic published ?_
  rintro ⟨-, written⟩
  rw [written.rest]
  exact published

theorem Published.perform (published : schedule.Published) (sound : schedule.Sound)
    (operation : Operation K) : (operation.perform schedule).Published := by
  cases operation with
  | addPlant plant => exact published.addPlant plant
  | setNetwork =>
      exact setNetwork_preserves published fun created =>
        published.congr (sameSenders_setNetwork created)
  | setZoning need zoning =>
      cases need <;> exact published.congr (sameSenders_whileOpen _ (.of_eq rfl rfl))
  | setEmissions emissions => exact published.congr (sameSenders_whileOpen _ (.of_eq rfl rfl))
  | withSettings settings => exact published
  | withNotifier notifier => exact Published.withNotifier notifier
  | withData => exact published.congr (sameSenders_whileOpen _ (.of_eq rfl rfl))
  | call step =>
      cases step with
      | generateVariables => exact published.congr (sameSenders_generateVariables _)
      | generateConstraints => exact published.congr (sameSenders_generateConstraints _)
      | generateObjective => exact published.congr (sameSenders_generateObjective _)
      | scalePlantAt index address values physical abstract =>
          exact sound.published_scalePlantAt published index address values physical abstract
      | setDemand address values physical abstract =>
          exact sound.published_setDemand published address values physical abstract
      | setNetworkConstants constants =>
          exact published.congr (sameSenders_setNetworkConstants constants _)

theorem Arises.published {allowed : Mode → Prop} (arises : schedule.Arises allowed) :
    schedule.Published := by
  induction arises with
  | start initial =>
      cases initial with
      | ofHorizon id horizon => exact fun _ member => absurd member List.not_mem_nil
  | step arises operation _ published =>
      exact published.perform (Arises.sound arises) operation

/-- What an applied update announces. -/
def Update.Announced (schedule : Schedule K) (effect : Effect (Schedule K) Outcome) :
    Update K → Prop
  | .scale index factor physical _ => ∃ plant rescaled,
      Recorded physical (.range 0 1) schedule.notifier plant.id .scale effect.notices ∧
        Plant.ScaleWritten (.range 0 1) [factor] plant rescaled ∧
        PlantWritten index schedule effect.state plant rescaled
  | .scaleAt index address values physical _ => ∃ plant rescaled,
      Recorded physical address schedule.notifier plant.id .scale effect.notices ∧
        Plant.ScaleWritten address values plant rescaled ∧
        PlantWritten index schedule effect.state plant rescaled
  | .demand address values physical _ =>
      Recorded physical address schedule.notifier schedule.id .activePowerDemand
          effect.notices ∧
        DemandWritten address values schedule effect.state

theorem Sound.announced_scalePlantAt (sound : schedule.Sound) (published : schedule.Published)
    (index : Nat) (address : Address) (values : List K) (physical abstract : Mode) :
    let effect := Schedule.scalePlantAt index address values physical abstract schedule
    Accounted effect schedule (Update.Announced schedule effect
      (.scaleAt index address values physical abstract)) := by
  refine (sound.accounted_scalePlantAt index address values physical abstract).imp ?_
  rintro ⟨plant, rescaled, recorded, written, followed⟩
  rw [published plant (List.mem_of_getElem? followed.found)] at recorded
  exact ⟨plant, rescaled, recorded, written, followed⟩

theorem Sound.accounted (sound : schedule.Sound) (published : schedule.Published)
    (update : Update K) :
    Accounted (update.run schedule) schedule
      (Update.Announced schedule (update.run schedule) update) := by
  cases update with
  | scale index factor physical abstract =>
      exact sound.announced_scalePlantAt published index (.range 0 1) [factor] physical abstract
  | scaleAt index address values physical abstract =>
      exact sound.announced_scalePlantAt published index address values physical abstract
  | demand address values physical abstract =>
      exact sound.accounted_setDemand address values physical abstract

end Schedule

/-- Every update of every reachable block that answers is accounted for. -/
theorem accounted_of_reachable :
    (∀ plant : Plant Float, plant.Reachable → ∀ update : Plant.Update Float,
      Accounted (update.run plant) plant (update.Announced plant (update.run plant))) ∧
    (∀ network : Network Float, network.Reachable → ∀ update : Network.Update Float,
      Accounted (update.run network) network
        (Network.Update.Announced network (update.run network) update)) ∧
    ∀ schedule : Schedule Float, schedule.Reachable → ∀ update : Schedule.Update Float,
      Accounted (update.run schedule) schedule
        (Schedule.Update.Announced schedule (update.run schedule) update) := by
  refine ⟨fun plant _ update => update.accounted plant,
    fun network reachable update => Network.Update.accounted reachable.sound.shaped update,
    fun schedule reachable update => reachable.sound.accounted reachable.arises.published update⟩

theorem accounted_of_reachable_duo :
    let generated := (Schedule.generateConstraints
      (Schedule.generateVariables Schedule.duo).state).state
    let update : Schedule.Update Float := .scaleAt 1 (.subset [0] false) [3] (.notify 7) .quiet
    (update.run generated).result = .ok .applied ∧
      Schedule.Update.Announced generated (update.run generated) update := by
  intro generated update
  have reachable : generated.Reachable :=
    Schedule.reachable_duo.play [.generateVariables, .generateConstraints]
  have answered : (update.run generated).result = .ok .applied := by decide +kernel
  exact ⟨answered, (accounted_of_reachable.2.2 generated reachable update).applied answered⟩

end Dispatch
