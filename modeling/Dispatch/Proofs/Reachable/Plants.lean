import Dispatch.Proofs.Reachable.Arising

namespace Dispatch

/-! What holds of every plant of a schedule. A schedule does few things to its plants, and
whatever these keep holds of all of them along every run, given that it held of each plant when
it was added. -/

variable {K : Type} [Scalar K]

/-- All that a schedule does to a plant keeps this. It leaves the store of the plant alone. -/
def Plant.Lasting (kept : Plant K → Prop) : Prop :=
  ∀ {plant : Plant K}, kept plant → ∀ operation : Operation K,
    operation.Edits (fun _ => False) → kept (operation.perform plant)

theorem Plant.Arises.lasting : Plant.Lasting (Plant.Arises : Plant K → Prop) :=
  fun arises operation _ => Reached.step arises operation trivial

namespace Schedule

variable {kept : Plant K → Prop} {before after schedule : Schedule K}

def EachPlant (kept : Plant K → Prop) (schedule : Schedule K) : Prop :=
  ∀ plant ∈ schedule.plants, kept plant

namespace EachPlant

omit [Scalar K] in
theorem of_eq (each : before.EachPlant kept) (plants : after.plants = before.plants) :
    after.EachPlant kept := by
  intro plant member
  rw [plants] at member
  exact each plant member

theorem addPlant (lasting : Plant.Lasting kept) (each : schedule.EachPlant kept)
    {plant : Plant K} (holds : kept plant) :
    (Schedule.addPlant plant schedule).state.EachPlant kept :=
  addPlant_preserves each fun _ _ => List.forall_mem_append.mpr
    ⟨each, List.forall_mem_singleton.mpr (lasting holds (.withNotifier schedule.notifier) trivial)⟩

theorem setNetwork (each : schedule.EachPlant kept) {result : Schedule K}
    {descriptor : Descriptor K} {generatorNode : List Nat} {earlier later : Nat}
    (created : schedule.setNetwork descriptor generatorNode earlier = (.ok result, later)) :
    result.EachPlant kept := by
  obtain ⟨-, networks, rfl, -⟩ := setNetwork_eq_ok created
  exact each

omit [Scalar K] in
theorem whileOpen (each : schedule.EachPlant kept) {part : String}
    {update : Schedule K → Schedule K} (plants : (update schedule).plants = schedule.plants) :
    (Schedule.whileOpen part update schedule).state.EachPlant kept :=
  whileOpen_preserves each fun _ => each.of_eq plants

theorem setNetworkConstants (each : schedule.EachPlant kept) (constants : List K) :
    (Schedule.setNetworkConstants constants schedule).state.EachPlant kept := by
  rw [setNetworkConstants_apply]
  split
  · exact each
  · split
    · exact each
    · exact each

theorem withNotifier (lasting : Plant.Lasting kept) (each : schedule.EachPlant kept)
    (notifier : NotifierKey) : (schedule.withNotifier notifier).EachPlant kept := by
  intro plant member
  obtain ⟨earlier, there, rfl⟩ := List.mem_map.mp member
  exact lasting (each earlier there) (.withNotifier notifier) trivial

omit [Scalar K] in
theorem stepMembers (each : schedule.EachPlant kept) {plantStep : Change (Plant K) PUnit}
    (steps : ∀ plant, kept plant → kept (plantStep plant).state)
    (networkStep : Change (Network K) PUnit) :
    (stepMembers plantStep networkStep schedule).state.EachPlant kept := by
  obtain ⟨plants, networks, stepped, moves, -⟩ := stepMembers_forall₂
    (fun before after : Plant K => kept before → kept after) (fun _ _ : Network K => True)
    (fun _ holds => holds) (fun _ => trivial) steps (fun _ => trivial) schedule
  rw [stepped]
  intro plant member
  obtain ⟨earlier, there, moved⟩ := Change.mem_of_forall₂ moves member
  exact moved (each earlier there)

omit [Scalar K] in
theorem step (each : schedule.EachPlant kept) {target : Stage}
    {advance : Change (Schedule K) PUnit} (advances : (advance schedule).state.EachPlant kept) :
    (Schedule.step target advance schedule).state.EachPlant kept :=
  step_preserves each (fun _ _ _ => advances) fun _ _ _ => advances

theorem generateVariables (lasting : Plant.Lasting kept) (each : schedule.EachPlant kept) :
    (Schedule.generateVariables schedule).state.EachPlant kept :=
  each.step (each.stepMembers (fun _ holds => lasting holds .generateVariables trivial)
    Network.generateVariables)

theorem generateConstraints (lasting : Plant.Lasting kept) (each : schedule.EachPlant kept) :
    (Schedule.generateConstraints schedule).state.EachPlant kept := by
  refine each.step ?_
  have bounded : (refreshInjectionBounds .quiet schedule).state.EachPlant kept := each
  have stepped := bounded.stepMembers
    (fun _ holds => lasting holds .generateConstraints trivial) Network.generateConstraints
  rcases buildConstraints_cases schedule with ⟨_, _, state⟩ | ⟨_, _, _, _, _, state, _⟩
  · rcases state with state | state | state
    · rw [state]
      exact each
    · rw [state]
      exact bounded
    · rw [state]
      exact stepped
  · rw [state]
    exact stepped

theorem generateObjective (lasting : Plant.Lasting kept) (each : schedule.EachPlant kept) :
    (Schedule.generateObjective schedule).state.EachPlant kept := by
  refine each.step ?_
  have stepped := each.stepMembers
    (fun _ holds => lasting holds .generateObjective trivial) Network.generateObjective
  rw [buildObjective_apply]
  dsimp only
  split
  · exact stepped
  · exact stepped

theorem scalePlantAt (lasting : Plant.Lasting kept) (each : schedule.EachPlant kept)
    (sound : schedule.Sound) (index : Nat) (address : Address) (values : List K)
    (physical abstract : Mode) :
    (Schedule.scalePlantAt index address values physical abstract schedule).state.EachPlant
      kept := by
  refine EachPlant.of_eq ?_ (sound.plants_scalePlantAt index address values physical abstract)
  rw [onPlant_apply]
  cases found : schedule.plants[index]? with
  | none => exact each
  | some plant =>
      intro other member
      rcases List.mem_or_eq_of_mem_set member with before | rfl
      · exact each other before
      · exact lasting (each plant (List.mem_of_getElem? found))
          (.setScaleAt address values physical abstract) trivial

theorem setDemand (each : schedule.EachPlant kept) (address : Address) (values : List K)
    (physical abstract : Mode) :
    (Schedule.setDemand address values physical abstract schedule).state.EachPlant kept := by
  rw [setDemand_apply]
  split
  · exact each
  · exact each
  · rw [updateDemand_apply]
    dsimp only
    split
    · exact each
    · split
      · exact each
      · split
        · unfold withBusLevels
          split <;> exact each
        · split <;> exact each

end EachPlant

/-- What each plant is when it is added and keeps afterwards, every plant is. -/
theorem EachPlant.perform (each : schedule.EachPlant kept) (lasting : Plant.Lasting kept)
    (sound : schedule.Sound) {modes : Mode → Prop} {operation : Operation K}
    (within : operation.Within kept modes) : (operation.perform schedule).EachPlant kept := by
  cases operation with
  | addPlant plant => exact each.addPlant lasting within
  | setNetwork => exact setNetwork_preserves each fun created => each.setNetwork created
  | setZoning need zoning => cases need <;> exact each.whileOpen rfl
  | setEmissions emissions => exact each.whileOpen rfl
  | withSettings settings => exact each
  | withNotifier notifier => exact each.withNotifier lasting notifier
  | withData => exact each.whileOpen rfl
  | call step =>
      cases step with
      | generateVariables => exact each.generateVariables lasting
      | generateConstraints => exact each.generateConstraints lasting
      | generateObjective => exact each.generateObjective lasting
      | scalePlantAt index address values physical abstract =>
          exact each.scalePlantAt lasting sound index address values physical abstract
      | setDemand address values physical abstract =>
          exact each.setDemand address values physical abstract
      | setNetworkConstants constants => exact each.setNetworkConstants constants

omit [Scalar K] in
theorem Initial.eachPlant (initial : schedule.Initial) : schedule.EachPlant kept := by
  cases initial with
  | ofHorizon id horizon => exact fun _ member => absurd member List.not_mem_nil

/-- The plants of a schedule come about as plants outside of schedules do. -/
theorem Arises.plants {allowed : Mode → Prop} (arises : schedule.Arises allowed) :
    schedule.EachPlant Plant.Arises := by
  induction arises with
  | start initial => exact initial.eachPlant
  | step arises operation within each =>
      exact each.perform Plant.Arises.lasting (Arises.sound arises) within

end Schedule

end Dispatch
