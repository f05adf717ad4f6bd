import Dispatch.Proofs.Reachable.Refusal

namespace Dispatch

/-! What invariants of plants and schedules have to survive: a step is refused, fails with what it
leaves or is taken, and a new scale is followed in the bounds and the rows. -/

variable {K : Type} [Scalar K]

namespace Plant

variable {plant : Plant K}

/-- With variables, there is a power for every generator and instant, and a commitment where
the plant is committed. -/
def Gridded (plant : Plant K) : Prop :=
  plant.stage.hasVariables = true →
    plant.activePower.size = plant.generators * plant.horizon ∧
      plant.commitment.size =
        if plant.data.commitment then plant.generators * plant.horizon else 0

omit [Scalar K] in
theorem Gridded.congr {before after : Plant K} (gridded : before.Gridded)
    (frame : SameFrame before after)
    (stage : after.stage.hasVariables = true → before.stage.hasVariables = true) :
    after.Gridded := by
  intro late
  have sizes := gridded (stage late)
  unfold generators horizon at sizes ⊢
  rw [frame.activePower, frame.commitment, frame.data]
  exact sizes

theorem gridded_withVariables (plant : Plant K) : plant.withVariables.Gridded := by
  intro _
  refine ⟨rfl, ?_⟩
  change (addGridIf _ plant.data.commitment _ _ _).2.size = if plant.data.commitment then _ else _
  cases plant.data.commitment <;> rfl

omit [Scalar K] in
theorem Gridded.step (gridded : plant.Gridded) {target : Stage} {advance : Plant K → Plant K}
    (advances : plant.stage.enter target = .ok .run → (advance plant).Gridded) :
    (Plant.step target advance plant).state.Gridded :=
  step_preserves gridded advances

theorem Gridded.generateVariables (gridded : plant.Gridded) :
    (Plant.generateVariables plant).state.Gridded :=
  gridded.step fun _ => gridded_withVariables plant

theorem Gridded.generateConstraints (gridded : plant.Gridded) :
    (Plant.generateConstraints plant).state.Gridded :=
  gridded.step fun entered => gridded.congr ⟨rfl, rfl, rfl, rfl, rfl⟩ fun _ => by
    rw [Stage.enter_constraints entered]
    rfl

theorem Gridded.generateObjective (gridded : plant.Gridded) :
    (Plant.generateObjective plant).state.Gridded :=
  gridded.step fun entered => gridded.congr ⟨rfl, rfl, rfl, rfl, rfl⟩ fun _ => by
    rw [Stage.enter_objective entered]
    rfl

theorem Gridded.setScaleAt (gridded : plant.Gridded) (address : Address) (values : List K)
    (physical abstract : Mode) :
    (Plant.setScaleAt address values physical abstract plant).state.Gridded := by
  obtain ⟨scale, objective, rest⟩ := rest_setScaleAt address values physical abstract plant
  rw [rest]
  exact gridded

theorem Gridded.perform (gridded : plant.Gridded) (operation : Operation K) :
    (operation.perform plant).Gridded := by
  cases operation with
  | withSettings settings => exact gridded
  | withNotifier notifier => exact gridded
  | editStore edit => exact gridded
  | generateVariables => exact gridded.generateVariables
  | generateConstraints => exact gridded.generateConstraints
  | generateObjective => exact gridded.generateObjective
  | setScaleAt address values physical abstract =>
      exact gridded.setScaleAt address values physical abstract

theorem Arises.gridded (arises : plant.Arises) : plant.Gridded := by
  induction arises with
  | start initial =>
      cases initial
      exact fun late => by cases late
  | step _ operation _ gridded => exact gridded.perform operation

end Plant

namespace Schedule

variable {allowed : Mode → Prop} {schedule : Schedule K}

omit [Scalar K] in
theorem step_preserves {Invariant : Schedule K → Prop} (holds : Invariant schedule)
    {target : Stage} {advance : Change (Schedule K) PUnit}
    (refused : schedule.stage.enter target = .ok .run → ∀ error,
      (advance schedule).result = .error error → Invariant (advance schedule).state)
    (advances : schedule.stage.enter target = .ok .run → ∀ answer,
      (advance schedule).result = .ok answer →
        Invariant ((advance schedule).state.atStage target)) :
    Invariant (Schedule.step target advance schedule).state := by
  rw [step_apply]
  cases entered : schedule.stage.enter target with
  | error error => exact holds
  | ok action =>
      cases action with
      | skip => exact holds
      | run =>
          dsimp only
          cases ran : (advance schedule).result with
          | error error => exact refused entered error ran
          | ok answer => exact advances entered answer ran

/-- The schedule in which one plant has a new scale, and nothing has followed yet. -/
def withScaled (schedule : Schedule K) (index : Nat) (plant : Plant K) (scale : K)
    (objective : Option (Objective K)) : Schedule K :=
  schedule.withPlants (schedule.plants.set index { plant with scale, objective })

/-- A new scale is followed in the injection bounds once there are rows, and in the rows if the
abstract mode writes. -/
theorem Sound.scalePlantAt_state (sound : schedule.Sound) (index : Nat) (address : Address)
    (values : List K) (physical abstract : Mode) :
    let after := (Schedule.scalePlantAt index address values physical abstract schedule).state
    after = schedule ∨ ∃ plant scale objective, schedule.plants[index]? = some plant ∧
      let moved := schedule.withScaled index plant scale objective
      (schedule.stage.hasConstraints = false ∧ after = moved) ∨
        schedule.stage.hasConstraints = true ∧ ∃ networks,
          refreshInjectionBounds abstract.silent moved =
              ⟨moved.withNetworks networks, [], .ok ⟨⟩⟩ ∧
            after = if abstract.writes then (patchPlant index (moved.withNetworks networks)).state
              else moved.withNetworks networks := by
  dsimp only
  have part := onPlant_apply index (Plant.setScaleAt address values physical abstract) schedule
  unfold Schedule.scalePlantAt
  cases found : schedule.plants[index]? with
  | none =>
      rw [found] at part
      rw [Change.bind_error part]
      exact .inl rfl
  | some plant =>
      rw [found] at part
      dsimp only at part
      have accounted := Plant.accounted_setScaleAt address values physical abstract plant
      have atomic := (sound.stocked.plants plant (List.mem_of_getElem? found)).atomic_setScaleAt
        address values physical abstract
      obtain ⟨scale, objective, rest⟩ :=
        Plant.rest_setScaleAt address values physical abstract plant
      cases answer : (Plant.setScaleAt address values physical abstract plant).result with
      | error error =>
          rw [atomic error answer, withPlants_set_self found] at part
          rw [Change.bind_error part]
          exact .inl rfl
      | ok outcome =>
          rw [answer] at part
          have next := sound.of_onPlant_setScaleAt part
          rw [Change.bind_ok part]
          by_cases applied : outcome = .applied
          · subst applied
            refine .inr ⟨plant, scale, objective, rfl, ?_⟩
            rw [rest] at next ⊢
            rw [afterScale_apply]
            cases late : schedule.stage.hasConstraints with
            | false =>
                refine .inl ⟨rfl, ?_⟩
                rw [if_pos (by
                  change (_ || !schedule.stage.hasConstraints) = true
                  rw [late]
                  rfl)]
                rfl
            | true =>
                obtain ⟨networks, refreshed, -⟩ :=
                  next.refreshInjectionBounds_accepted abstract.silent
                refine .inr ⟨rfl, networks, refreshed, ?_⟩
                rw [if_neg (by
                  change ¬(_ || !schedule.stage.hasConstraints) = true
                  rw [late]
                  decide), Change.bind_ok refreshed]
                cases abstract.writes with
                | false => rfl
                | true =>
                    rw [if_pos rfl, if_pos rfl, Change.bind_apply]
                    split <;> rfl
          · have same := (accounted.still outcome answer applied).1
            rw [same, withPlants_set_self found, afterScale_of_still applied]
            exact .inl rfl

/-- What follows a new scale leaves the plants as the scale has left them. -/
theorem Sound.plants_scalePlantAt (sound : schedule.Sound) (index : Nat) (address : Address)
    (values : List K) (physical abstract : Mode) :
    (Schedule.scalePlantAt index address values physical abstract schedule).state.plants =
      (onPlant index (Plant.setScaleAt address values physical abstract)
        schedule).state.plants := by
  unfold Schedule.scalePlantAt
  rw [Change.bind_apply]
  cases part : (onPlant index (Plant.setScaleAt address values physical abstract)
    schedule).result with
  | error error => rfl
  | ok outcome =>
      have next := sound.of_onPlant_setScaleAt
        (show onPlant index (Plant.setScaleAt address values physical abstract) schedule =
          ⟨_, _, .ok outcome⟩ by rw [← part])
      obtain ⟨networks, links, followed, -⟩ := next.afterScale_rest index outcome abstract
      dsimp only
      rw [followed]
      rfl

theorem Sound.rest_scalePlantAt (sound : schedule.Sound) (index : Nat) (address : Address)
    (values : List K) (physical abstract : Mode) :
    let after := (Schedule.scalePlantAt index address values physical abstract schedule).state
    after.nodes = schedule.nodes ∧ after.horizon = schedule.horizon ∧
      after.stage = schedule.stage := by
  dsimp only
  rcases sound.scalePlantAt_state index address values physical abstract with
    still | ⟨plant, scale, objective, -, ⟨-, moved⟩ | ⟨-, networks, -, moved⟩⟩
  · rw [still]
    exact ⟨rfl, rfl, rfl⟩
  · rw [moved]
    exact ⟨rfl, rfl, rfl⟩
  · rw [moved]
    split
    · obtain ⟨links, patched, -⟩ := sameFrame_patchPlant index
        ((schedule.withScaled index plant scale objective).withNetworks networks)
      rw [patched]
      exact ⟨rfl, rfl, rfl⟩
    · exact ⟨rfl, rfl, rfl⟩

theorem Arises.network_shape (arises : schedule.Arises allowed) {network : Network K}
    (member : network ∈ schedule.networks) :
    network.intervals = 1 ∧ network.nodes = schedule.nodes := by
  obtain ⟨topology, siblings⟩ := arises.paced.networks
  have intervals := (siblings network member).intervals
  refine ⟨intervals, ?_⟩
  rw [← arises.sound.stocked.extents network member, Network.extent, intervals, Nat.one_mul]

end Schedule

end Dispatch
