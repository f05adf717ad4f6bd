import Dispatch.Plant.Generation
import Dispatch.Proofs.Change.Laws
import Dispatch.Proofs.Stage

namespace Dispatch.Plant

/-! A plant is in step when it is what the generation steps make of its data and scale, up
to the stage it has reached. No step of a plant is ever refused. -/

variable {K : Type}

/-- The physical data with nothing generated. -/
def stripped (plant : Plant K) : Plant K :=
  { plant with
    stage := .empty
    store := Store.empty plant.id
    activePower := Grid.none
    commitment := Grid.none
    primaryReserve := Grid.none
    secondaryReserve := Grid.none
    powerBounds := Family.empty "power_bounds" plant.data.horizon
    minPowerRows := Family.empty "min_power" plant.data.horizon
    maxPowerRows := Family.empty "max_power" plant.data.horizon
    objective := none }

@[simp] theorem stripped_stripped (plant : Plant K) :
    plant.stripped.stripped = plant.stripped := rfl

/-- Nothing is generated. -/
def Bare (plant : Plant K) : Prop :=
  plant.stripped = plant

theorem step_apply (target : Stage) (advance : Plant K → Plant K) (plant : Plant K) :
    step target advance plant =
      match plant.stage.enter target with
      | .error error => ⟨plant, [], .error error⟩
      | .ok .skip => ⟨plant, [], .ok ⟨⟩⟩
      | .ok .run => ⟨advance plant, [], .ok ⟨⟩⟩ := by
  unfold step
  rw [Change.current_bind]
  cases plant.stage.enter target with
  | error error => rfl
  | ok action => cases action <;> rfl

/-- A step that is refused or skipped leaves the plant as it is. -/
theorem step_preserves {Invariant : Plant K → Prop} {plant : Plant K} (holds : Invariant plant)
    {target : Stage} {advance : Plant K → Plant K}
    (advances : plant.stage.enter target = .ok .run → Invariant (advance plant)) :
    Invariant (step target advance plant).state := by
  rw [step_apply]
  cases entered : plant.stage.enter target with
  | error error => exact holds
  | ok action =>
      cases action with
      | skip => exact holds
      | run => exact advances entered

variable [Scalar K]

theorem bare_ofData (id : BlockId) (data : PlantData K) : (ofData id data).Bare := rfl

def generatedTo (plant : Plant K) : Stage → Plant K
  | .empty => plant
  | .vars => plant.withVariables
  | .constraints => plant.withVariables.withConstraints
  | .objective => plant.withVariables.withConstraints.withObjective

def InStep (plant : Plant K) : Prop :=
  plant.stripped.generatedTo plant.stage = plant

theorem stage_generatedTo {plant : Plant K} (bare : plant.stage = .empty) (stage : Stage) :
    (plant.generatedTo stage).stage = stage := by
  cases stage with
  | empty => exact bare
  | vars => rfl
  | constraints => rfl
  | objective => rfl

theorem stripped_generatedTo (plant : Plant K) (stage : Stage) :
    (plant.generatedTo stage).stripped = plant.stripped := by
  cases stage <;> rfl

theorem inStep_generatedTo (plant : Plant K) (stage : Stage) :
    (plant.stripped.generatedTo stage).InStep := by
  rw [InStep, stripped_generatedTo, stage_generatedTo rfl, stripped_stripped]

theorem Bare.inStep {plant : Plant K} (bare : plant.Bare) : plant.InStep := by
  have generated := plant.inStep_generatedTo .empty
  rwa [show plant.stripped.generatedTo .empty = plant from bare] at generated

theorem InStep.step {plant : Plant K} (inStep : plant.InStep) {target : Stage}
    {advance : Plant K → Plant K}
    (advances : plant.stage.enter target = .ok .run → (advance plant).InStep) :
    (Plant.step target advance plant).state.InStep :=
  step_preserves inStep advances

theorem InStep.generateVariables {plant : Plant K} (inStep : plant.InStep) :
    (Plant.generateVariables plant).state.InStep := by
  refine inStep.step fun entered => ?_
  have generated := plant.inStep_generatedTo .vars
  rw [InStep, Stage.enter_vars entered] at inStep
  rwa [generatedTo, show plant.stripped = plant from inStep] at generated

theorem InStep.generateConstraints {plant : Plant K} (inStep : plant.InStep) :
    (Plant.generateConstraints plant).state.InStep := by
  refine inStep.step fun entered => ?_
  have generated := plant.inStep_generatedTo .constraints
  rw [InStep, Stage.enter_constraints entered] at inStep
  rwa [generatedTo, show plant.stripped.withVariables = plant from inStep] at generated

theorem InStep.generateObjective {plant : Plant K} (inStep : plant.InStep) :
    (Plant.generateObjective plant).state.InStep := by
  refine inStep.step fun entered => ?_
  have generated := plant.inStep_generatedTo .objective
  rw [InStep, Stage.enter_objective entered] at inStep
  rwa [generatedTo, show plant.stripped.withVariables.withConstraints = plant from inStep]
    at generated

theorem InStep.stages {plant : Plant K} (inStep : plant.InStep)
    (complete : plant.stage = .objective) :
    Plant.generateVariables plant.stripped = ⟨plant.stripped.withVariables, [], .ok ⟨⟩⟩ ∧
      Plant.generateConstraints plant.stripped.withVariables =
        ⟨plant.stripped.withVariables.withConstraints, [], .ok ⟨⟩⟩ ∧
      Plant.generateObjective plant.stripped.withVariables.withConstraints =
        ⟨plant, [], .ok ⟨⟩⟩ := by
  rw [InStep, complete] at inStep
  refine ⟨rfl, rfl, ?_⟩
  rw [Plant.generateObjective, step_apply]
  exact congrArg (fun state => (⟨state, [], .ok ⟨⟩⟩ : Effect (Plant K) PUnit)) inStep

end Dispatch.Plant
