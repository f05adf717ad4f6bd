import Dispatch.Network.Generation
import Dispatch.Proofs.Change.Laws
import Dispatch.Proofs.Except
import Dispatch.Proofs.Stage

namespace Dispatch.Network

/-! A network is in step when it is what the generation steps make of its physical
data, up to the stage it has reached. -/

variable {K : Type}

/-- The physical data with nothing generated. -/
def stripped (network : Network K) : Network K :=
  { network with
    stage := .empty
    store := Store.empty network.id
    nodeInjection := Grid.none
    powerFlow := Grid.none
    auxiliary := Grid.none
    rows := NetworkRows.none
    objective := none }

@[simp] theorem stripped_stripped (network : Network K) :
    network.stripped.stripped = network.stripped := rfl

theorem step_apply (target : Stage) (advance : Network K → Except Error (Network K))
    (network : Network K) :
    step target advance network =
      match network.stage.enter target with
      | .error error => ⟨network, [], .error error⟩
      | .ok .skip => ⟨network, [], .ok ⟨⟩⟩
      | .ok .run =>
          match advance network with
          | .error error => ⟨network, [], .error error⟩
          | .ok generated => ⟨generated, [], .ok ⟨⟩⟩ := by
  unfold step
  rw [Change.current_bind]
  cases network.stage.enter target with
  | error error => rfl
  | ok action =>
      cases action with
      | skip => rfl
      | run =>
          rw [Change.require_ok_bind]
          cases advance network <;> rfl

/-- A step that is refused or skipped leaves the network as it is. -/
theorem step_preserves {Invariant : Network K → Prop} {network : Network K}
    (holds : Invariant network) {target : Stage} {advance : Network K → Except Error (Network K)}
    (advances : network.stage.enter target = .ok .run → ∀ result,
      advance network = .ok result → Invariant result) :
    Invariant (step target advance network).state := by
  rw [step_apply]
  cases entered : network.stage.enter target with
  | error error => exact holds
  | ok action =>
      cases action with
      | skip => exact holds
      | run =>
          dsimp only
          cases advanced : advance network with
          | error error => exact holds
          | ok result => exact advances entered result advanced

variable [Scalar K]

def generatedTo (network : Network K) : Stage → Except Error (Network K)
  | .empty => .ok network
  | .vars => .ok network.withVariables
  | .constraints => network.withVariables.withConstraints
  | .objective => network.withVariables.withConstraints.map withObjective

def InStep (network : Network K) : Prop :=
  network.stripped.generatedTo network.stage = .ok network

theorem withConstraints_ok {network result : Network K}
    (generated : network.withConstraints = .ok result) :
    result = { network with stage := .constraints, rows := result.rows } := by
  unfold withConstraints at generated
  split at generated
  · obtain ⟨topology, -, equality⟩ := Except.bind_eq_ok.mp generated
    cases equality
    rfl
  · cases generated
    rfl

theorem generatedTo_ok (stage : Stage) {network result : Network K}
    (bare : network.stage = .empty) (generated : network.generatedTo stage = .ok result) :
    result.stage = stage ∧ result.stripped = network.stripped := by
  cases stage with
  | empty =>
      cases generated
      exact ⟨bare, rfl⟩
  | vars =>
      cases generated
      exact ⟨rfl, rfl⟩
  | constraints =>
      have shape := withConstraints_ok generated
      rw [shape]
      exact ⟨rfl, rfl⟩
  | objective =>
      obtain ⟨middle, constrained, equality⟩ := Except.map_eq_ok.mp generated
      have shape := withConstraints_ok constrained
      subst equality
      rw [shape]
      exact ⟨rfl, rfl⟩

theorem inStep_of_generatedTo (base : Network K) (stage : Stage) {result : Network K}
    (generated : base.stripped.generatedTo stage = .ok result) : result.InStep := by
  obtain ⟨reached, data⟩ := generatedTo_ok stage rfl generated
  rw [InStep, reached, data]
  exact generated

theorem inStep_of_stripped {network : Network K} (bare : network.stripped = network) :
    network.InStep := by
  have start : network.stage = .empty := by rw [← bare]; rfl
  rw [InStep, start, bare]
  rfl

theorem InStep.step {network : Network K} (inStep : network.InStep) {target : Stage}
    {advance : Network K → Except Error (Network K)}
    (advances : network.stage.enter target = .ok .run → ∀ generated,
      advance network = .ok generated → generated.InStep) :
    (Network.step target advance network).state.InStep :=
  step_preserves inStep advances

theorem InStep.generateVariables {network : Network K} (inStep : network.InStep) :
    (Network.generateVariables network).state.InStep := by
  refine inStep.step fun entered generated equality => ?_
  cases equality
  have bare : network.stripped = network := by
    rw [InStep, Stage.enter_vars entered] at inStep
    exact Except.ok.inj inStep
  apply inStep_of_generatedTo network .vars
  rw [bare]
  rfl

theorem InStep.generateConstraints {network : Network K} (inStep : network.InStep) :
    (Network.generateConstraints network).state.InStep := by
  refine inStep.step fun entered generated equality => ?_
  rw [InStep, Stage.enter_constraints entered] at inStep
  apply inStep_of_generatedTo network .constraints
  change network.stripped.withVariables.withConstraints = .ok generated
  rw [Except.ok.inj inStep]
  exact equality

theorem InStep.generateObjective {network : Network K} (inStep : network.InStep) :
    (Network.generateObjective network).state.InStep := by
  refine inStep.step fun entered generated equality => ?_
  rw [InStep, Stage.enter_objective entered] at inStep
  apply inStep_of_generatedTo network .objective
  change (network.stripped.withVariables.withConstraints).map withObjective = .ok generated
  rw [show network.stripped.withVariables.withConstraints = .ok network from inStep]
  exact equality

/-- Generating everything from nothing reaches the last stage or is refused by the
constraints. -/
theorem generateAll_apply {network result : Network K} (bare : network.stage = .empty)
    (generated : network.generatedTo .objective = .ok result) :
    generateAll network = ⟨result, [], .ok ⟨⟩⟩ := by
  obtain ⟨middle, constrained, equality⟩ := Except.map_eq_ok.mp generated
  have reached : middle.stage = .constraints := by rw [withConstraints_ok constrained]
  have first : Network.generateVariables network =
      ⟨network.withVariables, [], .ok ⟨⟩⟩ := by
    rw [Network.generateVariables, step_apply, bare]
    rfl
  have second : Network.generateConstraints network.withVariables =
      ⟨middle, [], .ok ⟨⟩⟩ := by
    rw [Network.generateConstraints, step_apply, show network.withVariables.stage = .vars from rfl,
      constrained]
    rfl
  have third : Network.generateObjective middle = ⟨result, [], .ok ⟨⟩⟩ := by
    rw [Network.generateObjective, step_apply, reached, ← equality]
    rfl
  rw [generateAll, Change.bind_ok first, Change.bind_ok second, third]
  rfl

def atVars (network : Network K) : Network K :=
  { network with stage := .vars, rows := NetworkRows.none, objective := none }

def atConstraints (network : Network K) : Network K :=
  { network with stage := .constraints, objective := none }

theorem InStep.stages {network : Network K} (inStep : network.InStep)
    (complete : network.stage = .objective) :
    Network.generateVariables network.stripped = ⟨network.atVars, [], .ok ⟨⟩⟩ ∧
      Network.generateConstraints network.atVars = ⟨network.atConstraints, [], .ok ⟨⟩⟩ ∧
      Network.generateObjective network.atConstraints = ⟨network, [], .ok ⟨⟩⟩ := by
  rw [InStep, complete] at inStep
  obtain ⟨middle, constrained, equality⟩ := Except.map_eq_ok.mp inStep
  have shape := withConstraints_ok constrained
  have vars : network.stripped.withVariables = network.atVars := by
    rw [← equality, shape]
    rfl
  have constraints : middle = network.atConstraints := by
    rw [← equality, shape]
    rfl
  refine ⟨?_, ?_, ?_⟩
  · rw [← vars]
    rfl
  · rw [Network.generateConstraints, step_apply, ← vars, constrained, constraints]
    rfl
  · rw [Network.generateObjective, step_apply, ← constraints, equality, constraints]
    rfl

end Dispatch.Network
