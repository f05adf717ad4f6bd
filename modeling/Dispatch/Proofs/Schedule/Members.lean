import Dispatch.Proofs.Network.Incremental
import Dispatch.Proofs.Schedule.Agree

namespace Dispatch

/-! How the members of a schedule move on: what a generation step or an update leaves as it
was, whether or not it is refused. -/

variable {K : Type} [Scalar K]

/-- A later state of a plant. -/
structure Plant.Onward (before after : Plant K) : Prop where
  inStep : before.InStep → after.InStep
  stage : before.stage.rank ≤ after.stage.rank
  horizon : after.horizon = before.horizon

/-- Once there are variables, the parent finds what it reads as it was. -/
def Plant.SameCore (before after : Plant K) : Prop :=
  before.stage.hasVariables = true → after.core = before.core

namespace Plant.Onward

theorem refl (plant : Plant K) : Plant.Onward plant plant :=
  ⟨fun inStep => inStep, Nat.le_refl _, rfl⟩

theorem step {target : Stage} {advance : Plant K → Plant K}
    (inStep : ∀ plant : Plant K, plant.InStep → (Plant.step target advance plant).state.InStep)
    (stage : ∀ plant, (advance plant).stage = target)
    (data : ∀ plant, (advance plant).data = plant.data)
    (core : ∀ plant : Plant K, plant.stage.enter target = .ok .run →
      plant.SameCore (advance plant))
    (plant : Plant K) :
    Plant.Onward plant (Plant.step target advance plant).state ∧
      plant.SameCore (Plant.step target advance plant).state := by
  have inStep := inStep plant
  rw [step_apply] at inStep ⊢
  cases entered : plant.stage.enter target with
  | error error => exact ⟨refl plant, fun _ => rfl⟩
  | ok action =>
      cases action with
      | skip => exact ⟨refl plant, fun _ => rfl⟩
      | run =>
          rw [entered] at inStep
          refine ⟨⟨inStep, ?_, ?_⟩, core plant entered⟩
          · rw [stage]
            exact Stage.rank_of_enter_run entered
          · exact congrArg PlantData.horizon (data plant)

theorem generateVariables (plant : Plant K) :
    Plant.Onward plant (Plant.generateVariables plant).state ∧
      plant.SameCore (Plant.generateVariables plant).state := by
  refine step (fun _ inStep => inStep.generateVariables) (fun _ => rfl) (fun _ => rfl) ?_ plant
  intro plant entered late
  rw [Stage.enter_vars entered] at late
  cases late

theorem generateConstraints (plant : Plant K) :
    Plant.Onward plant (Plant.generateConstraints plant).state ∧
      plant.SameCore (Plant.generateConstraints plant).state :=
  step (fun _ inStep => inStep.generateConstraints) (fun _ => rfl) (fun _ => rfl)
    (fun _ _ _ => rfl) plant

theorem generateObjective (plant : Plant K) :
    Plant.Onward plant (Plant.generateObjective plant).state ∧
      plant.SameCore (Plant.generateObjective plant).state :=
  step (fun _ inStep => inStep.generateObjective) (fun _ => rfl) (fun _ => rfl)
    (fun _ _ _ => rfl) plant

theorem followed (plant : Plant K) (scale : K) :
    Plant.Onward plant (plant.followed scale) :=
  ⟨fun inStep => inStep.followed scale, Nat.le_refl _, rfl⟩

end Plant.Onward

theorem Plant.InStep.core_stripped {plant : Plant K} (inStep : plant.InStep)
    (complete : plant.stage = .objective) :
    plant.stripped.withVariables.core = plant.core ∧
      plant.stripped.withVariables.withConstraints.core = plant.core := by
  rw [Plant.InStep, complete] at inStep
  rw [← inStep]
  exact ⟨rfl, rfl⟩

omit [Scalar K] in
/-- A step that is not refused reaches its stage. -/
theorem Plant.rank_of_step_ok {target : Stage} (advance : Plant K → Plant K)
    (stage : ∀ plant, (advance plant).stage = target) {plant : Plant K} {answer : PUnit}
    (accepted : (Plant.step target advance plant).result = .ok answer) :
    target.rank ≤ (Plant.step target advance plant).state.stage.rank := by
  rw [step_apply] at accepted ⊢
  cases entered : plant.stage.enter target with
  | error error => simp [entered] at accepted
  | ok action =>
      cases action with
      | skip => exact Stage.rank_of_enter_skip entered
      | run => exact Nat.le_of_eq (by rw [stage])

/-- A later state of a network whose data may have moved. -/
structure Network.Onward (before after : Network K) : Prop where
  inStep : before.InStep → after.InStep
  stage : before.stage.rank ≤ after.stage.rank
  extent : after.extent = before.extent
  injectionVar? : before.stage.hasVariables = true →
    after.injectionVar? = before.injectionVar?

/-- Neither injection bound has moved. -/
structure Network.SameBounds (before after : Network K) : Prop where
  minimum : after.minInjection = before.minInjection
  maximum : after.maxInjection = before.maxInjection

omit [Scalar K] in
theorem Network.SameBounds.trans {first second third : Network K}
    (early : Network.SameBounds first second) (late : Network.SameBounds second third) :
    Network.SameBounds first third :=
  ⟨late.minimum.trans early.minimum, late.maximum.trans early.maximum⟩

namespace Network.Onward

theorem refl (network : Network K) : Network.Onward network network :=
  ⟨fun inStep => inStep, Nat.le_refl _, rfl, fun _ => rfl⟩

theorem trans {first second third : Network K} (early : Network.Onward first second)
    (late : Network.Onward second third) : Network.Onward first third where
  inStep inStep := late.inStep (early.inStep inStep)
  stage := Nat.le_trans early.stage late.stage
  extent := late.extent.trans early.extent
  injectionVar? reached := by
    have still : second.stage.hasVariables = true :=
      decide_eq_true (Nat.le_trans (of_decide_eq_true reached) early.stage)
    exact (late.injectionVar? still).trans (early.injectionVar? reached)

theorem step {target : Stage} {advance : Network K → Except Error (Network K)}
    (inStep : ∀ network : Network K, network.InStep →
      (Network.step target advance network).state.InStep)
    (stage : ∀ network result, advance network = .ok result → result.stage = target)
    (data : ∀ network result, advance network = .ok result →
      result.stripped = network.stripped)
    (injection : ∀ network result, advance network = .ok result →
      network.stage.enter target = .ok .run → network.stage.hasVariables = true →
      result.injectionVar? = network.injectionVar?) (network : Network K) :
    Network.Onward network (Network.step target advance network).state ∧
      Network.SameBounds network (Network.step target advance network).state := by
  have inStep := inStep network
  rw [step_apply] at inStep ⊢
  cases entered : network.stage.enter target with
  | error error => exact ⟨refl network, rfl, rfl⟩
  | ok action =>
      cases action with
      | skip => exact ⟨refl network, rfl, rfl⟩
      | run =>
          cases advanced : advance network with
          | error error => exact ⟨refl network, rfl, rfl⟩
          | ok result =>
              rw [entered, advanced] at inStep
              have same := data network result advanced
              have extent : result.stripped.extent = network.stripped.extent := by rw [same]
              obtain ⟨-, -, -, minimum, maximum⟩ := data_of_stripped same
              refine ⟨⟨inStep, ?_, extent, injection _ _ advanced entered⟩, minimum, maximum⟩
              rw [stage network result advanced]
              exact Stage.rank_of_enter_run entered

theorem generateVariables (network : Network K) :
    Network.Onward network (Network.generateVariables network).state ∧
      Network.SameBounds network (Network.generateVariables network).state := by
  refine step (fun _ inStep => inStep.generateVariables) ?_ ?_ ?_ network
  · intro network result advanced
    cases advanced
    rfl
  · intro network result advanced
    cases advanced
    rfl
  · intro network result advanced entered late
    rw [Stage.enter_vars entered] at late
    cases late

theorem generateConstraints (network : Network K) :
    Network.Onward network (Network.generateConstraints network).state ∧
      Network.SameBounds network (Network.generateConstraints network).state := by
  refine step (fun _ inStep => inStep.generateConstraints) ?_ ?_ ?_ network
  · intro network result advanced
    rw [withConstraints_ok advanced]
  · intro network result advanced
    rw [withConstraints_ok advanced]
    rfl
  · intro network result advanced _ _
    rw [withConstraints_ok advanced]
    rfl

theorem generateObjective (network : Network K) :
    Network.Onward network (Network.generateObjective network).state ∧
      Network.SameBounds network (Network.generateObjective network).state := by
  refine step (fun _ inStep => inStep.generateObjective) ?_ ?_ ?_ network
  · intro network result advanced
    cases advanced
    rfl
  · intro network result advanced
    cases advanced
    rfl
  · intro network result advanced _ _
    cases advanced
    rfl

/-- An update that keeps stage, extent and variables. -/
theorem of_update {before after : Network K} (inStep : before.InStep → after.InStep)
    (stage : after.stage = before.stage) (extent : after.extent = before.extent)
    (injection : after.injectionVar? = before.injectionVar?) :
    Network.Onward before after :=
  ⟨inStep, Nat.le_of_eq (by rw [stage]), extent, fun _ => injection⟩

theorem setDemand (network : Network K) (address : Address) (values : List K)
    (physical : Mode) {abstract : Mode} (writes : abstract.writes = true) :
    Network.Onward network (Network.setDemand address values physical abstract network).state ∧
      Network.SameBounds network
        (Network.setDemand address values physical abstract network).state := by
  cases setDemand_state address values physical abstract network with
  | inl still =>
      rw [still]
      exact ⟨refl network, rfl, rfl⟩
  | inr moved =>
      obtain ⟨selection, moved⟩ := moved
      rw [moved]
      have inStep : network.InStep → (network.withDemand selection values abstract).InStep :=
        fun inStep => inStep.withDemand selection values writes
      have shape : network.withDemand selection values abstract =
          (network.reloaded (selection.write network.demand network.extent 0 values)
            network.kappa).withRows (network.withDemand selection values abstract).rows := by
        unfold Network.withDemand
        dsimp only
        split
        · exact patchDemand_withRows _ _
        · rfl
      rw [shape] at inStep ⊢
      exact ⟨of_update inStep rfl rfl rfl, rfl, rfl⟩

theorem setInjectionBounds (network : Network K) (minimum maximum : List K)
    (physical : Mode) {abstract : Mode} (writes : abstract.writes = true) :
    Network.Onward network
      (Network.setInjectionBounds minimum maximum physical abstract network).state := by
  cases setInjectionBounds_state minimum maximum physical abstract network with
  | inl still =>
      rw [still]
      exact refl network
  | inr moved =>
      rw [moved]
      refine of_update (fun inStep => inStep.withInjectionBounds minimum maximum writes) ?_ ?_ ?_
      all_goals
        unfold Network.withInjectionBounds
        rw [if_pos writes]
        rfl

theorem setConstantTerm (network : Network K) (constant : K) :
    Network.Onward network (network.withConstant constant) ∧
      Network.SameBounds network (network.withConstant constant) :=
  ⟨of_update (fun inStep => inStep.withConstant constant) rfl rfl rfl, rfl, rfl⟩

end Network.Onward

omit [Scalar K] in
/-- A step that is not refused reaches its stage. -/
theorem Network.rank_of_step_ok {target : Stage}
    {advance : Network K → Except Error (Network K)}
    (stage : ∀ network result, advance network = .ok result → result.stage = target)
    {network : Network K} {answer : PUnit}
    (accepted : (Network.step target advance network).result = .ok answer) :
    target.rank ≤ (Network.step target advance network).state.stage.rank := by
  rw [step_apply] at accepted ⊢
  cases entered : network.stage.enter target with
  | error error => simp [entered] at accepted
  | ok action =>
      cases action with
      | skip => exact Stage.rank_of_enter_skip entered
      | run =>
          cases advanced : advance network with
          | error error => simp [entered, advanced] at accepted
          | ok result => exact Nat.le_of_eq (by rw [stage network result advanced])

end Dispatch
