import Dispatch.Plant.Update
import Dispatch.Proofs.Change.Selection
import Dispatch.Proofs.LinearFunction
import Dispatch.Proofs.Plant.Generation

namespace Dispatch.Plant

/-! A new scale moves the costs of a plant and nothing else it has generated. -/

variable {K : Type} [Scalar K]

def rescaled (plant : Plant K) (scale : K) : Plant K :=
  { plant with scale }

/-- Plants whose terms in the rows of their parent take the same places. -/
structure SameFrame (before after : Plant K) : Prop where
  data : after.data = before.data
  activePower : after.activePower = before.activePower
  commitment : after.commitment = before.commitment
  primaryReserve : after.primaryReserve = before.primaryReserve
  secondaryReserve : after.secondaryReserve = before.secondaryReserve

omit [Scalar K] in
theorem SameFrame.refl (plant : Plant K) : SameFrame plant plant :=
  ⟨rfl, rfl, rfl, rfl, rfl⟩

/-- What an abstract mode makes of a new scale. -/
def withScale (plant : Plant K) (scale : K) (abstract : Mode) : Except Error (Plant K) :=
  if abstract.writes then (plant.rescaled scale).withCosts else .ok (plant.rescaled scale)

theorem patchCosts_apply (plant : Plant K) :
    patchCosts plant =
      match plant.withCosts with
      | .error error => ⟨plant, [], .error error⟩
      | .ok result => ⟨result, [], .ok ⟨⟩⟩ := by
  unfold patchCosts
  rw [Change.current_bind]
  cases plant.withCosts <;> rfl

theorem updateScale_apply (selection : Selection) (values : List K)
    (physical abstract : Mode) (plant : Plant K) :
    updateScale selection values physical abstract plant =
      let scale := (selection.write [plant.scale] 1 1 values).headD plant.scale
      if !selection.differs [plant.scale] 1 values then ⟨plant, [], .ok .unchanged⟩
      else if !physical.writes then ⟨plant, [], .ok .dryRun⟩
      else
        match plant.withScale scale abstract with
        | .error error => ⟨plant.rescaled scale, [], .error error⟩
        | .ok result => ⟨result,
            physical.notices plant.notifier (selection.record plant.id .scale),
            .ok .applied⟩ := by
  unfold updateScale withScale
  simp only [Change.current_bind]
  split
  · rfl
  · split
    · rfl
    · rw [Change.write_bind]
      split
      · change (patchCosts >>= _) (plant.rescaled _) = _
        rw [Change.bind_apply, patchCosts_apply]
        cases (plant.rescaled
          ((selection.write [plant.scale] 1 1 values).headD plant.scale)).withCosts with
        | error error => rfl
        | ok result => simp
      · simp [rescaled]

theorem setScaleAt_apply (address : Address) (values : List K) (physical abstract : Mode)
    (plant : Plant K) :
    setScaleAt address values physical abstract plant =
      match address.select 1 values.length "scale" with
      | .error error => ⟨plant, [], .error error⟩
      | .ok none => ⟨plant, [], .ok .unchanged⟩
      | .ok (some selection) => updateScale selection values physical abstract plant := by
  unfold setScaleAt
  cases address.select 1 values.length "scale" with
  | error error => rfl
  | ok selected => cases selected <;> rfl

theorem withCosts_rest {plant result : Plant K} (patched : plant.withCosts = .ok result) :
    result = { plant with objective := result.objective } := by
  unfold withCosts at patched
  split at patched
  · cases patched
    rfl
  · obtain ⟨function, -, equality⟩ := Except.bind_eq_ok.mp patched
    cases equality
    rfl

theorem withScale_rest {plant result : Plant K} {scale : K} {abstract : Mode}
    (rescaled : plant.withScale scale abstract = .ok result) :
    result = { plant with scale, objective := result.objective } := by
  unfold withScale at rescaled
  split at rescaled
  · exact withCosts_rest rescaled
  · cases rescaled
    rfl

/-- Whatever becomes of it, an update of the scale moves the scale and the objective alone. -/
theorem rest_setScaleAt (address : Address) (values : List K) (physical abstract : Mode)
    (plant : Plant K) :
    ∃ scale objective, (Plant.setScaleAt address values physical abstract plant).state =
      { plant with scale, objective } := by
  rw [setScaleAt_apply]
  split
  · exact ⟨_, _, rfl⟩
  · exact ⟨_, _, rfl⟩
  · rw [updateScale_apply]
    dsimp only
    split
    · exact ⟨_, _, rfl⟩
    · split
      · exact ⟨_, _, rfl⟩
      · split
        · exact ⟨_, _, rfl⟩
        · rename_i moved
          exact ⟨_, _, withScale_rest moved⟩

theorem length_costCoefficients (plant : Plant K) :
    plant.costCoefficients.length = plant.data.cells.length := by
  simp [costCoefficients]

/-- Patching generated costs makes them the costs of the new scale. -/
theorem withCosts_rescaled {plant : Plant K} {sense : Sense}
    (generated : plant.objective = some ⟨plant.costFunction, sense⟩) (scale : K) :
    (plant.rescaled scale).withCosts =
      .ok { plant.rescaled scale with
        objective := some ⟨(plant.rescaled scale).costFunction, sense⟩ } := by
  have run := LinearFunction.setCoefficients_run plant.costFunction [] plant.costFunction.terms []
    (plant.rescaled scale).costFunction.terms (by simp) (by
      simp [costFunction, LinearFunction.ofTerms, Function.comp_def]
      rfl)
  have values : (plant.rescaled scale).costCoefficients =
      (plant.rescaled scale).costFunction.terms.map Prod.snd := by
    simp [costFunction, LinearFunction.ofTerms, costCoefficients, Function.comp_def]
  have positions : List.range (plant.rescaled scale).costCoefficients.length =
      List.range' 0 plant.costFunction.terms.length := by
    rw [List.range_eq_range', length_costCoefficients]
    simp [costFunction, LinearFunction.ofTerms]
    rfl
  have objective : (plant.rescaled scale).objective = some ⟨plant.costFunction, sense⟩ :=
    generated
  unfold withCosts
  rw [objective]
  dsimp only
  rw [positions, values]
  simp only [List.length_nil] at run
  rw [run]
  simp
  rfl

theorem withCosts_of_none {plant : Plant K} (unset : plant.objective = none) :
    plant.withCosts = .ok plant := by
  simp [withCosts, unset]

/-- The plant that a writing update leaves, in every stage. -/
def followed (plant : Plant K) (scale : K) : Plant K :=
  { plant.rescaled scale with
    objective := plant.objective.map fun objective =>
      { objective with function := (plant.rescaled scale).costFunction } }

theorem InStep.objective_cases {plant : Plant K} (inStep : plant.InStep) :
    plant.objective = none ∨ plant.objective = some ⟨plant.costFunction, .minimise⟩ := by
  rw [InStep] at inStep
  cases reached : plant.stage with
  | empty => exact .inl (by rw [← inStep, reached]; rfl)
  | vars => exact .inl (by rw [← inStep, reached]; rfl)
  | constraints => exact .inl (by rw [← inStep, reached]; rfl)
  | objective => exact .inr (by rw [← inStep, reached]; rfl)

/-- An update of a plant in step is never refused once its address is accepted. -/
theorem InStep.withScale {plant : Plant K} (inStep : plant.InStep) (scale : K)
    {abstract : Mode} (writes : abstract.writes = true) :
    plant.withScale scale abstract = .ok (plant.followed scale) := by
  rw [Plant.withScale, if_pos writes]
  cases inStep.objective_cases with
  | inl unset =>
      rw [withCosts_of_none (show (plant.rescaled scale).objective = none from unset)]
      refine congrArg Except.ok ?_
      rw [Plant.followed, unset, Option.map_none, ← unset]
      rfl
  | inr generated =>
      rw [withCosts_rescaled generated, Plant.followed, generated]
      rfl

theorem followed_generatedTo (plant : Plant K) (scale : K) (stage : Stage) :
    (plant.stripped.generatedTo stage).followed scale =
      (plant.stripped.rescaled scale).generatedTo stage := by
  cases stage <;> rfl

theorem InStep.followed {plant : Plant K} (inStep : plant.InStep) (scale : K) :
    (plant.followed scale).InStep := by
  rw [InStep] at inStep
  calc
    (plant.followed scale).stripped.generatedTo (plant.followed scale).stage =
        (plant.stripped.generatedTo plant.stage).followed scale :=
      (plant.followed_generatedTo scale plant.stage).symm
    _ = plant.followed scale := by rw [inStep]

/-- Once generated, a plant has power variables unless it has no use for any. -/
theorem InStep.activePower_isEmpty {plant : Plant K} (inStep : plant.InStep)
    (generated : plant.stage.hasVariables = true) (generators : 0 < plant.generators)
    (horizon : 0 < plant.horizon) : plant.activePower.isEmpty = false := by
  have grid : plant.activePower = ⟨0, plant.generators, plant.horizon⟩ := by
    rw [InStep] at inStep
    cases reached : plant.stage with
    | empty =>
        rw [reached] at generated
        cases generated
    | vars => rw [← inStep, reached]; rfl
    | constraints => rw [← inStep, reached]; rfl
    | objective => rw [← inStep, reached]; rfl
  rw [grid, Grid.isEmpty, Grid.size]
  exact beq_eq_false_iff_ne.mpr (Nat.ne_of_gt (Nat.mul_pos generators horizon))

/-- Either nothing happened to the plant, or it has a new scale that is followed through. -/
theorem InStep.setScaleAt {plant : Plant K} (inStep : plant.InStep) (address : Address)
    (values : List K) (physical : Mode) {abstract : Mode} (writes : abstract.writes = true) :
    ((Plant.setScaleAt address values physical abstract plant).state = plant ∧
        (Plant.setScaleAt address values physical abstract plant).result ≠ .ok .applied) ∨
      ∃ scale, (Plant.setScaleAt address values physical abstract plant).state =
          plant.followed scale ∧
        (Plant.setScaleAt address values physical abstract plant).result = .ok .applied := by
  rw [setScaleAt_apply]
  cases address.select 1 values.length "scale" with
  | error error => exact .inl ⟨rfl, by simp⟩
  | ok selected =>
      cases selected with
      | none => exact .inl ⟨rfl, by simp⟩
      | some selection =>
          dsimp only
          rw [updateScale_apply]
          dsimp only
          split
          · exact .inl ⟨rfl, by simp⟩
          · split
            · exact .inl ⟨rfl, by simp⟩
            · rw [inStep.withScale _ writes]
              exact .inr ⟨_, rfl, rfl⟩

end Dispatch.Plant
