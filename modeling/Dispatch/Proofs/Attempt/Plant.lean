import Dispatch.Plant.File
import Dispatch.Proofs.Attempt.Change
import Dispatch.Proofs.Group.Runs
import Dispatch.Proofs.Plant.Update
import Dispatch.Proofs.Table

namespace Dispatch

/-! Plants whose arrays have the sizes of the plant. Rescaling one finds whatever it looks
up, and is refused for its address alone. -/

variable {K : Type}

namespace PlantData

def profiles (data : PlantData K) : List (List K) :=
  [data.minPower, data.maxPower, data.linearCost, data.fixedConsumption, data.inertiaPower,
    data.inertiaCommitment]

/-- Every profile is absent or complete. -/
def Shaped (data : PlantData K) : Prop :=
  ∀ profile ∈ data.profiles, profile = [] ∨ profile.length = data.generators * data.horizon

/-- What the constructor and the extensions make. -/
inductive Built : PlantData K → Prop
  | new {generators horizon : Nat} {minPower maxPower : List K} {data : PlantData K}
      (created : PlantData.new generators horizon minPower maxPower = .ok data) : Built data
  | withLinearCost {data result : PlantData K} {values : List K} (built : Built data)
      (extended : data.withLinearCost values = .ok result) : Built result
  | withCommitment {data : PlantData K} (built : Built data) : Built data.withCommitment
  | withReserves {data : PlantData K} (primary secondary : Bool) (built : Built data) :
      Built (data.withReserves primary secondary)
  | withFixedConsumption {data result : PlantData K} {values : List K} (built : Built data)
      (extended : data.withFixedConsumption values = .ok result) : Built result
  | withInertia {data result : PlantData K} {power commitment : List K} (built : Built data)
      (extended : data.withInertia power commitment = .ok result) : Built result

variable {data result : PlantData K}

/-- A profile that is replaced by an expanded one. -/
private theorem Shaped.extended (shaped : data.Shaped)
    (sizes : result.generators = data.generators ∧ result.horizon = data.horizon)
    {values profile : List K} {what : String}
    (expanded : data.expanded values what = .ok profile)
    (others : ∀ other ∈ result.profiles, other = profile ∨ other ∈ data.profiles) :
    result.Shaped := by
  intro other member
  rw [sizes.1, sizes.2]
  cases others other member with
  | inl new =>
      subst new
      exact .inr (expand_ok expanded)
  | inr old => exact shaped other old

theorem shaped_new {generators horizon : Nat} {minPower maxPower : List K}
    (created : PlantData.new generators horizon minPower maxPower = .ok data) :
    data.Shaped := by
  obtain ⟨minimum, expandedMin, created⟩ := Except.bind_eq_ok.mp created
  obtain ⟨maximum, expandedMax, created⟩ := Except.bind_eq_ok.mp created
  cases created
  intro profile member
  simp only [profiles, List.mem_cons, List.not_mem_nil, or_false] at member
  rcases member with rfl | rfl | rfl | rfl | rfl | rfl
  · exact .inr (expand_ok expandedMin)
  · exact .inr (expand_ok expandedMax)
  all_goals exact .inl rfl

theorem Shaped.withLinearCost {values : List K} (shaped : data.Shaped)
    (extended : data.withLinearCost values = .ok result) : result.Shaped := by
  obtain ⟨profile, expanded, equality⟩ := Except.bind_eq_ok.mp extended
  cases equality
  exact shaped.extended ⟨rfl, rfl⟩ expanded (by simp [profiles])

theorem Shaped.withFixedConsumption {values : List K} (shaped : data.Shaped)
    (extended : data.withFixedConsumption values = .ok result) : result.Shaped := by
  obtain ⟨profile, expanded, equality⟩ := Except.bind_eq_ok.mp extended
  cases equality
  exact shaped.extended ⟨rfl, rfl⟩ expanded (by simp [profiles])

theorem Shaped.withInertiaPower {values : List K} (shaped : data.Shaped)
    (extended : data.withInertiaPower values = .ok result) : result.Shaped := by
  obtain ⟨profile, expanded, equality⟩ := Except.bind_eq_ok.mp extended
  cases equality
  exact shaped.extended ⟨rfl, rfl⟩ expanded (by simp [profiles])

theorem Shaped.withInertiaCommitment {values : List K} (shaped : data.Shaped)
    (extended : data.withInertiaCommitment values = .ok result) : result.Shaped := by
  obtain ⟨profile, expanded, equality⟩ := Except.bind_eq_ok.mp extended
  cases equality
  exact shaped.extended ⟨rfl, rfl⟩ expanded (by simp [profiles])

theorem Built.shaped (built : data.Built) : data.Shaped := by
  induction built with
  | new created => exact shaped_new created
  | withLinearCost _ extended shaped => exact shaped.withLinearCost extended
  | withCommitment _ shaped => exact shaped
  | withReserves _ _ _ shaped => exact shaped
  | withFixedConsumption _ extended shaped => exact shaped.withFixedConsumption extended
  | withInertia _ extended shaped =>
      obtain ⟨powered, power, commitment⟩ := Except.bind_eq_ok.mp extended
      exact (shaped.withInertiaPower power).withInertiaCommitment commitment

theorem mem_cells {generator instant : Nat} :
    (generator, instant) ∈ data.cells ↔ generator < data.generators ∧ instant < data.horizon := by
  simp [cells]

/-- A place of the plant has an entry in each of its profiles. -/
theorem Shaped.entry_found [Zero K] (shaped : data.Shaped) {profile : List K}
    (member : profile ∈ data.profiles) {generator instant : Nat}
    (generator_lt : generator < data.generators) (instant_lt : instant < data.horizon) :
    data.entry? profile generator instant = some (data.entry profile generator instant) := by
  unfold entry
  cases found : data.entry? profile generator instant with
  | some entry => rfl
  | none =>
      unfold PlantData.entry? at found
      cases shaped profile member with
      | inl empty => simp [empty] at found
      | inr length =>
          split at found
          · cases found
          · have within : data.position generator instant < profile.length := by
              rw [length]
              exact Family.index_lt generator_lt instant_lt
            rw [List.getElem?_eq_getElem within] at found
            cases found

end PlantData

namespace Plant

variable [Scalar K]

open Attempt (look)

def costCoefficients? (plant : Plant K) : Option (List K) :=
  plant.data.cells.mapM fun cell => do
    return plant.scale * (← plant.data.entry? plant.data.linearCost cell.1 cell.2)

def patchCosts? : Attempt (Plant K) PUnit := do
  let plant ← Attempt.current
  match plant.objective with
  | none => return ⟨⟩
  | some objective => do
      let values ← look plant.costCoefficients?
      let function ← Attempt.require
        (objective.function.setCoefficients (List.range values.length) values)
      Attempt.write fun _ => { plant with objective := some { objective with function } }

def updateScale? (selection : Selection) (values : List K) (physical abstract : Mode) :
    Attempt (Plant K) Outcome := do
  let plant ← Attempt.current
  let differs ← look (selection.differs? [plant.scale] 1 values)
  if !differs then return .unchanged
  if !physical.writes then return .dryRun
  let stored ← look (selection.write? [plant.scale] 1 1 values)
  let scale ← look stored[0]?
  Attempt.write fun plant => { plant with scale }
  if abstract.writes then patchCosts?
  Attempt.report physical plant.notifier (selection.record plant.id .scale)
  return .applied

def setScaleAt? (address : Address) (values : List K) (physical abstract : Mode) :
    Attempt (Plant K) Outcome := do
  match ← Attempt.require (address.select 1 values.length "scale") with
  | none => return .unchanged
  | some selection => updateScale? selection values physical abstract

/-- The arrays of a plant have its sizes, and its cost has a term for every place. -/
structure Shaped (plant : Plant K) : Prop where
  data : plant.data.Shaped
  costs : ∀ objective, plant.objective = some objective →
    objective.function.terms.length = plant.data.cells.length

variable {plant : Plant K}

omit [Scalar K] in
/-- The generated rows and the variables play no part. -/
theorem Shaped.congr {other : Plant K} (shaped : plant.Shaped) (data : other.data = plant.data)
    (objective : other.objective = plant.objective) : other.Shaped := by
  refine ⟨data ▸ shaped.data, ?_⟩
  rw [data, objective]
  exact shaped.costs

theorem shaped_ofData {data : PlantData K} (id : BlockId) (shaped : data.Shaped) :
    (ofData id data).Shaped :=
  ⟨shaped, fun _ generated => by cases generated⟩

theorem Shaped.withObjective (shaped : plant.Shaped) : plant.withObjective.Shaped := by
  refine ⟨shaped.data, fun objective generated => ?_⟩
  cases generated
  simp [costFunction, LinearFunction.ofTerms, Plant.withObjective]

theorem costCoefficients?_eq (shaped : plant.data.Shaped) :
    plant.costCoefficients? = some plant.costCoefficients := by
  refine Lookup.mapM_eq_some fun cell member => ?_
  obtain ⟨generator_lt, instant_lt⟩ := PlantData.mem_cells.mp member
  rw [shaped.entry_found (by simp [PlantData.profiles]) generator_lt instant_lt]
  rfl

theorem completes_patchCosts (shaped : plant.data.Shaped) :
    Attempt.Completes patchCosts? patchCosts plant := by
  apply Attempt.Completes.current
  cases generated : plant.objective with
  | none =>
      rw [withCosts_of_none generated]
      rfl
  | some objective =>
      apply Attempt.Completes.look (costCoefficients?_eq shaped)
      rw [withCosts, generated]
      dsimp only
      cases objective.function.setCoefficients (List.range plant.costCoefficients.length)
        plant.costCoefficients with
      | error error => rfl
      | ok function => rfl

theorem completes_updateScale (shaped : plant.data.Shaped) {selection : Selection}
    (within : ∀ index ∈ selection.indices, index < 1) (values : List K)
    (physical abstract : Mode) :
    Attempt.Completes (updateScale? selection values physical abstract)
      (updateScale selection values physical abstract) plant := by
  have single : [plant.scale] = [] ∨ [plant.scale].length = 1 := .inr rfl
  apply Attempt.Completes.current
  apply Attempt.Completes.look (selection.differs?_eq within single 1 values)
  refine Attempt.Completes.ite (fun _ => rfl) fun _ =>
    Attempt.Completes.ite (fun _ => rfl) fun _ => ?_
  apply Attempt.Completes.look (selection.write?_eq within single 1 values)
  have length := selection.length_write single 1 values
  obtain ⟨scale, written⟩ := List.length_eq_one_iff.mp length
  apply Attempt.Completes.look (show _ = some scale by rw [written]; rfl)
  rw [written]
  apply Attempt.Completes.write
  refine Attempt.Completes.ite (fun _ => ?_) fun _ => Attempt.Completes.report rfl
  exact Attempt.Completes.bind (completes_patchCosts shaped) fun _ _ =>
    Attempt.Completes.report rfl

theorem completes_setScaleAt (shaped : plant.Shaped) (address : Address) (values : List K)
    (physical abstract : Mode) :
    Attempt.Completes (setScaleAt? address values physical abstract)
      (setScaleAt address values physical abstract) plant := by
  refine Attempt.Completes.require fun selected found => ?_
  cases selected with
  | none => rfl
  | some selection =>
      exact completes_updateScale shaped.data (Address.select_sound found).1 values physical
        abstract

/-- Costs that have a term for every place can always be patched. -/
theorem Shaped.withCosts (shaped : plant.Shaped) :
    ∃ result, plant.withCosts = .ok result ∧ result.Shaped ∧ plant.SameFrame result := by
  unfold Plant.withCosts
  cases generated : plant.objective with
  | none => exact ⟨plant, rfl, shaped, rfl, rfl, rfl, rfl, rfl⟩
  | some objective =>
      have size := shaped.costs objective generated
      have patched := LinearFunction.setCoefficients_ok
        (show plant.costCoefficients.length = _ from List.length_range.symm)
        (fun position member => by
          rw [size, ← length_costCoefficients]
          exact List.mem_range.mp member)
      dsimp only
      rw [patched]
      refine ⟨_, rfl, ⟨shaped.data, fun _ same => ?_⟩, rfl, rfl, rfl, rfl, rfl⟩
      cases same
      rw [← size]
      simpa using congrArg List.length (LinearFunction.vars_foldl_setCoefficient
        ((List.range plant.costCoefficients.length).zip plant.costCoefficients)
        objective.function)

theorem Shaped.withScale (shaped : plant.Shaped) (scale : K) (abstract : Mode) :
    ∃ result, plant.withScale scale abstract = .ok result ∧ result.Shaped ∧
      plant.SameFrame result := by
  have rescaled : (plant.rescaled scale).Shaped := ⟨shaped.data, shaped.costs⟩
  unfold Plant.withScale
  split
  · obtain ⟨result, written, kept, frame⟩ := rescaled.withCosts
    exact ⟨result, written, kept, frame.data, frame.activePower, frame.commitment,
      frame.primaryReserve, frame.secondaryReserve⟩
  · exact ⟨plant.rescaled scale, rfl, rescaled, rfl, rfl, rfl, rfl, rfl⟩

/-- Once its address is accepted, a new scale is never refused. -/
theorem Shaped.setScaleAt_cases (shaped : plant.Shaped) (address : Address) (values : List K)
    (physical abstract : Mode) :
    (∃ error, setScaleAt address values physical abstract plant =
        ⟨plant, [], .error error⟩) ∨
      ∃ result notices outcome, setScaleAt address values physical abstract plant =
          ⟨result, notices, .ok outcome⟩ ∧ result.Shaped ∧ plant.SameFrame result := by
  have still := SameFrame.refl plant
  rw [setScaleAt_apply]
  split
  · exact .inl ⟨_, rfl⟩
  · exact .inr ⟨_, _, _, rfl, shaped, still⟩
  · rename_i selection _
    rw [updateScale_apply]
    dsimp only
    split
    · exact .inr ⟨_, _, _, rfl, shaped, still⟩
    · split
      · exact .inr ⟨_, _, _, rfl, shaped, still⟩
      · obtain ⟨result, written, kept, frame⟩ := shaped.withScale
          ((selection.write [plant.scale] 1 1 values).headD plant.scale) abstract
        rw [written]
        exact .inr ⟨_, _, _, rfl, kept, frame⟩

theorem Shaped.setScaleAt (shaped : plant.Shaped) (address : Address) (values : List K)
    (physical abstract : Mode) :
    (Plant.setScaleAt address values physical abstract plant).state.Shaped := by
  rcases shaped.setScaleAt_cases address values physical abstract with
    ⟨error, refused⟩ | ⟨result, notices, outcome, accepted, kept, -⟩
  · rw [refused]
    exact shaped
  · rw [accepted]
    exact kept

theorem Shaped.atomic_setScaleAt (shaped : plant.Shaped) (address : Address)
    (values : List K) (physical abstract : Mode) :
    (Plant.setScaleAt address values physical abstract).Atomic plant := by
  rcases shaped.setScaleAt_cases address values physical abstract with
    ⟨error, refused⟩ | ⟨result, notices, outcome, accepted, -⟩
  · exact Change.atomic_of_error refused
  · exact Change.atomic_of_ok (congrArg Effect.result accepted)

end Plant

end Dispatch
