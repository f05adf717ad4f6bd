import Dispatch.Proofs.Attempt.Places
import Dispatch.Proofs.Number.Weighing

namespace Dispatch

/-! What generators supply, where every variable has a number. The balance of a node has the terms
of the generators there; their fixed consumption is on its other side. -/

/-- The value of a variable, zero for one that does not exist. -/
def reading (values : VarRef → ℚ) (var? : Option VarRef) : ℚ :=
  var?.elim 0 values

/-- What holds of zero and of every value in a profile holds of each entry. -/
theorem PlantData.entry_of_forall {K : Type} [Zero K] (data : PlantData K) {profile : List K}
    {holds : K → Prop} (every : ∀ value ∈ profile, holds value) (zero : holds 0)
    (generator instant : Nat) : holds (data.entry profile generator instant) := by
  unfold entry entry?
  split
  · exact zero
  · cases found : profile[data.position generator instant]? with
    | none => exact zero
    | some value => exact every value (List.mem_of_getElem? found)

namespace Plant

variable {plant : Plant Exact} {values : VarRef → ℚ} {generator instant : Nat}

/-- What a generator supplies in all: its power, and the fixed consumption that is not due while
it is on. -/
def supplied (plant : Plant Exact) (values : VarRef → ℚ) (generator instant : Nat) : Exact :=
  plant.scale * (.number (reading values (plant.activePowerVar? generator instant)) +
    if plant.data.commitment && plant.hasFixedConsumption then
      plant.fixedConsumption generator instant *
        (1 - .number (reading values (plant.commitmentVar? generator instant)))
    else 0)

/-- What a generator takes from the level of its node. -/
def consumed (plant : Plant Exact) (generator instant : Nat) : Exact :=
  if plant.data.commitment && plant.hasFixedConsumption then
    plant.scale * plant.fixedConsumption generator instant
  else 0

structure Numeric (plant : Plant Exact) : Prop where
  scale : plant.scale.isNumber = true
  consumption : ∀ value ∈ plant.data.fixedConsumption, value.isNumber = true

instance : Decidable plant.Numeric :=
  decidable_of_iff (plant.scale.isNumber = true ∧
    ∀ value ∈ plant.data.fixedConsumption, value.isNumber = true)
    ⟨fun ⟨scale, consumption⟩ => ⟨scale, consumption⟩,
      fun numeric => ⟨numeric.scale, numeric.consumption⟩⟩

theorem Numeric.fixedConsumption (numeric : plant.Numeric) (generator instant : Nat) :
    (plant.fixedConsumption generator instant).isNumber = true :=
  plant.data.entry_of_forall numeric.consumption rfl generator instant

theorem Numeric.consumed (numeric : plant.Numeric) (generator instant : Nat) :
    (plant.consumed generator instant).isNumber = true := by
  obtain ⟨scale, scales⟩ := Exact.eq_number_of_isNumber numeric.scale
  obtain ⟨fixed, fixes⟩ :=
    Exact.eq_number_of_isNumber (numeric.fixedConsumption generator instant)
  unfold Plant.consumed
  rw [scales, fixes]
  split <;> rfl

end Plant

namespace Schedule

variable {schedule : Schedule Exact} {plant : Plant Exact} {values : VarRef → ℚ}
  {generator instant node : Nat}

theorem weigh_weighted (var? : Option VarRef) (weight : ℚ) :
    weigh values (weighted var? (.number weight)) = .number (weight * reading values var?) := by
  cases var? with
  | none => simp [weighted, reading, Exact.zero_def]
  | some var => simp [weighted, reading, Exact.zero_def]

/-- A generator's terms in the balance of its node, and what it takes from the level. -/
theorem weigh_balanceTerms (numeric : plant.Numeric)
    (uncommitted : plant.data.commitment = false → plant.commitment.isEmpty = true) :
    weigh values (balanceTerms plant generator instant) + plant.consumed generator instant =
      plant.supplied values generator instant := by
  obtain ⟨scale, scales⟩ := Exact.eq_number_of_isNumber numeric.scale
  obtain ⟨fixed, fixes⟩ :=
    Exact.eq_number_of_isNumber (numeric.fixedConsumption generator instant)
  unfold balanceTerms Plant.consumed Plant.supplied
  rw [weigh_append, weigh_ite, scales, fixes, Exact.neg_number, Exact.number_mul_number,
    weigh_weighted, weigh_weighted]
  cases consumes : plant.hasFixedConsumption with
  | false => simp [Exact.zero_def]
  | true =>
      cases commits : plant.data.commitment with
      | false =>
          have none : plant.commitmentVar? generator instant = none := by
            rw [Plant.commitmentVar?, Store.cell?, uncommitted commits, if_pos rfl]
          simp [none, reading, Exact.zero_def]
      | true =>
          simp only [Bool.and_self, if_true, Exact.number_add_number, Exact.number_mul_number,
            Exact.one_def, Exact.sub_def, Exact.neg_number]
          congr 1
          ring

/-- What the generators at a node supply. -/
def suppliedAt (schedule : Schedule Exact) (values : VarRef → ℚ) (instant node : Nat) : Exact :=
  (schedule.generatorPlaces.map fun place =>
    if schedule.nodeOf place.2.2 = node then place.1.supplied values place.2.1 instant else 0).sum

theorem sum_generatorPlaces {M : Type} [AddMonoid M] (value : Plant Exact → Nat → Nat → M) :
    (schedule.generatorPlaces.map fun place => value place.1 place.2.1 place.2.2).sum =
      (schedule.plants.zipIdx.map fun entry =>
        ((List.range entry.1.generators).map fun generator =>
          value entry.1 generator (schedule.offset entry.2 + generator)).sum).sum := by
  rw [generatorPlaces, sum_map_flatMap]
  simp only [List.map_map]
  rfl

theorem weigh_runs (schedule : Schedule Exact) (values : VarRef → ℚ) (instant node : Nat) :
    weigh values (schedule.runs (.balance instant node)).flatten =
      (schedule.generatorPlaces.map fun place => if schedule.nodeOf place.2.2 = node then
        weigh values (balanceTerms place.1 place.2.1 instant) else 0).sum := by
  rw [sum_generatorPlaces fun plant generator number => if schedule.nodeOf number = node then
    weigh values (balanceTerms plant generator instant) else 0, runs,
    List.mapIdx_eq_zipIdx_map, ← List.flatMap_def, weigh_flatMap]
  refine congrArg List.sum (List.map_congr_left fun entry _ => ?_)
  unfold plantTerms
  dsimp only
  rw [weigh_flatMap]
  simp only [weigh_ite, beq_iff_eq]

theorem sum_fixedConsumption (schedule : Schedule Exact) (instant node : Nat) :
    Scalar.sum (schedule.plants.mapIdx fun index plant =>
      schedule.fixedConsumption index plant instant node) =
      (schedule.generatorPlaces.map fun place => if schedule.nodeOf place.2.2 = node then
        place.1.consumed place.2.1 instant else 0).sum := by
  rw [sum_generatorPlaces fun plant generator number => if schedule.nodeOf number = node then
    plant.consumed generator instant else 0, Exact.scalarSum_eq, List.mapIdx_eq_zipIdx_map]
  refine congrArg List.sum (List.map_congr_left fun ⟨plant, index⟩ _ => ?_)
  unfold fixedConsumption Plant.consumed
  dsimp only
  split
  · rw [Exact.scalarSum_eq, sum_map_filter]
    simp only [beq_iff_eq]
  · simp

/-- The balance of a node without its head has what the generators there supply, once what they
consume is on the side of their terms. -/
theorem weigh_runs_add (numeric : ∀ plant ∈ schedule.plants, plant.Numeric)
    (uncommitted : ∀ plant ∈ schedule.plants, plant.data.commitment = false →
      plant.commitment.isEmpty = true) (instant node : Nat) :
    weigh values (schedule.runs (.balance instant node)).flatten +
      Scalar.sum (schedule.plants.mapIdx fun index plant =>
        schedule.fixedConsumption index plant instant node) =
      schedule.suppliedAt values instant node := by
  rw [weigh_runs, sum_fixedConsumption, ← List.sum_map_add, suppliedAt]
  refine congrArg List.sum (List.map_congr_left fun place member => ?_)
  obtain ⟨index, found, -⟩ := mem_generatorPlaces.mp member
  have present := List.mem_of_getElem? found
  split
  · exact weigh_balanceTerms (numeric _ present) (uncommitted _ present)
  · exact add_zero 0

theorem isNumber_fixedConsumption (numeric : ∀ plant ∈ schedule.plants, plant.Numeric)
    (instant node : Nat) :
    (Scalar.sum (schedule.plants.mapIdx fun index plant =>
      schedule.fixedConsumption index plant instant node)).isNumber = true := by
  rw [sum_fixedConsumption]
  refine Exact.isNumber_sum (List.forall_mem_map.mpr fun place member => ?_)
  obtain ⟨index, found, -⟩ := mem_generatorPlaces.mp member
  split
  · exact (numeric _ (List.mem_of_getElem? found)).consumed _ _
  · rfl

/-- A balance row that is met, with all consumption on one side. -/
theorem headOf_add_suppliedAt (numeric : ∀ plant ∈ schedule.plants, plant.Numeric)
    (uncommitted : ∀ plant ∈ schedule.plants, plant.data.commitment = false →
      plant.commitment.isEmpty = true)
    (met : (schedule.rowOf (.balance instant node)).Met values) :
    weigh values (schedule.headOf (.balance instant node)) +
        schedule.suppliedAt values instant node =
      if schedule.isBus then schedule.demandAt node instant else 0 := by
  obtain ⟨fixed, fixes⟩ :=
    Exact.eq_number_of_isNumber (isNumber_fixedConsumption numeric instant node)
  have level := met.weigh_eq
  rw [weigh_append, linkBounds, balanceLevel, fixes] at level
  rw [← weigh_runs_add numeric uncommitted, fixes, ← add_assoc, level,
    Exact.sub_add_cancel_number]

end Schedule

end Dispatch
