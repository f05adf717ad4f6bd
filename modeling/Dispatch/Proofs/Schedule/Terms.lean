import Dispatch.Proofs.Plant.Update
import Dispatch.Proofs.Schedule.Rows

namespace Dispatch.Schedule

/-! The terms of a plant in a linking row: which variables they carry depends on where the
plant's generators stand, and only the coefficients depend on its scale. -/

variable {K M : Type}

/-- Schedules whose rows stand at the same places. -/
structure SameShape (first : Schedule K) (second : Schedule M) : Prop where
  horizon : first.horizon = second.horizon
  nodes : first.nodes = second.nodes
  generatorNode : first.generatorNode = second.generatorNode
  count : ∀ need, (first.zoning need).count = (second.zoning need).count
  zoneCounts : first.emissions.zoneCounts = second.emissions.zoneCounts
  generators : first.plants.map Plant.generators = second.plants.map Plant.generators

namespace SameShape

variable {first : Schedule K} {second : Schedule M}

theorem offset (same : SameShape first second) (index : Nat) :
    first.offset index = second.offset index := by
  unfold Schedule.offset
  rw [List.map_take, List.map_take, same.generators]

theorem total (same : SameShape first second) : first.generators = second.generators := by
  unfold Schedule.generators
  rw [same.generators]

theorem nodeOf (same : SameShape first second) (generator : Nat) :
    first.nodeOf generator = second.nodeOf generator := by
  unfold Schedule.nodeOf
  rw [same.generatorNode]

theorem linkRows (same : SameShape first second) (kind : LinkKind) :
    first.linkRows kind = second.linkRows kind := by
  cases kind with
  | balance => simp only [Schedule.linkRows, same.horizon, same.nodes]
  | zonal need => simp only [Schedule.linkRows, same.horizon, same.count]
  | budget => simp only [Schedule.linkRows, pollutantZones, same.zoneCounts]

theorem linkCols (same : SameShape first second) (kind : LinkKind) :
    first.linkCols kind = second.linkCols kind := by
  cases kind <;> simp only [Schedule.linkCols, same.nodes, same.count]

theorem linkKeys (same : SameShape first second) (kind : LinkKind) :
    first.linkKeys kind = second.linkKeys kind := by
  cases kind <;>
    simp only [Schedule.linkKeys, Emissions.totalZones, same.nodes, same.count, same.zoneCounts]

theorem rowKey (same : SameShape first second) (row : LinkRow) :
    first.rowKey row = second.rowKey row := by
  cases row <;> simp only [Schedule.rowKey, Emissions.offset, same.zoneCounts]

theorem keyRows (same : SameShape first second) (kind : LinkKind) (key : Nat) :
    first.keyRows kind key = second.keyRows kind key := by
  cases kind <;> simp only [Schedule.keyRows, same.horizon, same.zoneCounts]

theorem rowPlace (same : SameShape first second) (row : LinkRow) :
    first.rowPlace row = second.rowPlace row := by
  cases row <;> simp only [Schedule.rowPlace, same.rowKey]

end SameShape

/-- Schedules whose plants stand at the same places and serve the same zones. -/
structure SameLayout (first second : Schedule K) : Prop where
  horizon : first.horizon = second.horizon
  nodes : first.nodes = second.nodes
  generatorNode : first.generatorNode = second.generatorNode
  zoning : ∀ need, first.zoning need = second.zoning need
  emissions : first.emissions = second.emissions
  generators : first.plants.map Plant.generators = second.plants.map Plant.generators

theorem SameLayout.shape {first second : Schedule K} (same : SameLayout first second) :
    SameShape first second :=
  { same with
    count := fun need => congrArg Zoning.count (same.zoning need)
    zoneCounts := congrArg Emissions.zoneCounts same.emissions }

@[simp] theorem vars_weighted (var? : Option VarRef) (weight : K) :
    (weighted var? weight).map Prod.fst = var?.toList := by
  cases var? <;> rfl

theorem length_weighted (var? : Option VarRef) (weight : K) :
    (weighted var? weight).length = var?.toList.length := by
  cases var? <;> rfl

/-- A grid either holds a variable at every place or at none. -/
theorem length_cell? (store : Store K) (grid : Grid) (row col : Nat) :
    (store.cell? grid row col).toList.length = if grid.isEmpty then 0 else 1 := by
  unfold Store.cell?
  split <;> rfl

variable [Scalar K]

theorem SameLayout.plantTerms {first second : Schedule K} (same : SameLayout first second)
    (index : Nat) (plant : Plant K) (row : LinkRow) :
    first.plantTerms index plant row = second.plantTerms index plant row := by
  have nodes : first.nodeOf = second.nodeOf := funext same.shape.nodeOf
  cases row with
  | balance instant node => simp only [Schedule.plantTerms, same.shape.offset, nodes]
  | zonal need instant zone =>
      simp only [Schedule.plantTerms, same.shape.offset, nodes, same.zoning]
  | budget pollutant zone =>
      simp only [Schedule.plantTerms, same.shape.offset, nodes, same.horizon, same.emissions,
        same.nodes, budgetTerms, same.shape.total]

theorem SameLayout.fixedConsumption {first second : Schedule K}
    (same : SameLayout first second) (index : Nat) (plant : Plant K) (instant node : Nat) :
    first.fixedConsumption index plant instant node =
      second.fixedConsumption index plant instant node := by
  unfold Schedule.fixedConsumption
  rw [same.shape.offset, funext same.shape.nodeOf]

/-- The variables of a plant's terms do not depend on its scale. -/
theorem vars_plantTerms_rescaled (schedule : Schedule K) (index : Nat) (plant : Plant K)
    (scale : K) (row : LinkRow) :
    (schedule.plantTerms index (plant.rescaled scale) row).map Prod.fst =
      (schedule.plantTerms index plant row).map Prod.fst := by
  have balance (generator instant : Nat) :
      (balanceTerms (plant.rescaled scale) generator instant).map Prod.fst =
        (balanceTerms plant generator instant).map Prod.fst := by
    have fixed : (plant.rescaled scale).hasFixedConsumption = plant.hasFixedConsumption := rfl
    unfold balanceTerms
    rw [fixed]
    split <;> simp <;> rfl
  have need (need : Need) (generator instant : Nat) :
      (needTerms (plant.rescaled scale) need generator instant).map Prod.fst =
        (needTerms plant need generator instant).map Prod.fst := by
    have commitment : (plant.rescaled scale).hasInertiaCommitment =
        plant.hasInertiaCommitment := rfl
    have power : (plant.rescaled scale).hasInertiaPower = plant.hasInertiaPower := rfl
    cases need with
    | primary => simp [needTerms]; rfl
    | secondary => simp [needTerms]; rfl
    | inertia =>
        simp only [needTerms, commitment, power]
        split <;> split <;> simp <;> rfl
  have generators : (plant.rescaled scale).generators = plant.generators := rfl
  cases row with
  | balance instant node =>
      simp only [plantTerms, generators, List.map_flatMap, apply_ite (List.map Prod.fst),
        balance]
  | zonal kind instant zone =>
      simp only [plantTerms, generators, List.map_flatMap, apply_ite (List.map Prod.fst), need]
  | budget pollutant zone =>
      simp only [plantTerms, generators, List.map_flatMap, apply_ite (List.map Prod.fst),
        budgetTerms, vars_weighted]
      rfl

/-! The number of terms depends on the plant's frame, and on a row only by its key. -/

theorem length_balanceTerms {before after : Plant K} (same : before.SameFrame after)
    (generator instant other : Nat) :
    (balanceTerms after generator instant).length =
      (balanceTerms before generator other).length := by
  have fixed : after.hasFixedConsumption = before.hasFixedConsumption := by
    unfold Plant.hasFixedConsumption
    rw [same.data]
  unfold balanceTerms Plant.activePowerVar? Plant.commitmentVar?
  rw [fixed, same.activePower, same.commitment]
  split <;> simp only [List.length_append, length_weighted, List.length_nil, length_cell?]

theorem length_needTerms {before after : Plant K} (same : before.SameFrame after)
    (need : Need) (generator instant other : Nat) :
    (needTerms after need generator instant).length =
      (needTerms before need generator other).length := by
  have commitment : after.hasInertiaCommitment = before.hasInertiaCommitment := by
    unfold Plant.hasInertiaCommitment
    rw [same.data]
  have power : after.hasInertiaPower = before.hasInertiaPower := by
    unfold Plant.hasInertiaPower
    rw [same.data]
  cases need with
  | primary =>
      simp only [needTerms, length_weighted, Plant.primaryReserveVar?, same.primaryReserve,
        length_cell?]
  | secondary =>
      simp only [needTerms, length_weighted, Plant.secondaryReserveVar?, same.secondaryReserve,
        length_cell?]
  | inertia =>
      simp only [needTerms, commitment, power, Plant.commitmentVar?, Plant.activePowerVar?,
        same.commitment, same.activePower]
      split <;> split <;>
        simp only [List.length_append, length_weighted, List.length_nil, length_cell?]

theorem length_plantTerms (schedule : Schedule K) (index : Nat) {before after : Plant K}
    (same : before.SameFrame after) (row : LinkRow) :
    (schedule.plantTerms index after row).length =
      (schedule.plantTerms index before row).length := by
  have generators : after.generators = before.generators := by
    unfold Plant.generators
    rw [same.data]
  cases row with
  | balance instant node =>
      simp only [plantTerms, generators, List.length_flatMap, apply_ite List.length,
        length_balanceTerms same _ instant instant]
  | zonal need instant zone =>
      simp only [plantTerms, generators, List.length_flatMap, apply_ite List.length,
        length_needTerms same _ _ instant instant]
  | budget pollutant zone =>
      simp only [plantTerms, generators, List.length_flatMap, apply_ite List.length,
        budgetTerms, length_weighted, Plant.activePowerVar?, same.activePower, length_cell?]

/-- Rows of one key have runs of one length. -/
theorem length_plantTerms_of_rowKey {schedule : Schedule K} {kind : LinkKind}
    {first second : LinkRow} (firstMember : first ∈ schedule.linkRows kind)
    (secondMember : second ∈ schedule.linkRows kind)
    (keys : schedule.rowKey first = schedule.rowKey second) (index : Nat) (plant : Plant K) :
    (schedule.plantTerms index plant first).length =
      (schedule.plantTerms index plant second).length := by
  have still := Plant.SameFrame.refl plant
  cases kind with
  | balance =>
      obtain ⟨instant, _, node, _, rfl⟩ := Family.mem_table.mp firstMember
      obtain ⟨other, _, otherNode, _, rfl⟩ := Family.mem_table.mp secondMember
      cases keys
      simp only [plantTerms, List.length_flatMap, apply_ite List.length,
        length_balanceTerms still _ instant other]
  | zonal need =>
      obtain ⟨instant, _, zone, _, rfl⟩ := Family.mem_table.mp firstMember
      obtain ⟨other, _, otherZone, _, rfl⟩ := Family.mem_table.mp secondMember
      cases keys
      simp only [plantTerms, List.length_flatMap, apply_ite List.length,
        length_needTerms still _ _ instant other]
  | budget =>
      have place (row : LinkRow) (member : row ∈ schedule.linkRows .budget) :
          schedule.rowIndex .budget row = schedule.rowKey row := by
        obtain ⟨_, _, rfl⟩ := List.mem_map.mp member
        simp [rowIndex, rowPlace, linkCols]
      have there := getElem?_linkRows.mpr ⟨firstMember, rfl⟩
      have here := getElem?_linkRows.mpr ⟨secondMember, rfl⟩
      rw [place _ firstMember, keys, ← place _ secondMember, here] at there
      cases there
      rfl

/-- Without terms in a balance row, a plant with variables has no generator at the node. -/
theorem generators_of_plantTerms_eq_nil {schedule : Schedule K} {index : Nat}
    {plant : Plant K} {instant node : Nat} (occupied : plant.activePower.isEmpty = false)
    (empty : schedule.plantTerms index plant (.balance instant node) = []) :
    ((List.range plant.generators).filter fun generator =>
      schedule.nodeOf (schedule.offset index + generator) == node) = [] := by
  rw [List.filter_eq_nil_iff]
  intro generator member here
  simp only [plantTerms, List.flatMap_eq_nil_iff] at empty
  have none := empty generator member
  rw [if_pos here] at none
  simp [balanceTerms, Plant.activePowerVar?, Store.cell?, occupied, weighted] at none

end Dispatch.Schedule
