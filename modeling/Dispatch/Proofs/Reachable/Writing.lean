import Dispatch.Proofs.Reachable.Current
import Dispatch.Proofs.Reachable.Plants

namespace Dispatch.Schedule

/-! While all abstract modes write, the linking families of a schedule with rows are those that
would be generated now. Its plants need not be in step: one that was rescaled on its own, with
its costs left alone, still has the variables that the rows read. -/

variable {K : Type} [Scalar K] {before after schedule : Schedule K} {allowed : Mode → Prop}

def Gridded (schedule : Schedule K) : Prop :=
  ∀ plant ∈ schedule.plants, plant.Gridded

theorem Arises.gridded (arises : schedule.Arises allowed) : schedule.Gridded :=
  fun plant member => (arises.plants plant member).gridded

theorem Arises.gridSizes (arises : schedule.Arises allowed)
    (late : schedule.stage.hasConstraints = true) {plant : Plant K}
    (member : plant ∈ schedule.plants) :
    plant.activePower.size = plant.generators * schedule.horizon ∧
      plant.commitment.size =
        if plant.data.commitment then plant.generators * schedule.horizon else 0 := by
  have reached : Stage.vars.rank ≤ schedule.stage.rank :=
    of_decide_eq_true (Stage.hasVariables_of_late late)
  have generated : plant.stage.hasVariables = true :=
    decide_eq_true (Nat.le_trans reached (arises.paced.plants plant member))
  have sizes := arises.gridded plant member generated
  rwa [arises.sound.stocked.horizons plant member] at sizes

/-- A plant of a schedule with rows has power variables unless it has no use for any. -/
theorem Arises.occupied (arises : schedule.Arises allowed)
    (late : schedule.stage.hasConstraints = true) {plant : Plant K}
    (member : plant ∈ schedule.plants) (generators : 0 < plant.generators)
    (horizon : 0 < schedule.horizon) : plant.activePower.isEmpty = false := by
  rw [Grid.isEmpty, (arises.gridSizes late member).1]
  exact beq_eq_false_iff_ne.mpr (Nat.ne_of_gt (Nat.mul_pos generators horizon))

def cored (schedule : Schedule K) : Schedule K :=
  { schedule with plants := schedule.plants.map Plant.core }

omit [Scalar K] in
theorem agree_cored (schedule : Schedule K) : Agree schedule.cored schedule where
  horizon := rfl
  nodes := rfl
  generatorNode := rfl
  zoning need := by cases need <;> rfl
  emissions := rfl
  cores := by
    rw [cored, List.map_map]
    rfl
  injections := rfl
  demand _ := rfl

theorem linkPatches_cored (schedule : Schedule K) (index : Nat) (plant : Plant K)
    (link : Link K) :
    schedule.cored.linkPatches index plant.core link = schedule.linkPatches index plant link := by
  have agree := agree_cored schedule
  have row (span : Span) (row : LinkRow) : schedule.cored.rowPatch index plant.core span row =
      schedule.rowPatch index plant span row := by
    have terms : schedule.cored.plantTerms index plant.core row =
        schedule.plantTerms index plant row := agree.sameLayout.plantTerms index plant.core row
    have level : schedule.cored.rowLevel row = schedule.rowLevel row := by
      cases row with
      | balance instant node => exact agree.balanceLevel instant node
      | zonal need instant zone => rfl
      | budget pollutant zone => rfl
    have moves : movesLevel plant.core row = movesLevel plant row := by cases row <;> rfl
    simp only [rowPatch, terms, level, moves, agree.sameLayout.shape.rowPlace]
  have rows (span : Span) : schedule.cored.rowPatch index plant.core span =
      schedule.rowPatch index plant span := funext (row span)
  simp only [linkPatches, rows, agree.sameLayout.shape.keyRows]

theorem links_patchPlant_cored (index : Nat) (schedule : Schedule K) :
    (patchPlant index schedule.cored).state.links = (patchPlant index schedule).state.links := by
  have patches (plant : Plant K) : schedule.cored.linkPatches index plant.core =
      schedule.linkPatches index plant := funext (linkPatches_cored schedule index plant)
  have there : schedule.cored.plants[index]? = schedule.plants[index]?.map Plant.core :=
    List.getElem?_map
  unfold patchPlant
  rw [Change.current_bind, Change.current_bind, there]
  cases schedule.plants[index]? with
  | none => rfl
  | some plant =>
      rw [Option.map_some]
      dsimp only
      rw [patches]
      rfl

theorem follows_eq : schedule.Follows Eq ↔
    (schedule.stage.hasConstraints = true →
      schedule.HasHeads ∧ schedule.links = schedule.linksNow) := by
  unfold Follows
  rw [List.forall₂_eq_eq_eq]
  exact imp_congr_right fun _ => and_congr_right fun _ => eq_comm

/-- The cores of a schedule and of the one in which a plant has a new scale. -/
theorem rescaling_cored {index : Nat} {plant : Plant K}
    (found : schedule.plants[index]? = some plant) (scale : K) (objective : Option (Objective K))
    {networks : List (Network K)}
    (rebounded : List.Forall₂ Network.Rebounded schedule.networks networks) :
    Rescaling schedule.cored
      ((schedule.withScaled index plant scale objective).withNetworks networks).cored
      index plant.core scale := by
  have injections : networks.map Network.injectionVar? =
      schedule.networks.map Network.injectionVar? := (agree_rebounded rebounded).injections
  exact {
    found := by rw [cored, List.getElem?_map, found]; rfl
    plants := List.map_set
    horizon := rfl
    nodes := rfl
    generatorNode := rfl
    zoning := fun need => by cases need <;> rfl
    emissions := rfl
    demand := rfl
    heads := linkHead_congr injections
    isBus := isBus_congr injections }

/-- The patches make the families those of the new scale. -/
theorem patchPlant_linksNow {index : Nat} {plant : Plant K} {scale : K}
    (rescaling : Rescaling before.cored after.cored index plant.core scale)
    (heads : before.HasHeads)
    (occupied : 0 < plant.generators → 0 < before.horizon → plant.activePower.isEmpty = false)
    (generated : after.links = before.linksNow) :
    (patchPlant index after).state = after.withLinks after.linksNow := by
  have patched := patchPlant_apply rescaling ((agree_cored before).hasHeads heads) occupied
    (generated.trans (agree_cored before).linksNow.symm)
  have links : (patchPlant index after).state.links = after.linksNow := by
    rw [← links_patchPlant_cored, patched, ← (agree_cored after).linksNow]
  obtain ⟨written, state, -⟩ := sameFrame_patchPlant index after
  rw [state] at links ⊢
  exact congrArg after.withLinks links

/-- A writing update of a scale makes the families those of the new scale. -/
theorem Arises.followed_scalePlantAt (arises : schedule.Arises allowed)
    (follows : schedule.Follows Eq) (index : Nat) (address : Address) (values : List K)
    (physical : Mode) {abstract : Mode} (writes : abstract.writes = true) :
    (Schedule.scalePlantAt index address values physical abstract schedule).state.Follows Eq := by
  rcases arises.sound.scalePlantAt_state index address values physical abstract with
    still | ⟨plant, scale, objective, found, ⟨early, moved⟩ | ⟨late, networks, refreshed, moved⟩⟩
  · rw [still]
    exact follows
  · rw [moved]
    exact .of_early early
  · obtain ⟨heads, generated⟩ := follows_eq.mp follows late
    have rebounded := rebounded_of_refresh refreshed
    have patched := patchPlant_linksNow (rescaling_cored found scale objective rebounded) heads
      (arises.occupied late (List.mem_of_getElem? found)) generated
    have scaled := (resembles_withScaled found scale objective).hasHeads heads
    rw [moved, if_pos writes, patched]
    exact follows_eq.mpr fun _ => ⟨(agree_rebounded rebounded).hasHeads scaled, rfl⟩

theorem Arises.followed_setDemand (arises : schedule.Arises allowed)
    (follows : schedule.Follows Eq) (address : Address) (values : List K) (physical : Mode)
    {abstract : Mode} (writes : abstract.writes = true) :
    (Schedule.setDemand address values physical abstract schedule).state.Follows Eq := by
  refine arises.sound.follows_setDemand follows address values physical
    fun bus instants demand elsewhere => ?_
  unfold withBusLevels
  rw [writes, Bool.true_and]
  split
  · rename_i late
    obtain ⟨heads, generated⟩ := follows_eq.mp follows late
    rw [patchBusBalance_linksNow bus (arises.sound.stocked.single bus) generated elsewhere]
    exact follows_eq.mpr fun _ => ⟨heads, rfl⟩
  · rename_i late
    have early : schedule.stage.hasConstraints = false := by simpa using late
    exact .of_early early

/-- With writing modes, the families of a schedule with rows are those of the moment. -/
theorem Arises.current (arises : schedule.Arises allowed)
    (writes : ∀ mode, allowed mode → mode.writes = true)
    (late : schedule.stage.hasConstraints = true) :
    schedule.HasHeads ∧ schedule.links = schedule.linksNow := by
  refine follows_eq.mp (arises.follows (fun _ => rfl) ?_ ?_) late
  · intro schedule arises follows index address values physical abstract allows
    exact arises.followed_scalePlantAt follows index address values physical
      (writes abstract allows)
  · intro schedule arises follows address values physical abstract allows
    exact arises.followed_setDemand follows address values physical (writes abstract allows)

end Dispatch.Schedule
