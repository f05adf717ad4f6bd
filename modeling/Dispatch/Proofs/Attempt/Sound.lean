import Dispatch.Proofs.Attempt.Patches
import Dispatch.Proofs.Reachable.Network

namespace Dispatch

/-! Schedules whose members, arrays and term index fit each other. -/

variable {K : Type}

structure Plant.Kept (before after : Plant K) : Prop where
  shaped : before.Shaped → after.Shaped
  horizon : after.horizon = before.horizon

structure Network.Kept (before after : Network K) : Prop where
  sound : before.Sound → after.Sound
  extent : after.extent = before.extent

theorem Plant.Kept.refl (plant : Plant K) : Plant.Kept plant plant :=
  ⟨fun shaped => shaped, rfl⟩

theorem Network.Kept.refl (network : Network K) : Network.Kept network network :=
  ⟨fun sound => sound, rfl⟩

namespace Schedule

/-- Members and demand that fit the sizes of the schedule. -/
structure Stocked (schedule : Schedule K) : Prop where
  plants : ∀ plant ∈ schedule.plants, plant.Shaped
  horizons : ∀ plant ∈ schedule.plants, plant.horizon = schedule.horizon
  networks : ∀ network ∈ schedule.networks, network.Sound
  extents : ∀ network ∈ schedule.networks, network.extent = schedule.nodes
  count : schedule.isBus = false → schedule.networks.length = schedule.horizon
  single : schedule.isBus = true → schedule.nodes ≤ 1 ∨ schedule.horizon = 0
  demand : schedule.demand = [] ∨ schedule.demand.length = schedule.extent

variable [Scalar K]

/-- With rows, the term index fits them, and every generator has its place. -/
structure Sound (schedule : Schedule K) : Prop where
  stocked : schedule.Stocked
  placed : schedule.stage.hasConstraints = true → schedule.Placed
  fits : schedule.stage.hasConstraints = true → ∀ link ∈ schedule.links, schedule.Fits link
  unlinked : schedule.stage.hasConstraints = false → schedule.links = []

variable {before after schedule : Schedule K}

omit [Scalar K] in
theorem Stocked.filled (stocked : schedule.Stocked) : schedule.Filled :=
  ⟨fun plant member => (stocked.plants plant member).data, stocked.horizons⟩

omit [Scalar K] in
theorem Stocked.moved (stocked : before.Stocked)
    (plants : List.Forall₂ Plant.Kept before.plants after.plants)
    (networks : List.Forall₂ Network.Kept before.networks after.networks)
    (horizon : after.horizon = before.horizon) (nodes : after.nodes = before.nodes)
    (demand : after.demand = [] ∨ after.demand.length = after.extent) : after.Stocked where
  plants plant member := by
    obtain ⟨earlier, there, kept⟩ := Change.mem_of_forall₂ plants member
    exact kept.shaped (stocked.plants earlier there)
  horizons plant member := by
    obtain ⟨earlier, there, kept⟩ := Change.mem_of_forall₂ plants member
    rw [kept.horizon, horizon, stocked.horizons earlier there]
  networks network member := by
    obtain ⟨earlier, there, kept⟩ := Change.mem_of_forall₂ networks member
    exact kept.sound (stocked.networks earlier there)
  extents network member := by
    obtain ⟨earlier, there, kept⟩ := Change.mem_of_forall₂ networks member
    rw [kept.extent, nodes, stocked.extents earlier there]
  count several := by
    rw [← networks.length_eq, horizon]
    exact stocked.count ((Change.isEmpty_of_forall₂ networks).symm.trans several)
  single bus := by
    rw [nodes, horizon]
    exact stocked.single ((Change.isEmpty_of_forall₂ networks).symm.trans bus)
  demand := demand

omit [Scalar K] in
theorem Placed.congr (placed : before.Placed) (layout : SameLayout after before)
    (isBus : after.isBus = before.isBus) : after.Placed where
  generatorNode := by
    rw [layout.generatorNode, layout.shape.total]
    exact placed.generatorNode
  within := by
    rw [layout.generatorNode, layout.nodes]
    exact placed.within
  several := by
    rw [layout.generatorNode, layout.shape.total, isBus]
    exact placed.several
  zones need := by
    rw [layout.zoning, layout.nodes]
    exact placed.zones need
  pollutantZones := by
    rw [layout.emissions, layout.nodes]
    exact placed.pollutantZones
  rates := by
    rw [layout.emissions, layout.shape.total, layout.horizon]
    exact placed.rates

theorem Stocked.early (stocked : schedule.Stocked)
    (early : schedule.stage.hasConstraints = false) (unlinked : schedule.links = []) :
    schedule.Sound where
  stocked := stocked
  placed late := absurd (early.symm.trans late) (by simp)
  fits late := absurd (early.symm.trans late) (by simp)
  unlinked _ := unlinked

theorem Sound.moved (sound : before.Sound) (stocked : after.Stocked)
    (frame : SameFrame before after) (isBus : after.isBus = before.isBus)
    (stage : after.stage.hasConstraints = before.stage.hasConstraints)
    (links : List.Forall₂ Link.SameFrame before.links after.links) : after.Sound where
  stocked := stocked
  placed late := (sound.placed (stage ▸ late)).congr frame.layout isBus
  fits late link member := by
    obtain ⟨earlier, there, kept⟩ := Change.mem_of_forall₂ links member
    exact (sound.fits (stage ▸ late) earlier there).congr frame kept
  unlinked early := by
    rw [sound.unlinked (stage ▸ early)] at links
    exact List.forall₂_nil_left_iff.mp links

omit [Scalar K] in
theorem SameFrame.of_eq (layout : SameLayout after before)
    (plants : after.plants = before.plants) : SameFrame before after :=
  ⟨layout, plants ▸ List.forall₂_same.mpr fun plant _ => Plant.SameFrame.refl plant⟩

omit [Scalar K] in
theorem links_still (schedule : Schedule K) :
    List.Forall₂ Link.SameFrame schedule.links schedule.links :=
  List.forall₂_same.mpr fun link _ => Link.SameFrame.refl link

theorem Sound.withNetworks (sound : schedule.Sound) {networks : List (Network K)}
    (kept : List.Forall₂ Network.Kept schedule.networks networks) :
    (schedule.withNetworks networks).Sound := by
  refine sound.moved ?_ (.of_eq ⟨rfl, rfl, rfl, fun need => ?_, rfl, rfl⟩ rfl)
    (Change.isEmpty_of_forall₂ kept) rfl schedule.links_still
  · exact sound.stocked.moved (List.forall₂_same.mpr fun plant _ => Plant.Kept.refl plant) kept
      rfl rfl sound.stocked.demand
  · cases need <;> rfl

theorem Sound.withDemand (sound : schedule.Sound) {demand : List K}
    (length : demand.length = schedule.extent) : (schedule.withDemand demand).Sound := by
  refine sound.moved ?_ (.of_eq ⟨rfl, rfl, rfl, fun need => ?_, rfl, rfl⟩ rfl) rfl rfl
    schedule.links_still
  · exact sound.stocked.moved (List.forall₂_same.mpr fun plant _ => Plant.Kept.refl plant)
      (List.forall₂_same.mpr fun network _ => Network.Kept.refl network) rfl rfl (.inr length)
  · cases need <;> rfl

theorem Sound.withLinks (sound : schedule.Sound) {links : List (Link K)}
    (kept : List.Forall₂ Link.SameFrame schedule.links links) :
    (schedule.withLinks links).Sound := by
  refine sound.moved ?_ (.of_eq ⟨rfl, rfl, rfl, fun need => ?_, rfl, rfl⟩ rfl) rfl rfl kept
  · exact sound.stocked.moved (List.forall₂_same.mpr fun plant _ => Plant.Kept.refl plant)
      (List.forall₂_same.mpr fun network _ => Network.Kept.refl network) rfl rfl
      sound.stocked.demand
  · cases need <;> rfl

omit [Scalar K] in
theorem generators_of_forall₂ {before after : List (Plant K)}
    (same : List.Forall₂ Plant.SameFrame before after) :
    after.map Plant.generators = before.map Plant.generators := by
  induction same with
  | nil => rfl
  | cons head _ induction =>
      rw [List.map_cons, List.map_cons, induction, Plant.generators, head.data]
      rfl

theorem Sound.withPlants (sound : schedule.Sound) {plants : List (Plant K)}
    (kept : List.Forall₂ Plant.Kept schedule.plants plants)
    (frames : List.Forall₂ Plant.SameFrame schedule.plants plants) :
    (schedule.withPlants plants).Sound := by
  refine sound.moved ?_ ⟨⟨rfl, rfl, rfl, fun need => ?_, rfl, ?_⟩, frames⟩ rfl rfl
    schedule.links_still
  · exact sound.stocked.moved kept
      (List.forall₂_same.mpr fun network _ => Network.Kept.refl network) rfl rfl
      sound.stocked.demand
  · cases need <;> rfl
  · exact generators_of_forall₂ frames

end Schedule

end Dispatch
