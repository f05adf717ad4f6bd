import Dispatch.Proofs.Closure.Schedule

namespace Dispatch

/-! Every block that operations lead to is closed: a visit shows every variable once, a lookup
finds it, and no row, bound or objective refers to anything else. -/

section Stores

variable {α K : Type}

/-- Of members that carry different keys, the one with a given key is found. -/
theorem find?_of_nodup_keys {members : List α} {key : α → BlockId}
    (distinct : (members.map key).Nodup) {member : α} (present : member ∈ members) :
    (members.find? fun other => key other == key member) = some member := by
  induction members with
  | nil => cases present
  | cons head rest induction =>
      obtain ⟨fresh, distinct⟩ := List.nodup_cons.mp distinct
      rcases List.mem_cons.mp present with rfl | later
      · exact List.find?_cons_of_pos (beq_self_eq_true _)
      · rw [List.find?_cons_of_neg fun same => ?_, induction distinct later]
        exact fresh (eq_of_beq same ▸ List.mem_map_of_mem later)

/-- Stores of different blocks have no variable in common. -/
theorem nodup_keys_flatMap {stores : List (Store K)} (distinct : (stores.map Store.block).Nodup) :
    (stores.flatMap fun store => store.entries.map Prod.fst).Nodup := by
  refine List.nodup_flatMap.mpr ⟨fun store _ => store.nodup_keys, ?_⟩
  refine (List.pairwise_map.mp distinct).imp fun {first second} apart => ?_
  refine List.disjoint_left.mpr fun var one other => ?_
  exact apart ((Store.mem_keys.mp one).1.symm.trans (Store.mem_keys.mp other).1)

end Stores

namespace Schedule

section Closed

variable {K : Type} {schedule : Schedule K}

/-- The blocks that a schedule shows the variables of. -/
def members (schedule : Schedule K) : List BlockId :=
  schedule.plants.map Plant.id ++ schedule.networks.map Network.id

def stores (schedule : Schedule K) : List (Store K) :=
  schedule.plants.map Plant.store ++ schedule.networks.map Network.store

theorem vars_model (schedule : Schedule K) :
    schedule.model.vars = schedule.stores.flatMap Store.entries := by
  simp [Schedule.model, stores, Plant.model, Network.model, List.flatMap_map]

theorem has_iff_mem_keys {var : VarRef} :
    schedule.Has var ↔ var ∈ schedule.model.vars.map Prod.fst := by
  rw [vars_model, List.map_flatMap, List.mem_flatMap]
  constructor
  · rintro (⟨plant, member, has⟩ | ⟨network, member, has⟩)
    · exact ⟨plant.store, List.mem_append_left _ (List.mem_map_of_mem member),
        Store.mem_keys.mpr has⟩
    · exact ⟨network.store, List.mem_append_right _ (List.mem_map_of_mem member),
        Store.mem_keys.mpr has⟩
  · rintro ⟨store, member, key⟩
    have has := Store.mem_keys.mp key
    cases List.mem_append.mp member with
    | inl plantStore =>
        obtain ⟨plant, there, rfl⟩ := List.mem_map.mp plantStore
        exact .inl ⟨plant, there, has⟩
    | inr networkStore =>
        obtain ⟨network, there, rfl⟩ := List.mem_map.mp networkStore
        exact .inr ⟨network, there, has⟩

theorem Grounded.blocks (grounded : schedule.Grounded) :
    schedule.stores.map Store.block = schedule.members := by
  unfold stores members
  rw [List.map_append, List.map_map, List.map_map]
  congr 1
  · exact List.map_congr_left fun plant member => (grounded.plants plant member).block
  · exact List.map_congr_left fun network member => (grounded.networks network member).block

theorem Grounded.lookup? (grounded : schedule.Grounded) (distinct : schedule.members.Nodup)
    {entry : VarRef × Variable K} (member : entry ∈ schedule.model.vars) :
    schedule.lookup? entry.1 = some entry.2 := by
  obtain ⟨plantIds, networkIds, apart⟩ := List.nodup_append.mp distinct
  have owner {store : Store K} (listed : entry ∈ store.entries) : entry.1.block = store.block :=
    (Store.mem_keys.mp (List.mem_map_of_mem listed)).1
  unfold Schedule.lookup?
  rcases List.mem_append.mp member with plantVar | networkVar
  · obtain ⟨plant, present, listed⟩ := List.mem_flatMap.mp plantVar
    have block := (owner listed).trans (grounded.plants plant present).block
    rw [block, find?_of_nodup_keys plantIds present]
    exact Store.lookup?_of_mem listed
  · obtain ⟨network, present, listed⟩ := List.mem_flatMap.mp networkVar
    have block := (owner listed).trans (grounded.networks network present).block
    have none : (schedule.plants.find? fun plant => plant.id == network.id) = none :=
      List.find?_eq_none.mpr fun plant there same =>
        apart _ (List.mem_map_of_mem there) _ (List.mem_map_of_mem present) (eq_of_beq same)
    rw [block, none, find?_of_nodup_keys networkIds present]
    exact Store.lookup?_of_mem listed

/-- Own rows of the schedule first, then what its members have. -/
theorem Grounded.refers (grounded : schedule.Grounded) :
    schedule.model.RefersTo fun var => var ∈ schedule.model.vars.map Prod.fst := by
  have ofPlant {plant : Plant K} (present : plant ∈ schedule.plants) {var : VarRef}
      (known : var ∈ plant.model.vars.map Prod.fst) :
      var ∈ schedule.model.vars.map Prod.fst :=
    has_iff_mem_keys.mp (.inl ⟨plant, present, Store.mem_keys.mp known⟩)
  have ofNetwork {network : Network K} (present : network ∈ schedule.networks) {var : VarRef}
      (known : var ∈ network.model.vars.map Prod.fst) :
      var ∈ schedule.model.vars.map Prod.fst :=
    has_iff_mem_keys.mp (.inr ⟨network, present, Store.mem_keys.mp known⟩)
  refine ⟨fun objective member term inside => ?_, fun entry member var inside => ?_⟩
  · rcases List.mem_append.mp member with first | networkCost
    · rcases List.mem_append.mp first with own | plantCost
      · rw [grounded.own objective (Option.mem_toList.mp own)] at inside
        cases inside
      · obtain ⟨plant, present, listed⟩ := List.mem_flatMap.mp plantCost
        exact ofPlant present ((grounded.plants plant present).closed.refers.objectives
          objective listed term inside)
    · obtain ⟨network, present, listed⟩ := List.mem_flatMap.mp networkCost
      exact ofNetwork present ((grounded.networks network present).closed.refers.objectives
        objective listed term inside)
  · rcases List.mem_append.mp member with first | networkRow
    · rcases List.mem_append.mp first with linking | plantRow
      · obtain ⟨link, present, listed⟩ := List.mem_flatMap.mp linking
        exact has_iff_mem_keys.mp
          ((grounded.links link present).entries entry listed var inside)
      · obtain ⟨plant, present, listed⟩ := List.mem_flatMap.mp plantRow
        exact ofPlant present ((grounded.plants plant present).closed.refers.constraints
          entry listed var inside)
    · obtain ⟨network, present, listed⟩ := List.mem_flatMap.mp networkRow
      exact ofNetwork present ((grounded.networks network present).closed.refers.constraints
        entry listed var inside)

theorem Grounded.closed (grounded : schedule.Grounded) (distinct : schedule.members.Nodup) :
    schedule.model.Closed where
  distinct := by
    rw [vars_model, List.map_flatMap]
    exact nodup_keys_flatMap (grounded.blocks ▸ distinct)
  found _ member := grounded.lookup? distinct member
  refers := grounded.refers

end Closed

/-- As `Reachable`, of plants that operations lead to. -/
def Operated : Schedule Float → Prop :=
  Reached Created Operation.perform (Operation.Within Plant.Operated anyMode)

theorem Operated.reachable {schedule : Schedule Float} (operated : schedule.Operated) :
    schedule.Reachable :=
  operated.mono (fun _ created => .start created) fun _ within =>
    within.mono (fun _ plant => plant.reachable) fun _ permitted => permitted

section Courses

variable {K : Type} [Scalar K] {schedule : Schedule K}

omit [Scalar K] in
theorem Initial.grounded (initial : schedule.Initial) : schedule.Grounded := by
  cases initial with
  | ofHorizon id horizon => exact grounded_ofHorizon id horizon

theorem Grounded.perform (grounded : schedule.Grounded) (sound : schedule.Sound)
    {modes : Mode → Prop} {operation : Operation K}
    (within : operation.Within Plant.Grounded modes) : (operation.perform schedule).Grounded := by
  cases operation with
  | addPlant plant => exact grounded.addPlant sound.unlinked within
  | setNetwork =>
      exact setNetwork_preserves grounded fun created =>
        grounded.setNetwork sound.unlinked created
  | setZoning need zoning => exact grounded.setZoning need zoning
  | setEmissions emissions => exact grounded.setEmissions emissions
  | withSettings settings => exact { grounded with }
  | withNotifier notifier => exact grounded.withNotifier notifier
  | withData => exact whileOpen_preserves grounded fun _ => { grounded with }
  | call step =>
      cases step with
      | generateVariables => exact grounded.generateVariables
      | generateConstraints => exact grounded.generateConstraints
      | generateObjective => exact grounded.generateObjective
      | scalePlantAt index address values physical abstract =>
          exact grounded.scalePlantAt index address values physical abstract
      | setDemand address values physical abstract =>
          exact grounded.setDemand address values physical abstract
      | setNetworkConstants constants => exact grounded.setNetworkConstants constants

end Courses

/-- A schedule that is read is put together from plants that are read. -/
theorem Assembled.grounded {schedule : Schedule Float}
    (assembled : schedule.Assembled Plant.Read) : schedule.Grounded := by
  induction assembled with
  | start initial => exact initial.grounded
  | step assembled operation allowed grounded =>
      exact grounded.perform (Assembled.sound assembled)
        (allowed.2.mono (fun _ read => read.initial.grounded) fun _ permitted => permitted)

theorem Created.grounded {schedule : Schedule Float} (created : schedule.Created) :
    schedule.Grounded := by
  cases created with
  | new created =>
      obtain ⟨id, _, _, fresh⟩ := Creation.bind_eq_ok created
      cases Creation.pure_eq_ok fresh
      exact grounded_ofHorizon id _
  | ofGroupWith created => exact (assembled_ofGroupWith created).grounded

theorem Operated.grounded {schedule : Schedule Float} (operated : schedule.Operated) :
    schedule.Grounded := by
  induction operated with
  | start created => exact created.grounded
  | step operated operation within grounded =>
      exact grounded.perform (Operated.reachable operated).sound
        (within.mono (fun _ plant => plant.grounded) fun _ permitted => permitted)

end Schedule

/-- A plant or network is a block of its own; of a schedule, the blocks have to differ. -/
theorem closed_of_operated :
    (∀ plant : Plant Float, plant.Operated → plant.model.Closed ∧ plant.model.Answers) ∧
    (∀ network : Network Float, network.Operated →
      network.model.Closed ∧ network.model.Answers) ∧
    ∀ schedule : Schedule Float, schedule.Operated → schedule.members.Nodup →
      schedule.model.Closed ∧ schedule.model.Answers := by
  refine ⟨fun plant operated => ?_, fun network operated => ?_,
    fun schedule operated distinct => ?_⟩
  · have closed := operated.grounded.closed
    exact ⟨closed, closed.answers⟩
  · have closed := operated.grounded.closed
    exact ⟨closed, closed.answers⟩
  · have closed := operated.grounded.closed distinct
    exact ⟨closed, closed.answers⟩

/-- Two plants on a line: balance rows that mention plants and networks are all resolved. -/
theorem closed_of_operated_duo :
    let plant := (Plant.generateVariables (Plant.ofData ⟨1⟩ Schedule.soloData)).state
    let network := (Network.generateVariables
      ((Network.bus ⟨3⟩).attach (.shared Schedule.pairLine))).state
    let schedule := (Schedule.generateObjective (Schedule.generateConstraints
      (Schedule.generateVariables Schedule.duo).state).state).state
    plant.Operated ∧ network.Operated ∧ schedule.Operated ∧ schedule.members.Nodup ∧
      schedule.links.length = 1 ∧ (plant.model.Closed ∧ plant.model.Answers) ∧
      (network.model.Closed ∧ network.model.Answers) ∧
      schedule.model.Closed ∧ schedule.model.Answers := by
  intro plant network schedule
  have first : (Plant.ofData ⟨1⟩ Schedule.soloData).Operated := .start (Schedule.created_solo 1)
  have second : (Plant.ofData ⟨2⟩ Schedule.soloData).Operated := .start (Schedule.created_solo 2)
  have line : ((Network.bus ⟨3⟩).attach (.shared Schedule.pairLine) : Network Float).Operated :=
    .start (.ofDescriptor
      (show Network.ofDescriptor (.shared Schedule.pairLine) 3 = (.ok _, 4) from rfl))
  have start : (Schedule.ofHorizon ⟨0⟩ 2 : Schedule Float).Operated :=
    .start (Schedule.created_ofHorizon 0 2)
  have duo : Schedule.duo.Operated :=
    ((start.step (.addPlant _) first).step (.addPlant _) second).setNetwork trivial
      (show Schedule.setNetwork _ Schedule.pairLine [0, 1] 3 = (.ok Schedule.duo, 5) from rfl)
  have generated : schedule.Operated :=
    duo.calls [.generateVariables, .generateConstraints, .generateObjective]
      fun call _ => call.within Plant.Operated
  have distinct : schedule.members.Nodup := by decide +kernel
  have plantOperated : plant.Operated := first.step .generateVariables trivial
  have networkOperated : network.Operated := line.step (.call .generateVariables) trivial
  exact ⟨plantOperated, networkOperated, generated, distinct,
    by decide +kernel, closed_of_operated.1 plant plantOperated,
    closed_of_operated.2.1 network networkOperated,
    closed_of_operated.2.2 schedule generated distinct⟩

end Dispatch
