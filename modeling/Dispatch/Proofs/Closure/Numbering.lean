import Dispatch.Proofs.Closure.Reachable

namespace Dispatch.Schedule

/-! Blocks take their numbers one after the other. So the members of a schedule on file have
a number each, which they keep, and the schedule is closed whatever has been generated. -/

section Kept

variable {K : Type} {before after : Schedule K}

theorem Grows.members (grows : Grows before after) : after.members = before.members := by
  unfold Schedule.members
  rw [map_eq_of_forall₂ grows.plants fun _ _ _ follows => follows.id,
    map_eq_of_forall₂ grows.networks fun _ _ _ follows => follows.id]

variable [Scalar K] {schedule : Schedule K}

omit [Scalar K] in
theorem members_step {target : Stage} {advance : Change (Schedule K) PUnit}
    (advances : (advance schedule).state.members = schedule.members) :
    (Schedule.step target advance schedule).state.members = schedule.members := by
  rw [step_apply]
  split
  · rfl
  · rfl
  · split <;> exact advances

theorem members_generateVariables (schedule : Schedule K) :
    (generateVariables schedule).state.members = schedule.members :=
  members_step (moves_stepMembers Plant.Follows.generateVariables
    Network.Follows.generateVariables schedule).toGrows.members

theorem members_generateConstraints (schedule : Schedule K) :
    (generateConstraints schedule).state.members = schedule.members := by
  have refreshed := (moves_refreshInjectionBounds .quiet schedule).toGrows.members
  have stepped := (moves_stepMembers Plant.Follows.generateConstraints
    Network.Follows.generateConstraints
    (refreshInjectionBounds .quiet schedule).state).toGrows.members.trans refreshed
  refine members_step ?_
  rcases buildConstraints_cases schedule with
    ⟨error, _, untouched | atBounds | atStep⟩ | ⟨links, _, _, _, _, state, _⟩
  · rw [untouched]
  · rw [atBounds, refreshed]
  · rw [atStep, stepped]
  · rw [state]
    exact stepped

theorem members_generateObjective (schedule : Schedule K) :
    (generateObjective schedule).state.members = schedule.members := by
  have stepped := (moves_stepMembers Plant.Follows.generateObjective
    Network.Follows.generateObjective schedule).toGrows.members
  refine members_step ?_
  rw [buildObjective_apply]
  dsimp only
  split <;> exact stepped

/-- A step that is refused ends the generation, so what every step keeps is kept. -/
theorem generateAll_keeps (kept : Schedule K → Prop)
    (firstStep : ∀ schedule, kept schedule → kept (generateVariables schedule).state)
    (secondStep : ∀ schedule, kept schedule → kept (generateConstraints schedule).state)
    (lastStep : ∀ schedule, kept schedule → kept (generateObjective schedule).state)
    (start : kept schedule) : kept (generateAll schedule).state := by
  have first := firstStep schedule start
  have second := secondStep _ first
  unfold generateAll
  rw [Change.bind_apply]
  cases (generateVariables schedule).result with
  | error error => exact first
  | ok answer =>
      dsimp only
      rw [Change.bind_apply]
      cases (generateConstraints (generateVariables schedule).state).result with
      | error error => exact second
      | ok answer => exact lastStep _ second

theorem members_generateAll (schedule : Schedule K) :
    (generateAll schedule).state.members = schedule.members :=
  generateAll_keeps (fun after => after.members = schedule.members)
    (fun after same => (members_generateVariables after).trans same)
    (fun after same => (members_generateConstraints after).trans same)
    (fun after same => (members_generateObjective after).trans same) rfl

end Kept

/-- The members have different numbers below the limit. -/
structure Numbered {K : Type} (schedule : Schedule K) (limit : Nat) : Prop where
  distinct : schedule.members.Nodup
  below : ∀ block ∈ schedule.members, block.number < limit

section Numbered

variable {K : Type} {before after : Schedule K} {limit : Nat}

theorem Numbered.congr (numbered : before.Numbered limit)
    (same : after.members = before.members) : after.Numbered limit :=
  ⟨same ▸ numbered.distinct, same ▸ numbered.below⟩

theorem Numbered.weaken (numbered : before.Numbered limit) {higher : Nat}
    (lower : limit ≤ higher) : before.Numbered higher :=
  ⟨numbered.distinct, fun block member => Nat.lt_of_lt_of_le (numbered.below block member) lower⟩

/-- The next number goes to a plant. -/
theorem Numbered.addPlant (numbered : before.Numbered limit) {plant : Plant K}
    (next : plant.id = ⟨limit⟩) :
    (Schedule.addPlant plant before).state.Numbered (limit + 1) := by
  rcases addPlant_state plant before with still | ⟨-, -, moved⟩
  · rw [still]
    exact numbered.weaken (Nat.le_succ limit)
  · rw [moved]
    have order : List.Perm (Schedule.members { before with
        plants := before.plants ++ [{ plant with notifier := before.notifier }] })
        (⟨limit⟩ :: before.members) := by
      unfold Schedule.members
      simp only [List.map_append, List.map_cons, List.map_nil, List.append_assoc,
        List.singleton_append, next]
      exact List.perm_middle
    have fresh : (⟨limit⟩ : BlockId) ∉ before.members := fun member =>
      Nat.lt_irrefl _ (numbered.below _ member)
    refine ⟨order.nodup_iff.mpr (List.nodup_cons.mpr ⟨fresh, numbered.distinct⟩),
      fun block member => ?_⟩
    rcases List.mem_cons.mp (order.mem_iff.mp member) with rfl | earlier
    · exact Nat.lt_succ_self limit
    · exact Nat.lt_succ_of_lt (numbered.below block earlier)

variable [Scalar K]

theorem ids_networksFor {descriptor : Descriptor K} {notifier : NotifierKey} {count : Nat}
    {networks : List (Network K)} {first next : Nat}
    (created : networksFor descriptor notifier count first = (.ok networks, next)) :
    networks.map Network.id = (List.range' first count).map BlockId.mk ∧
      next = first + count := by
  induction count generalizing networks first next with
  | zero =>
      cases created
      exact ⟨rfl, rfl⟩
  | succ count induction =>
      obtain ⟨network, _, opened, created⟩ := Creation.bind_eq_ok created
      cases opened
      obtain ⟨rest, _, others, created⟩ := Creation.bind_eq_ok created
      cases created
      obtain ⟨ids, rfl⟩ := induction others
      refine ⟨?_, by omega⟩
      rw [List.map_cons, ids, List.range'_succ]
      rfl

/-- The next numbers go to the networks. -/
theorem Numbered.setNetwork (numbered : before.Numbered limit) {descriptor : Descriptor K}
    {generatorNode : List Nat} {next : Nat}
    (created : before.setNetwork descriptor generatorNode limit = (.ok after, next)) :
    after.Numbered next := by
  obtain ⟨plantsApart, -, -⟩ := List.nodup_append.mp numbered.distinct
  have below (block : BlockId) (member : block ∈ before.plants.map Plant.id) :
      block.number < limit := numbered.below block (List.mem_append_left _ member)
  obtain ⟨-, networks, rfl, ⟨-, attached⟩ | ⟨-, rfl, rfl⟩⟩ := setNetwork_eq_ok created
  · obtain ⟨ids, rfl⟩ := ids_networksFor attached
    have place (block : BlockId)
        (member : block ∈ (List.range' limit before.horizon).map BlockId.mk) :
        limit ≤ block.number ∧ block.number < limit + before.horizon := by
      obtain ⟨number, listed, rfl⟩ := List.mem_map.mp member
      exact List.mem_range'_1.mp listed
    constructor
    · change (before.plants.map Plant.id ++ networks.map Network.id).Nodup
      rw [ids]
      refine List.nodup_append.mpr ⟨plantsApart,
        List.Nodup.map (fun _ _ same => congrArg BlockId.number same) List.nodup_range',
        fun early present late there same => ?_⟩
      exact absurd (below early present) (Nat.not_lt.mpr (same ▸ (place late there).1))
    · change ∀ block ∈ before.plants.map Plant.id ++ networks.map Network.id, _
      rw [ids]
      intro block member
      cases List.mem_append.mp member with
      | inl early => exact Nat.lt_of_lt_of_le (below block early) (Nat.le_add_right ..)
      | inr late => exact (place block late).2
  · exact ⟨by simpa [Schedule.members] using plantsApart,
      fun block member => below block (by simpa [Schedule.members] using member)⟩

theorem members_setDemand (address : Address) (values : List K) (physical abstract : Mode)
    (schedule : Schedule K) :
    (setDemand address values physical abstract schedule).state.members = schedule.members := by
  rcases setDemand_state address values physical abstract schedule with
    still | ⟨selection, -, ⟨-, moved⟩ | ⟨-, moved⟩⟩
  · rw [still]
  · rw [moved]
    unfold withBusLevels
    split <;> rfl
  · obtain ⟨state, follow⟩ := forwardDemand_forall₂ Network.Follows Network.Follows.refl
      (fun _ _ _ => .trans) (fun address values network =>
        .setDemand address values .quiet abstract.silent network)
      selection.indices (schedule.withDemand
        (selection.write schedule.demand schedule.extent 0 values))
    rw [moved, state]
    exact (Moves.withNetworks follow).toGrows.members

theorem members_setNetworkConstants (constants : List K) (schedule : Schedule K) :
    (setNetworkConstants constants schedule).state.members = schedule.members := by
  rw [setNetworkConstants_apply]
  split
  · rfl
  · split
    · rfl
    · have follow : List.Forall₂ Network.Follows schedule.networks
          (schedule.networks.mapIdx fun instant network =>
            network.withConstant (constants.getD instant 0)) :=
        Change.mapIdx_forall₂ fun _ network => .setConstantTerm _ network
      exact (Moves.withNetworks follow).toGrows.members

end Numbered

theorem id_ofGroup_plant {group : Group} {plant : Plant Float} {before after : Nat}
    (created : Plant.ofGroup group before = (.ok plant, after)) :
    plant.id = ⟨before⟩ ∧ after = before + 1 := by
  obtain ⟨data, _, read, created⟩ := Creation.bind_eq_ok created
  obtain ⟨-, rfl⟩ := Creation.require_eq_ok read
  obtain ⟨fresh, _, opened, created⟩ := Creation.bind_eq_ok created
  cases opened
  obtain ⟨scale, _, scaled, created⟩ := Creation.bind_eq_ok created
  obtain ⟨-, rfl⟩ := Creation.require_eq_ok scaled
  cases created
  exact ⟨rfl, rfl⟩

theorem Numbered.addPlants {group : Group} {remaining index : Nat}
    {schedule result : Schedule Float} {before after : Nat} (numbered : schedule.Numbered before)
    (created : Schedule.addPlants group remaining index schedule before = (.ok result, after)) :
    result.Numbered after := by
  induction remaining generalizing index schedule before with
  | zero =>
      cases created
      exact numbered
  | succ remaining induction =>
      obtain ⟨member, _, found, created⟩ := Creation.bind_eq_ok created
      obtain ⟨-, rfl⟩ := Creation.require_eq_ok found
      obtain ⟨plant, _, read, created⟩ := Creation.bind_eq_ok created
      obtain ⟨next, rfl⟩ := id_ofGroup_plant read
      obtain ⟨added, _, add, created⟩ := Creation.bind_eq_ok created
      cases changed_eq_ok add
      obtain ⟨-, rfl⟩ := Creation.require_eq_ok add
      exact induction (numbered.addPlant next) created

theorem Numbered.networkOfGroup {factory : DescriptorFactory} {group : Group} {nodes : Nat}
    {schedule result : Schedule Float} {before after : Nat} (numbered : schedule.Numbered before)
    (created : Schedule.networkOfGroup factory group nodes schedule before =
      (.ok result, after)) : result.Numbered after := by
  obtain ⟨generatorNode, _, given, created⟩ := Creation.bind_eq_ok created
  obtain ⟨-, rfl⟩ := Creation.require_eq_ok given
  split at created
  · obtain ⟨classname, _, named, created⟩ := Creation.bind_eq_ok created
    obtain ⟨-, rfl⟩ := Creation.require_eq_ok named
    obtain ⟨descriptor, _, built, created⟩ := Creation.bind_eq_ok created
    obtain ⟨-, rfl⟩ := Creation.require_eq_ok built
    obtain ⟨nodes, _, needed, created⟩ := Creation.bind_eq_ok created
    obtain ⟨-, rfl⟩ := Creation.require_eq_ok needed
    exact numbered.setNetwork created
  · cases created
    exact ⟨numbered.distinct, numbered.below⟩

theorem members_demandOfGroup {group : Group} {nodes : Nat}
    {schedule result : Schedule Float} {before after : Nat}
    (created : demandOfGroup group nodes schedule before = (.ok result, after)) :
    result.members = schedule.members := by
  obtain ⟨given, _, _, created⟩ := Creation.bind_eq_ok created
  cases given with
  | none =>
      cases created
      rfl
  | some demand =>
      obtain ⟨full, _, _, created⟩ := Creation.bind_eq_ok created
      cases changed_eq_ok created
      exact members_setDemand ..

theorem members_constantsOfGroup {group : Group} {schedule result : Schedule Float}
    {before after : Nat}
    (created : constantsOfGroup group schedule before = (.ok result, after)) :
    result.members = schedule.members := by
  obtain ⟨given, _, _, created⟩ := Creation.bind_eq_ok created
  cases given with
  | none =>
      cases created
      rfl
  | some constants =>
      dsimp only at created
      split at created
      · cases changed_eq_ok created
        exact members_setNetworkConstants ..
      · obtain ⟨full, _, _, created⟩ := Creation.bind_eq_ok created
        cases changed_eq_ok created
        exact members_setNetworkConstants ..

/-- A block is told apart from the others by its number. -/
theorem nodup_members_ofGroupWith {factory : DescriptorFactory} {group : Group}
    {result : Schedule Float} {before after : Nat}
    (created : ofGroupWith factory group before = (.ok result, after)) :
    result.members.Nodup := by
  obtain ⟨horizon, _, _, created⟩ := Creation.bind_eq_ok created
  obtain ⟨plants, _, _, created⟩ := Creation.bind_eq_ok created
  obtain ⟨opened, _, fresh, created⟩ := Creation.bind_eq_ok created
  cases fresh
  obtain ⟨filled, _, adds, created⟩ := Creation.bind_eq_ok created
  obtain ⟨attached, _, network, created⟩ := Creation.bind_eq_ok created
  obtain ⟨demanded, _, demand, created⟩ := Creation.bind_eq_ok created
  obtain ⟨primary, _, _, created⟩ := Creation.bind_eq_ok created
  obtain ⟨secondary, _, _, created⟩ := Creation.bind_eq_ok created
  obtain ⟨inertia, _, _, created⟩ := Creation.bind_eq_ok created
  obtain ⟨emissions, _, _, created⟩ := Creation.bind_eq_ok created
  obtain ⟨priced, _, constants, created⟩ := Creation.bind_eq_ok created
  cases created
  have bare (id : BlockId) (limit : Nat) : (ofHorizon id horizon : Schedule Float).Numbered limit :=
    ⟨List.nodup_nil, fun block member => by cases member⟩
  have placed := ((bare _ _).addPlants adds).networkOfGroup network
  have demands := members_demandOfGroup demand
  have whole := members_constantsOfGroup constants
  exact (placed.congr (whole.trans demands)).distinct

end Dispatch.Schedule
