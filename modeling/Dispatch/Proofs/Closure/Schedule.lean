import Dispatch.Proofs.Closure.Network
import Dispatch.Proofs.Reachable.Index

namespace Dispatch

variable {K : Type} [Scalar K]

omit [Scalar K] in
/-- Each grid of a plant answers only with variables of its store. -/
theorem Plant.Grounded.has_of_owns {plant : Plant K} (grounded : plant.Grounded) {var : VarRef}
    (owns : plant.Owns var) : plant.store.Has var := by
  obtain ⟨generator, generator_lt, instant, instant_lt, found⟩ := owns
  have cell {grid : Grid} (member : grid ∈ plant.grids)
      (found : plant.store.cell? grid generator instant = some var) : plant.store.Has var :=
    grounded.cell? member generator_lt instant_lt found
  rcases found with found | found | found | found
  · exact cell (by simp [Plant.grids]) found
  · exact cell (by simp [Plant.grids]) found
  · exact cell (by simp [Plant.grids]) found
  · exact cell (by simp [Plant.grids]) found

namespace Schedule

/-! Whatever a schedule has generated, its linking rows included, refers to the stores of its
plants and networks. Their blocks are told apart by their identities, so a lookup finds the one
variable that is meant. -/

def Has (schedule : Schedule K) (var : VarRef) : Prop :=
  (∃ plant ∈ schedule.plants, plant.store.Has var) ∨
    ∃ network ∈ schedule.networks, network.store.Has var

structure Grounded (schedule : Schedule K) : Prop where
  plants : ∀ plant ∈ schedule.plants, plant.Grounded
  horizons : ∀ plant ∈ schedule.plants, plant.horizon = schedule.horizon
  networks : ∀ network ∈ schedule.networks, network.Grounded
  sizes : ∀ network ∈ schedule.networks,
    network.intervals = 1 ∧ network.nodes = schedule.nodes
  links : ∀ link ∈ schedule.links, link.rows.RefersTo schedule.Has
  own : ∀ objective ∈ schedule.objective, objective.function.terms = []

variable {schedule before after : Schedule K}

/-! Members that move on keep the rows that refer to them. -/

/-- Every member has its successor, and the sizes that the rows follow are as before. -/
structure Grows (before after : Schedule K) : Prop where
  plants : List.Forall₂ Plant.Follows before.plants after.plants
  networks : List.Forall₂ Network.Follows before.networks after.networks
  horizon : after.horizon = before.horizon
  nodes : after.nodes = before.nodes

omit [Scalar K] in
theorem Grows.refl (schedule : Schedule K) : Grows schedule schedule :=
  ⟨List.forall₂_same.mpr fun plant _ => .refl plant,
    List.forall₂_same.mpr fun network _ => .refl network, rfl, rfl⟩

omit [Scalar K] in
theorem Grows.has (grows : Grows before after) {var : VarRef} (has : before.Has var) :
    after.Has var := by
  rcases has with ⟨plant, member, has⟩ | ⟨network, member, has⟩
  · obtain ⟨later, present, moved⟩ := Change.mem_of_forall₂ grows.plants.flip member
    exact .inl ⟨later, present, has.extend moved.store⟩
  · obtain ⟨later, present, moved⟩ := Change.mem_of_forall₂ grows.networks.flip member
    exact .inr ⟨later, present, has.extend moved.store⟩

omit [Scalar K] in
theorem Grounded.moved (grounded : before.Grounded) (grows : Grows before after)
    (links : ∀ link ∈ after.links, link.rows.RefersTo after.Has)
    (own : ∀ objective ∈ after.objective, objective.function.terms = []) : after.Grounded where
  plants plant member := by
    obtain ⟨earlier, listed, moved⟩ := Change.mem_of_forall₂ grows.plants member
    exact moved.grounded (grounded.plants earlier listed)
  horizons plant member := by
    obtain ⟨earlier, listed, moved⟩ := Change.mem_of_forall₂ grows.plants member
    rw [grows.horizon, ← grounded.horizons earlier listed]
    exact congrArg PlantData.horizon moved.data
  networks network member := by
    obtain ⟨earlier, listed, moved⟩ := Change.mem_of_forall₂ grows.networks member
    exact moved.grounded (grounded.networks earlier listed)
  sizes network member := by
    obtain ⟨earlier, listed, moved⟩ := Change.mem_of_forall₂ grows.networks member
    obtain ⟨intervals, nodes⟩ := grounded.sizes earlier listed
    exact ⟨moved.intervals.trans intervals,
      moved.nodes.trans (nodes.trans grows.nodes.symm)⟩
  links := links
  own := own

omit [Scalar K] in
/-- Patched rows carry the variables that they were generated with. -/
theorem refersTo_of_sameFrame {link other : Link K} (same : Link.SameFrame link other)
    {known : VarRef → Prop} (refers : link.rows.RefersTo known) : other.rows.RefersTo known := by
  intro item member var inside
  have vars : item.function.terms.map Prod.fst ∈
      link.rows.items.map fun row => row.function.terms.map Prod.fst := by
    rw [← same.vars]
    exact List.mem_map_of_mem member
  obtain ⟨earlier, listed, equal⟩ := List.mem_map.mp vars
  refine refers earlier listed var ?_
  change var ∈ earlier.function.terms.map Prod.fst
  rw [equal]
  exact inside

/-- What any call does but those that attach members or link them. -/
structure Moves (before after : Schedule K) : Prop extends Grows before after where
  links : List.Forall₂ Link.SameFrame before.links after.links
  own : (∀ objective ∈ before.objective, objective.function.terms = []) →
    ∀ objective ∈ after.objective, objective.function.terms = []

omit [Scalar K] in
theorem Grounded.moves (grounded : before.Grounded) (moves : Moves before after) :
    after.Grounded := by
  refine grounded.moved moves.toGrows (fun link member => ?_) (moves.own grounded.own)
  obtain ⟨earlier, listed, same⟩ := Change.mem_of_forall₂ moves.links member
  exact refersTo_of_sameFrame same ((grounded.links earlier listed).imp fun _ =>
    moves.toGrows.has)

omit [Scalar K] in
theorem Moves.refl (schedule : Schedule K) : Moves schedule schedule :=
  ⟨.refl schedule, schedule.links_still, fun own => own⟩

omit [Scalar K] in
theorem Moves.withMembers {plants : List (Plant K)} {networks : List (Network K)}
    (plantsFollow : List.Forall₂ Plant.Follows schedule.plants plants)
    (networksFollow : List.Forall₂ Network.Follows schedule.networks networks) :
    Moves schedule (schedule.withMembers plants networks) :=
  ⟨⟨plantsFollow, networksFollow, rfl, rfl⟩, schedule.links_still, fun own => own⟩

omit [Scalar K] in
theorem Moves.withNetworks {networks : List (Network K)}
    (follow : List.Forall₂ Network.Follows schedule.networks networks) :
    Moves schedule (schedule.withNetworks networks) :=
  .withMembers (List.forall₂_same.mpr fun plant _ => .refl plant) follow

omit [Scalar K] in
theorem Moves.withLinks {links : List (Link K)}
    (same : List.Forall₂ Link.SameFrame schedule.links links) :
    Moves schedule (schedule.withLinks links) :=
  { Moves.refl schedule with links := same }

/-- A balance row starts with the injection of its network. -/
theorem Grounded.headOf (grounded : schedule.Grounded) {kind : LinkKind} {row : LinkRow}
    (member : row ∈ schedule.linkRows kind) :
    ∀ term ∈ schedule.headOf row, schedule.Has term.1 := by
  intro term inside
  unfold Schedule.headOf at inside
  split at inside
  case h_2 => cases inside
  case h_1 head found =>
    cases row with
    | zonal need instant zone =>
        cases found
        cases inside
    | budget pollutant zone =>
        cases found
        cases inside
    | balance instant node =>
        unfold linkHead at found
        dsimp only at found
        split at found
        · cases found
          cases inside
        · split at found
          · rename_i injection answered
            cases found
            rw [List.mem_singleton.mp inside]
            obtain ⟨network, attached, answered⟩ := Option.bind_eq_some_iff.mp answered
            have present := List.mem_of_getElem? attached
            obtain ⟨intervals, nodes⟩ := grounded.sizes network present
            have node_lt : node < schedule.nodes := by
              cases kind with
              | balance =>
                  obtain ⟨_, _, _, node_lt, same⟩ := Family.mem_table.mp member
                  cases same
                  exact node_lt
              | zonal need =>
                  obtain ⟨_, _, _, _, same⟩ := Family.mem_table.mp member
                  cases same
              | budget =>
                  obtain ⟨_, _, same⟩ := List.mem_map.mp member
                  cases same
            refine .inr ⟨network, present, ?_⟩
            refine (grounded.networks network present).injections.cell? ?_ ?_ answered
            · rw [intervals]
              exact Nat.zero_lt_one
            · rwa [nodes]
          · cases found

theorem Grounded.rowOf (grounded : schedule.Grounded) {kind : LinkKind} {row : LinkRow}
    (member : row ∈ schedule.linkRows kind) :
    ∀ var ∈ Mps.mentions (.row (schedule.rowOf row)), schedule.Has var := by
  refine List.forall_mem_map.mpr fun term inside => ?_
  cases List.mem_append.mp inside with
  | inl head => exact grounded.headOf member term head
  | inr run =>
      obtain ⟨terms, listed, run⟩ := List.mem_flatten.mp run
      obtain ⟨index, index_lt, rfl⟩ := List.mem_mapIdx.mp listed
      have present := List.getElem_mem index_lt
      have owns := owns_of_mem_plantTerms member (grounded.horizons _ present) run
      exact .inl ⟨_, present, (grounded.plants _ present).has_of_owns owns⟩

theorem Grounded.linksNow (grounded : schedule.Grounded) :
    ∀ link ∈ schedule.linksNow, link.rows.RefersTo schedule.Has := by
  intro link member
  obtain ⟨kind, _, rfl⟩ := List.mem_map.mp (List.mem_filter.mp member).1
  intro item listed
  obtain ⟨row, member, rfl⟩ := List.mem_map.mp listed
  exact grounded.rowOf member

omit [Scalar K] in
theorem moves_stepMembers {plantStep : Change (Plant K) PUnit}
    {networkStep : Change (Network K) PUnit}
    (plantSteps : ∀ plant, Plant.Follows plant (plantStep plant).state)
    (networkSteps : ∀ network, Network.Follows network (networkStep network).state)
    (schedule : Schedule K) :
    Moves schedule (stepMembers plantStep networkStep schedule).state := by
  obtain ⟨plants, networks, state, plantsFollow, networksFollow⟩ := stepMembers_forall₂
    Plant.Follows Network.Follows Plant.Follows.refl Network.Follows.refl plantSteps networkSteps
    schedule
  rw [state]
  exact .withMembers plantsFollow networksFollow

theorem moves_refreshInjectionBounds (abstract : Mode) (schedule : Schedule K) :
    Moves schedule (refreshInjectionBounds abstract schedule).state := by
  rw [refreshInjectionBounds_apply]
  exact .withNetworks (Change.each_forall₂ Network.Follows.refl
    (fun _ network => .setInjectionBounds _ _ .quiet abstract network) _)

omit [Scalar K] in
/-- A step that is refused leaves what its work has left. -/
theorem Grounded.step (grounded : schedule.Grounded) {target : Stage}
    {advance : Change (Schedule K) PUnit} (advances : (advance schedule).state.Grounded) :
    (Schedule.step target advance schedule).state.Grounded := by
  rw [step_apply]
  cases schedule.stage.enter target with
  | error error => exact grounded
  | ok action =>
      cases action with
      | skip => exact grounded
      | run =>
          dsimp only
          split
          · exact advances
          · exact { advances with }

theorem Grounded.generateVariables (grounded : schedule.Grounded) :
    (Schedule.generateVariables schedule).state.Grounded :=
  grounded.step (grounded.moves
    (moves_stepMembers Plant.Follows.generateVariables Network.Follows.generateVariables _))

theorem Grounded.generateConstraints (grounded : schedule.Grounded) :
    (Schedule.generateConstraints schedule).state.Grounded := by
  have refreshed := grounded.moves (moves_refreshInjectionBounds .quiet schedule)
  have stepped := refreshed.moves (moves_stepMembers Plant.Follows.generateConstraints
    Network.Follows.generateConstraints _)
  refine grounded.step ?_
  rcases buildConstraints_cases schedule with
    ⟨error, _, untouched | atBounds | atStep⟩ | ⟨links, _, _, _, linked, state, _⟩
  · rw [untouched]
    exact grounded
  · rw [atBounds]
    exact refreshed
  · rw [atStep]
    exact stepped
  · obtain ⟨_, rfl⟩ := linksOf_ok.mp linked
    rw [state]
    exact { stepped with links := stepped.linksNow }

theorem Grounded.generateObjective (grounded : schedule.Grounded) :
    (Schedule.generateObjective schedule).state.Grounded := by
  have stepped := grounded.moves (moves_stepMembers Plant.Follows.generateObjective
    Network.Follows.generateObjective schedule)
  refine grounded.step ?_
  rw [buildObjective_apply]
  dsimp only
  split
  · exact stepped
  · refine { stepped with own := fun objective member => ?_ }
    cases member
    rfl

omit [Scalar K] in
theorem moves_onPlant {α : Type} {change : Change (Plant K) α}
    (follows : ∀ plant, Plant.Follows plant (change plant).state) (index : Nat)
    (schedule : Schedule K) : Moves schedule (onPlant index change schedule).state := by
  rw [onPlant_apply]
  cases found : schedule.plants[index]? with
  | none => exact .refl schedule
  | some plant =>
      exact .withMembers (Change.set_forall₂ Plant.Follows.refl found (follows plant))
        (List.forall₂_same.mpr fun network _ => .refl network)

theorem moves_patchPlant (index : Nat) (schedule : Schedule K) :
    Moves schedule (patchPlant index schedule).state := by
  obtain ⟨links, state, same⟩ := sameFrame_patchPlant index schedule
  rw [state]
  exact .withLinks same

theorem Grounded.afterScale (grounded : schedule.Grounded) (index : Nat) (outcome : Outcome)
    (abstract : Mode) : (Schedule.afterScale index outcome abstract schedule).state.Grounded := by
  rw [afterScale_apply]
  split
  · exact grounded
  · have refreshed := grounded.moves (moves_refreshInjectionBounds abstract.silent schedule)
    refine Change.state_bind Grounded refreshed fun _ => ?_
    split
    · have patched := refreshed.moves (moves_patchPlant index _)
      exact Change.state_bind Grounded patched fun _ => patched
    · exact refreshed

theorem Grounded.scalePlantAt (grounded : schedule.Grounded) (index : Nat) (address : Address)
    (values : List K) (physical abstract : Mode) :
    (Schedule.scalePlantAt index address values physical abstract schedule).state.Grounded := by
  have rescaled := grounded.moves (moves_onPlant
    (Plant.Follows.setScaleAt address values physical abstract) index schedule)
  exact Change.state_bind Grounded rescaled fun outcome =>
    rescaled.afterScale index outcome abstract

theorem moves_patchBusBalance (instants : List Nat) (schedule : Schedule K) :
    Moves schedule (schedule.patchBusBalance instants) := by
  refine .withLinks (List.forall₂_map_right_iff.mpr (List.forall₂_same.mpr fun link _ => ?_))
  split
  · exact sameFrame_foldl_setBoth (fun instant => schedule.balanceLevel instant 0) instants link
  · exact .refl link

theorem Grounded.setDemand (grounded : schedule.Grounded) (address : Address) (values : List K)
    (physical abstract : Mode) :
    (Schedule.setDemand address values physical abstract schedule).state.Grounded := by
  have written (demand : List K) : (schedule.withDemand demand).Grounded := { grounded with }
  rcases setDemand_state address values physical abstract schedule with
    still | ⟨selection, -, ⟨-, moved⟩ | ⟨-, moved⟩⟩
  · rw [still]
    exact grounded
  · rw [moved]
    unfold withBusLevels
    split
    · exact (written _).moves (moves_patchBusBalance _ _)
    · exact written _
  · obtain ⟨state, follow⟩ := forwardDemand_forall₂ Network.Follows Network.Follows.refl
      (fun _ _ _ => .trans) (fun address values network =>
        .setDemand address values .quiet abstract.silent network)
      selection.indices (schedule.withDemand
        (selection.write schedule.demand schedule.extent 0 values))
    rw [moved, state]
    exact (written _).moves (.withNetworks follow)

/-- The constants move, on a bus into the objective of the schedule. -/
theorem Grounded.withConstants (grounded : schedule.Grounded) (constants : List K) :
    (schedule.withConstants constants).Grounded := by
  refine { grounded with own := fun objective member => ?_ }
  obtain ⟨before, generated, rfl⟩ := Option.map_eq_some_iff.mp member
  exact grounded.own before generated

theorem Grounded.setNetworkConstants (grounded : schedule.Grounded) (constants : List K) :
    (Schedule.setNetworkConstants constants schedule).state.Grounded := by
  rw [setNetworkConstants_apply]
  split
  · exact grounded.withConstants constants
  · split
    · exact grounded
    · have follow : List.Forall₂ Network.Follows schedule.networks
          (schedule.networks.mapIdx fun instant network =>
            network.withConstant (constants.getD instant 0)) :=
        Change.mapIdx_forall₂ fun _ network => .setConstantTerm _ network
      exact (grounded.moves (.withNetworks follow)).withConstants constants

omit [Scalar K] in
theorem grounded_ofHorizon (id : BlockId) (horizon : Nat) :
    (ofHorizon id horizon : Schedule K).Grounded where
  plants _ member := by cases member
  horizons _ member := by cases member
  networks _ member := by cases member
  sizes _ member := by cases member
  links _ member := by cases member
  own _ member := by cases member

omit [Scalar K] in
theorem Grounded.addPlant (grounded : schedule.Grounded)
    (bare : schedule.stage.hasConstraints = false → schedule.links = []) {plant : Plant K}
    (made : plant.Grounded) : (Schedule.addPlant plant schedule).state.Grounded := by
  refine addPlant_preserves grounded fun opened fits => ?_
  have unlinked := bare (early_of_checkOpen opened)
  refine { grounded with plants := ?_, horizons := ?_, links := ?_ }
  · exact List.forall_mem_append.mpr
      ⟨grounded.plants, List.forall_mem_singleton.mpr { made with }⟩
  · exact List.forall_mem_append.mpr ⟨grounded.horizons, List.forall_mem_singleton.mpr fits⟩
  · intro link member
    cases unlinked ▸ member

theorem Grounded.setNetwork {result : Schedule K} (grounded : schedule.Grounded)
    (bare : schedule.stage.hasConstraints = false → schedule.links = [])
    {descriptor : Descriptor K} {generatorNode : List Nat} {before after : Nat}
    (created : schedule.setNetwork descriptor generatorNode before = (.ok result, after)) :
    result.Grounded := by
  obtain ⟨opened, networks, rfl, members⟩ := setNetwork_eq_ok created
  have unlinked := bare (early_of_checkOpen opened)
  have links (known : VarRef → Prop) : ∀ link ∈ schedule.links, link.rows.RefersTo known :=
    fun link member => by cases unlinked ▸ member
  rcases members with ⟨-, attached⟩ | ⟨-, rfl, -⟩
  · obtain ⟨-, new⟩ := networksFor_new attached
    refine { grounded with
      networks := fun network member => ?_
      sizes := fun network member => ?_
      links := links _ }
    · obtain ⟨id, rfl⟩ := new network member
      have shared : ((Network.bus id).attach (.shared descriptor)).Grounded :=
        (Network.grounded_bus id).early rfl rfl
      exact { shared with }
    · obtain ⟨id, rfl⟩ := new network member
      exact ⟨rfl, rfl⟩
  · exact { grounded with
      networks := fun network member => by cases member
      sizes := fun network member => by cases member
      links := links _ }

omit [Scalar K] in
theorem Grounded.withNotifier (grounded : schedule.Grounded) (notifier : NotifierKey) :
    (schedule.withNotifier notifier).Grounded := by
  have plants : List.Forall₂ Plant.Follows schedule.plants
      (schedule.withNotifier notifier).plants :=
    List.forall₂_map_right_iff.mpr (List.forall₂_same.mpr fun plant _ =>
      ⟨fun grounded => { grounded with }, rfl, .refl _, rfl⟩)
  have networks : List.Forall₂ Network.Follows schedule.networks
      (schedule.withNotifier notifier).networks :=
    List.forall₂_map_right_iff.mpr (List.forall₂_same.mpr fun network _ =>
      ⟨fun grounded => { grounded with }, rfl, .refl _, rfl, rfl⟩)
  have members := grounded.moves (.withMembers plants networks)
  exact { members with }

omit [Scalar K] in
theorem Grounded.setZoning (grounded : schedule.Grounded) (need : Need) (zoning : Zoning K) :
    (Schedule.setZoning need zoning schedule).state.Grounded := by
  refine whileOpen_preserves grounded fun _ => ?_
  cases need with
  | primary => exact { grounded with }
  | secondary => exact { grounded with }
  | inertia => exact { grounded with }

omit [Scalar K] in
theorem Grounded.setEmissions (grounded : schedule.Grounded) (emissions : Emissions K) :
    (Schedule.setEmissions emissions schedule).state.Grounded :=
  whileOpen_preserves grounded fun _ => { grounded with }

end Schedule

end Dispatch
