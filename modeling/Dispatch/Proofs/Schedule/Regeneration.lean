import Dispatch.Proofs.Closure.Numbering
import Dispatch.Proofs.Schedule.Reloading
import Dispatch.Proofs.Transport.Model

namespace Dispatch

/-! Schedules that are saved, read back and generated anew. The blocks that are read have numbers
of their own, and apart from them and from the signs of zeros the model is the one that is
generated of the saved schedule. -/

/-! Networks whose injections are free, as nothing was generated that would bound them. -/

/-- Every injection is free. -/
structure Network.Unbounded {K : Type} [Scalar K] (network : Network K) : Prop where
  minimum : network.minInjection = List.replicate network.extent (-Scalar.infinity)
  maximum : network.maxInjection = List.replicate network.extent Scalar.infinity

theorem Network.Unbounded.setDemand {K : Type} [Scalar K] {network : Network K}
    (unbounded : network.Unbounded) (address : Address) (values : List K)
    (physical abstract : Mode) :
    (Network.setDemand address values physical abstract network).state.Unbounded := by
  rw [reloaded_setDemand address values physical abstract network]
  exact ⟨unbounded.minimum, unbounded.maximum⟩

/-! What resembles meets, once its numbers have lost the signs of zeros. -/

section Signless

variable {rename : BlockId → BlockId}

theorem Topology.Resembles.unnamed {first second : Topology Float}
    (resembles : first.Resembles second) (several : 1 < second.nodes) :
    (first.map (signless rename)).unnamed = (second.map unsigned).unnamed := by
  have factors : first.factors.map (List.map Signless.of) =
      second.factors.map (List.map Signless.of) := by
    rcases resembles.factors with same | ⟨single, -⟩
    · generalize first.factors = matrix at same ⊢
      generalize second.factors = other at same ⊢
      cases same with
      | none => rfl
      | some close => exact congrArg some (map_of_eq close)
    · omega
  simp only [Topology.unnamed, Topology.map, Topology.mk.injEq, true_and, and_true]
  exact ⟨resembles.nodes, resembles.lines, resembles.start, resembles.finish,
    map_of_eq resembles.minFlow, map_of_eq resembles.maxFlow, map_of_eq resembles.susceptance,
    map_of_eq resembles.cost, factors⟩

theorem Plant.Resembles.meets {first second : Plant Float} (resembles : first.Resembles second)
    (bare : first.Bare) (other : second.Bare) (renamed : rename first.id = second.id) :
    first.Meets (signless rename) unsigned second := by
  have empty {α β : Type} (name : String) (change : α → β) :
      (Family.empty name first.horizon).map change =
        (Family.empty name second.horizon).map change := by
    rw [resembles.horizon]
  have carried : first.stripped.Meets (signless rename) unsigned second.stripped :=
    { resembles with
      stage := rfl
      committed := resembles.commitment
      primary := resembles.primaryReserve
      secondary := resembles.secondaryReserve
      scale := Signless.of_eq_of.mpr resembles.scale
      minPower := fun generator instant =>
        Signless.of_eq_of.mpr (resembles.minPower generator instant)
      maxPower := fun generator instant =>
        Signless.of_eq_of.mpr (resembles.maxPower generator instant)
      linearCost := fun generator instant =>
        Signless.of_eq_of.mpr (resembles.linearCost generator instant)
      fixedConsumption := fun generator instant =>
        Signless.of_eq_of.mpr (resembles.fixedConsumption generator instant)
      inertiaPower := fun generator instant =>
        Signless.of_eq_of.mpr (resembles.inertiaPower generator instant)
      inertiaCommitment := fun generator instant =>
        Signless.of_eq_of.mpr (resembles.inertiaCommitment generator instant)
      store := congrArg Store.empty renamed
      activePower := rfl
      commitment := rfl
      primaryReserve := rfl
      secondaryReserve := rfl
      powerBounds := empty _ _
      minPowerRows := empty _ _
      maxPowerRows := empty _ _
      objective := rfl }
  rwa [show first.stripped = first from bare, show second.stripped = second from other] at carried

end Signless

/-- A network as a schedule holds it before anything is generated. -/
structure Network.Fresh (network : Network Float) : Prop where
  bare : network.Bare
  unbounded : network.Unbounded
  attached : ∃ topology, network.topology? = some topology ∧ 1 < topology.nodes
  single : network.intervals = 1
  demand : network.demand = [] ∨ network.demand.length = network.extent
  kappa : network.kappa = []

theorem Network.Fresh.demandAt_beyond {network : Network Float} (fresh : network.Fresh)
    {interval node : Nat} (beyond : ¬(interval = 0 ∧ node < network.nodes)) :
    network.demandAt interval node = 0 := by
  have past : network.demand.length ≤ interval * network.nodes + node := by
    rcases fresh.demand with none | full
    · rw [none]
      exact Nat.zero_le _
    · rw [full, Network.extent, fresh.single, Nat.one_mul]
      rcases Nat.eq_zero_or_pos interval with rfl | later
      · omega
      · exact Nat.le_trans (Nat.le_mul_of_pos_left _ later) (Nat.le_add_right _ _)
  rw [Network.demandAt_eq, List.getD_eq_default _ _ past]

theorem Network.Resembles.meets {first second : Network Float}
    (resembles : first.Resembles second) (fresh : first.Fresh) (other : second.Fresh)
    {rename : BlockId → BlockId} (renamed : rename first.id = second.id) :
    first.Meets (signless rename) unsigned second := by
  have nodes := resembles.nodes
  have extent : first.extent = second.extent := by
    rw [Network.extent, Network.extent, resembles.intervals, nodes]
  obtain ⟨topology, attached, -⟩ := fresh.attached
  obtain ⟨lines, ground, several⟩ := other.attached
  have unnamed : (topology.map (signless rename)).unnamed = (lines.map unsigned).unnamed := by
    have footing := resembles.footing
    rw [Network.footing, Network.footing, attached, ground] at footing
    exact footing.unnamed several
  have demandAt (interval node : Nat) :
      Signless.of (first.demandAt interval node) = .of (second.demandAt interval node) := by
    by_cases within : interval = 0 ∧ node < second.nodes
    · exact Signless.of_eq_of.mpr
        (resembles.demand interval (by rw [other.single]; omega) node within.2)
    · rw [fresh.demandAt_beyond (nodes ▸ within), other.demandAt_beyond within]
  have kappaAt (line : Nat) : first.kappaAt line = second.kappaAt line := by
    rw [Network.kappaAt, Network.kappaAt, fresh.kappa, other.kappa]
  have carried : first.stripped.Meets (signless rename) unsigned second.stripped :=
    { stage := rfl
      nodes := by rw [Network.nodes_map, Network.nodes_map]; exact nodes
      intervals := resembles.intervals
      topology := by
        rw [Network.topology?_map, Network.topology?_map]
        change (first.topology?.map _).map _ = (second.topology?.map _).map _
        rw [attached, ground]
        exact congrArg some unnamed
      demandAt := funext₂ fun interval node => by
        rw [Network.demandAt_map, Network.demandAt_map]
        exact demandAt interval node
      kappaAt := funext fun line => by
        rw [Network.kappaAt_map, Network.kappaAt_map]
        exact congrArg Signless.of (kappaAt line)
      constantTerm := Signless.of_eq_of.mpr resembles.constantTerm
      minInjection := by
        change first.minInjection.map Signless.of = second.minInjection.map Signless.of
        rw [fresh.unbounded.minimum, other.unbounded.minimum, extent]
      maxInjection := by
        change first.maxInjection.map Signless.of = second.maxInjection.map Signless.of
        rw [fresh.unbounded.maximum, other.unbounded.maximum, extent]
      store := congrArg Store.empty renamed
      nodeInjection := rfl
      powerFlow := rfl
      auxiliary := rfl
      rows := rfl
      objective := rfl }
  rwa [show first.stripped = first from fresh.bare,
    show second.stripped = second from other.bare] at carried

namespace Schedule

theorem unbounded_perform {schedule : Schedule Float}
    (each : schedule.EachNetwork Network.Unbounded) (bare : schedule.Bare)
    {operation : Operation Float} (early : operation.Early) :
    (operation.perform schedule).EachNetwork Network.Unbounded := by
  cases operation with
  | addPlant plant => exact each.addPlant plant
  | setNetwork =>
      exact setNetwork_preserves each fun created =>
        eachNetwork_setNetwork (fun _ _ => ⟨rfl, rfl⟩) created
  | setZoning need zoning => cases need <;> exact each.whileOpen rfl
  | setEmissions emissions => exact each.whileOpen rfl
  | withSettings settings => exact each
  | withNotifier notifier =>
      intro network member
      obtain ⟨earlier, listed, rfl⟩ := List.mem_map.mp member
      exact ⟨(each earlier listed).minimum, (each earlier listed).maximum⟩
  | withData => exact each.whileOpen rfl
  | call step =>
      cases step with
      | scalePlantAt index address values physical abstract =>
          rw [Operation.perform, Call.perform, bare.scalePlantAt_state, onPlant_apply]
          cases schedule.plants[index]? <;> exact each
      | setDemand address values physical abstract =>
          exact each.setDemand (fun free _ _ => free.setDemand ..) address values physical
      | setNetworkConstants constants =>
          exact each.setNetworkConstants (fun free _ => ⟨free.minimum, free.maximum⟩) constants
      | _ => exact early.elim

theorem Assembled.unbounded {schedule : Schedule Float}
    (assembled : schedule.Assembled Plant.Read) : schedule.EachNetwork Network.Unbounded := by
  induction assembled with
  | start initial =>
      cases initial with
      | ofHorizon id horizon => exact fun _ member => absurd member List.not_mem_nil
  | step assembled _ allowed each =>
      exact unbounded_perform each (Assembled.bare assembled) allowed.1

theorem Composed.unbounded {schedule : Schedule Float} (composed : schedule.Composed) :
    schedule.EachNetwork Network.Unbounded := by
  induction composed with
  | start begun =>
      cases begun with
      | new created =>
          obtain ⟨id, _, _, fresh⟩ := Creation.bind_eq_ok created
          cases Creation.pure_eq_ok fresh
          exact fun _ member => absurd member List.not_mem_nil
      | ofGroup created => exact (assembled_ofGroupWith created).unbounded
  | step composed _ allowed each =>
      exact unbounded_perform each (Composed.bare composed) allowed.1

theorem Composed.fresh {schedule : Schedule Float} (composed : schedule.Composed) :
    schedule.EachNetwork Network.Fresh := by
  intro network member
  have reachable := composed.reachable
  obtain ⟨topology, siblings⟩ := reachable.arises.paced.networks
  have sibling := siblings network member
  exact {
    bare := composed.bare.networks network member
    unbounded := composed.unbounded network member
    attached := ⟨topology, sibling.attached, sibling.several⟩
    single := sibling.intervals
    demand := (reachable.sound.stocked.networks network member).shaped.demand
    kappa := reachable.arises.kappa_eq_nil member }

private theorem forall₂_of_names {α β γ : Type} {related meets : α → β → Prop}
    {members : List α} {twins : List β} {name : α → γ} {called : β → γ}
    (pairs : List.Forall₂ related members twins) (names : members.map name = twins.map called)
    (meet : ∀ member ∈ members, ∀ twin ∈ twins, related member twin →
      name member = called twin → meets member twin) : List.Forall₂ meets members twins := by
  induction pairs with
  | nil => exact .nil
  | cons pair _ induction =>
      rw [List.map_cons, List.map_cons, List.cons.injEq] at names
      refine .cons (meet _ List.mem_cons_self _ List.mem_cons_self pair names.1)
        (induction names.2 fun member listed twin other => ?_)
      exact meet member (List.mem_cons_of_mem _ listed) twin (List.mem_cons_of_mem _ other)

/-- Schedules that repeat each other meet, given that the members go by the same names. -/
theorem Repeats.meets {again schedule : Schedule Float} (repeats : again.Repeats schedule)
    (composed : again.Composed) (other : schedule.Composed) {rename : BlockId → BlockId}
    (renamed : again.members.map rename = schedule.members) :
    again.Meets (signless rename) unsigned schedule := by
  have bare := composed.bare
  have original := other.bare
  rw [members, List.map_append, List.map_map, List.map_map] at renamed
  obtain ⟨plantIds, networkIds⟩ := List.append_inj renamed (by
    rw [List.length_map, List.length_map, repeats.plants.length_eq])
  exact {
    stage := bare.stage.trans original.stage.symm
    horizon := repeats.horizon
    nodes := repeats.nodes
    plants := forall₂_of_names repeats.plants plantIds fun plant listed twin held same name =>
      same.meets (bare.plants plant listed) (original.plants twin held) name
    networks := forall₂_of_names repeats.networks networkIds
      fun network listed twin held same name =>
        same.meets (composed.fresh network listed) (other.fresh twin held) name
    generatorNode := repeats.generatorNode
    demandAt := fun node instant => by
      rw [demandAt, demandAt, repeats.horizon]
      exact Signless.of_eq_of.mpr (repeats.demand _)
    zoning := fun need =>
      ⟨(repeats.zonings need).count, (repeats.zonings need).zones,
        map_of_eq (repeats.zonings need).demand⟩
    emissions :=
      ⟨repeats.emissions.zoneCounts, repeats.emissions.zones,
        fun some => map_of_eq (repeats.emissions.budget some),
        fun some => map_of_eq (repeats.emissions.rates some)⟩
    constants := Signless.of_eq_of.mpr repeats.constants
    links := by
      rw [bare.links, original.links]
      rfl
    objective := by
      rw [bare.objective, original.objective]
      rfl }

/-- Different names can be changed to any others. -/
private theorem exists_rename {names others : List BlockId} (distinct : names.Nodup)
    (count : names.length = others.length) :
    ∃ rename : BlockId → BlockId, names.map rename = others := by
  refine ⟨fun name => others.getD (names.idxOf name) name, ?_⟩
  refine List.ext_getElem (by rw [List.length_map, count]) fun place here there => ?_
  rw [List.length_map] at here
  rw [List.getElem_map, distinct.idxOf_getElem, List.getD_eq_getElem _ _ there]

/-- What is saved of a schedule is read back as a schedule of which the same model is generated,
up to the numbers of the blocks and the signs of zeros. -/
theorem generateAll_ofGroup_write {schedule : Schedule Float} (composed : schedule.Composed)
    (timed : 0 < schedule.horizon) (occupied : ∀ plant ∈ schedule.plants, 0 < plant.generators)
    (some : schedule.isBus = false → schedule.plants ≠ [])
    (generated : (generateAll schedule).result = .ok ⟨⟩) (moderate : schedule.Moderate)
    (completable : schedule.Completable) (before : Nat) :
    ∃ again after rename, ofGroup (schedule.write Group.empty) before = (.ok again, after) ∧
      again.members.map rename = schedule.members ∧ (generateAll again).result = .ok ⟨⟩ ∧
      (generateAll again).state.model.Meets (signless rename) unsigned
        (generateAll schedule).state.model := by
  have valid := composed.bare.validate_of_generateAll generated
  obtain ⟨again, after, read, repeats⟩ :=
    ofGroup_write_of_composed composed timed occupied some valid moderate completable before
  have count : again.members.length = schedule.members.length := by
    simp only [members, List.length_append, List.length_map, repeats.plants.length_eq,
      repeats.networks.length_eq]
  obtain ⟨rename, renamed⟩ := exists_rename (nodup_members_ofGroupWith read) count
  have parallel := (repeats.meets (.start (.ofGroup read)) composed renamed).generateAll
  exact ⟨again, after, rename, read, renamed, parallel.result.trans generated,
    parallel.state.model⟩

theorem generateAll_ofGroup_write_recharged : ∃ again after rename,
    ofGroup ((recharged [2]).write Group.empty) 2 = (.ok again, after) ∧
      again.members.map rename = (recharged [2]).members ∧
      (generateAll again).result = .ok ⟨⟩ ∧
      (generateAll again).state.model.Meets (signless rename) unsigned
        (generateAll (recharged [2])).state.model :=
  generateAll_ofGroup_write (composed_recharged [2]) (by decide) (occupied_recharged [2])
    (fun _ => List.cons_ne_nil _ _) rfl moderate_recharged completable_recharged 2

end Schedule

end Dispatch
