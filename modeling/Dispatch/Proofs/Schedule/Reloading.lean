import Dispatch.Proofs.Number.Signless
import Dispatch.Proofs.Reachable.Constants
import Dispatch.Proofs.Reachable.Networks
import Dispatch.Proofs.Reachable.Plants
import Dispatch.Proofs.Schedule.Filing

namespace Dispatch

/-! Schedules that are put together or read, set up and updated in any order, and then saved and
read back. -/

/-- Nothing that becomes of a plant touches what it was made of. -/
theorem Plant.Originates.lasting : Plant.Lasting Plant.Originates :=
  fun originates operation _ => originates.perform operation

namespace Schedule

variable {schedule : Schedule Float} {data : DcData Float}

inductive Begun : Schedule Float → Prop
  | new {horizon : Nat} {schedule : Schedule Float} {before after : Nat}
      (created : Schedule.new horizon before = (.ok schedule, after)) : Begun schedule
  | ofGroup {group : Group} {schedule : Schedule Float} {before after : Nat}
      (created : Schedule.ofGroup group before = (.ok schedule, after)) : Begun schedule

/-- The parts are made of data that a group can hold. -/
def Operation.Composes : Operation Float → Prop
  | .addPlant plant => plant.Provided
  | .setNetwork descriptor _ _ => ∃ data : DcData Float, data.Made ∧ descriptor = .dc data
  | .withData _ _ _ _ _ _ => False
  | _ => True

/-- Assembled by calls or read, and updated before anything is generated; a refused call counts
with what it leaves. -/
def Composed : Schedule Float → Prop :=
  Reached Begun Operation.perform fun operation => operation.Early ∧ operation.Composes

theorem Begun.created (begun : schedule.Begun) : schedule.Created := by
  cases begun with
  | new created => exact .new created
  | ofGroup created => exact .ofGroupWith created

theorem Operation.Composes.within {operation : Operation Float} (composes : operation.Composes)
    {plants : Plant Float → Prop}
    (provides : ∀ plant : Plant Float, plant.Provided → plants plant) :
    operation.Within plants anyMode := by
  cases operation with
  | addPlant plant => exact provides plant composes
  | call step => exact step.within plants
  | _ => trivial

theorem Composed.reachable (composed : schedule.Composed) : schedule.Reachable :=
  composed.mono (fun _ begun => .start begun.created) fun _ allowed =>
    allowed.2.within fun _ provided => provided.reachable

theorem Begun.bare (begun : schedule.Begun) : schedule.Bare := by
  cases begun with
  | new created =>
      obtain ⟨id, _, _, fresh⟩ := Creation.bind_eq_ok created
      cases Creation.pure_eq_ok fresh
      exact bare_ofHorizon id _
  | ofGroup created => exact (assembled_ofGroupWith created).bare

theorem Composed.bare (composed : schedule.Composed) : schedule.Bare := by
  induction composed with
  | start begun => exact begun.bare
  | step _ operation allowed bare => exact bare.perform allowed.1

theorem sharesLines_ofGroup {group : Group} {before after : Nat}
    (read : ofGroup group before = (.ok schedule, after)) :
    ∃ data : DcData Float, data.Made ∧ schedule.SharesLines data := by
  obtain ⟨contents, plain, holds, -⟩ := (follows_ofGroup group).eq_ok read
  obtain rfl := holds.contents
  cases (Contents.ofGroup_eq_ok.mp plain).placed with
  | bus single one default bare =>
      have none : schedule.networks = [] := Filed.networks_eq_nil bare
      refine ⟨DcData.bus, .bus, default, one, ?_⟩
      rw [none]
      exact fun _ member => absurd member List.not_mem_nil
  | lines data several lines named hasGenerators count default shared =>
      refine ⟨data, .ofGroup lines, default, count, fun network member => ?_⟩
      obtain ⟨other, same, held⟩ :=
        holds.networks network.descriptor (List.mem_map_of_mem member)
      cases lines.symm.trans same
      exact held

theorem originates_ofGroup {group : Group} {before after : Nat}
    (read : ofGroup group before = (.ok schedule, after)) :
    schedule.EachPlant Plant.Originates := by
  obtain ⟨contents, plain, holds, -⟩ := (follows_ofGroup group).eq_ok read
  obtain rfl := holds.contents
  intro plant member
  obtain ⟨place, there⟩ := List.mem_iff_getElem?.mp member
  obtain ⟨group, found, layouts⟩ := holds.plants place plant there
  have held : schedule.contents.plants[place]? = some (plant.data, plant.scale) := by
    rw [contents, List.getElem?_map, there]
    rfl
  obtain ⟨other, same, data, -⟩ := (Contents.ofGroup_eq_ok.mp plain).plants place _ held
  cases found.symm.trans same
  obtain ⟨_, data, rest⟩ := Except.bind_eq_ok.mp data
  obtain ⟨_, _, rest⟩ := Except.bind_eq_ok.mp rest
  cases rest
  exact .inr ⟨group, Plant.dataOfGroup_eq_ok.mp data, layouts⟩

theorem Begun.originates (begun : schedule.Begun) : schedule.EachPlant Plant.Originates := by
  cases begun with
  | new created =>
      obtain ⟨id, _, _, fresh⟩ := Creation.bind_eq_ok created
      cases Creation.pure_eq_ok fresh
      exact fun _ member => absurd member List.not_mem_nil
  | ofGroup created => exact originates_ofGroup created

theorem Composed.originates (composed : schedule.Composed) :
    schedule.EachPlant Plant.Originates := by
  induction composed with
  | start begun => exact begun.originates
  | step composed operation allowed each =>
      exact each.perform Plant.Originates.lasting (Composed.reachable composed).sound
        (allowed.2.within fun _ provided => provided.originates)

/-- The terms of the networks are those on file; without any, they are as new. -/
theorem terms_ofGroup {group : Group} {before after : Nat}
    (read : ofGroup group before = (.ok schedule, after)) :
    schedule.isBus = true ∨
      schedule.networks.map Network.constantTerm = schedule.networkConstants ∨
      schedule.networkConstants = [] ∧ ∀ network ∈ schedule.networks, network.constantTerm = 0 := by
  obtain ⟨horizon, _, _, read⟩ := Creation.bind_eq_ok read
  obtain ⟨plants, _, _, read⟩ := Creation.bind_eq_ok read
  obtain ⟨opened, _, fresh, read⟩ := Creation.bind_eq_ok read
  cases fresh
  obtain ⟨filled, _, adds, read⟩ := Creation.bind_eq_ok read
  obtain ⟨attached, _, network, read⟩ := Creation.bind_eq_ok read
  obtain ⟨demanded, _, demand, read⟩ := Creation.bind_eq_ok read
  obtain ⟨primary, _, _, read⟩ := Creation.bind_eq_ok read
  obtain ⟨secondary, _, _, read⟩ := Creation.bind_eq_ok read
  obtain ⟨inertia, _, _, read⟩ := Creation.bind_eq_ok read
  obtain ⟨emissions, _, _, read⟩ := Creation.bind_eq_ok read
  obtain ⟨priced, _, constants, read⟩ := Creation.bind_eq_ok read
  cases read
  -- up to the terms themselves nothing on file is about terms
  obtain ⟨_, added, holds⟩ :=
    ((holds_ofHorizon group _ horizon).addPlants plants 0 rfl).eq_ok adds
  obtain ⟨_, -, -, rfl⟩ := Contents.addPlants_eq_ok.mp added
  obtain ⟨_, located, holds⟩ := (holds.networkOfGroup _).eq_ok network
  obtain ⟨fresh, unset, fits⟩ := Contents.withNetwork_fresh rfl rfl located
  obtain ⟨_, supplied, holds⟩ := (holds.demandOfGroup fresh fits).eq_ok demand
  obtain ⟨_, -, rfl⟩ := (Contents.withDemand_eq_ok fresh).mp supplied
  have none : demanded.networkConstants = [] :=
    (congrArg Contents.constants holds.contents).trans unset
  obtain ⟨given, _, -, constants⟩ := Creation.bind_eq_ok constants
  cases given with
  | none =>
      cases constants
      have arises := holds.assembled.arises fun _ read => read.arises
      refine arises.charged.terms.imp_right fun terms => ?_
      rcases terms with same | new
      · exact .inl same
      · exact .inr ⟨none, new⟩
  | some given =>
      obtain ⟨terms, _, changed⟩ : ∃ terms middle, Schedule.changed _
          (Schedule.setNetworkConstants terms) middle = (.ok priced, after) := by
        dsimp only at constants
        split at constants
        all_goals
          obtain ⟨terms, middle, -, changed⟩ := Creation.bind_eq_ok constants
          exact ⟨terms, middle, changed⟩
      obtain ⟨changed, -⟩ := Creation.require_eq_ok changed
      obtain ⟨answer, accepted, rfl⟩ := Except.map_eq_ok.mp changed
      obtain ⟨-, kept, bus | same⟩ := setNetworkConstants_terms accepted
      · exact .inl bus
      · exact .inr (.inl (same.trans kept.symm))

namespace SharesLines

theorem moved {before after : Schedule Float} (shares : before.SharesLines data)
    (classname : after.classname = before.classname) (nodes : after.nodes = before.nodes)
    (each : after.EachNetwork fun network => network.descriptor = some (.shared (.dc data))) :
    after.SharesLines data :=
  ⟨classname.trans shares.classname, nodes.trans shares.nodes, each⟩

theorem lasting (data : DcData Float) :
    Network.Lasting anyMode fun network => network.descriptor = some (.shared (.dc data)) :=
  .of_sameLines fun same held => same.descriptor.trans held

end SharesLines

theorem Begun.sharesLines (begun : schedule.Begun) :
    ∃ data : DcData Float, data.Made ∧ schedule.SharesLines data := by
  cases begun with
  | new created =>
      obtain ⟨id, _, _, fresh⟩ := Creation.bind_eq_ok created
      cases Creation.pure_eq_ok fresh
      exact ⟨DcData.bus, .bus, rfl, rfl, fun _ member => absurd member List.not_mem_nil⟩
  | ofGroup created => exact sharesLines_ofGroup created

theorem SharesLines.update (shares : schedule.SharesLines data) (bare : schedule.Bare)
    {call : Call Float} (updates : call.IsUpdate) : (call.perform schedule).SharesLines data := by
  have each : EachNetwork _ schedule := shares.shared
  have lasting := SharesLines.lasting data
  cases call with
  | scalePlantAt index address values physical abstract =>
      rw [Call.perform, bare.scalePlantAt_state, onPlant_apply]
      cases schedule.plants[index]? <;> exact { shares with }
  | setDemand address values physical abstract =>
      have kept : EachNetwork _
          (Schedule.setDemand address values physical abstract schedule).state :=
        each.setDemand (fun holds address values =>
          lasting.setDemand holds address values trivial) address values physical
      have rest : ∃ demand networks links,
          (Schedule.setDemand address values physical abstract schedule).state =
            { schedule with demand, networks, links } := by
        rcases setDemand_state address values physical abstract schedule with
          still | ⟨selection, -, ⟨-, moved⟩ | ⟨-, moved⟩⟩
        · exact ⟨_, _, _, still⟩
        · rw [moved, withBusLevels]
          split <;> exact ⟨_, _, _, rfl⟩
        · exact ⟨_, _, _, moved⟩
      obtain ⟨demand, networks, links, rest⟩ := rest
      rw [Call.perform]
      rw [rest] at kept ⊢
      exact shares.moved rfl rfl kept
  | setNetworkConstants constants =>
      have kept := each.setNetworkConstants lasting.withConstant constants
      rw [Call.perform]
      rw [setNetworkConstants_apply] at kept ⊢
      split
      · exact { shares with }
      · rename_i several
        rw [if_neg several] at kept
        split
        · exact shares
        · rename_i fits
          rw [if_neg fits] at kept
          exact shares.moved rfl rfl kept
  | _ => exact updates.elim

theorem SharesLines.perform (shares : schedule.SharesLines data) (made : data.Made)
    (bare : schedule.Bare) {operation : Operation Float} (early : operation.Early)
    (composes : operation.Composes) :
    ∃ data : DcData Float, data.Made ∧ (operation.perform schedule).SharesLines data := by
  cases operation with
  | addPlant plant =>
      exact ⟨data, made, addPlant_preserves shares fun _ _ => { shares with }⟩
  | setNetwork descriptor generatorNode counter =>
      obtain ⟨other, created, rfl⟩ := composes
      refine @setNetwork_preserves Float _ schedule (fun schedule =>
        ∃ data : DcData Float, data.Made ∧ schedule.SharesLines data) ⟨data, made, shares⟩ _ _ _
        fun attached => ?_
      have shared : EachNetwork
          (fun network => network.descriptor = some (.shared (.dc other))) _ :=
        eachNetwork_setNetwork (fun _ _ => rfl) attached
      obtain ⟨-, networks, rfl, -⟩ := setNetwork_eq_ok attached
      exact ⟨other, created, rfl, rfl, shared⟩
  | setZoning need zoning =>
      exact ⟨data, made, whileOpen_preserves shares fun _ => by
        cases need <;> exact { shares with }⟩
  | setEmissions emissions =>
      exact ⟨data, made, whileOpen_preserves shares fun _ => { shares with }⟩
  | withSettings settings => exact ⟨data, made, { shares with }⟩
  | withNotifier notifier =>
      have each : EachNetwork _ schedule := shares.shared
      exact ⟨data, made,
        shares.moved rfl rfl (each.withNotifier (SharesLines.lasting data) notifier)⟩
  | withData => exact composes.elim
  | call step => exact ⟨data, made, shares.update bare early⟩

theorem Composed.sharesLines (composed : schedule.Composed) :
    ∃ data : DcData Float, data.Made ∧ schedule.SharesLines data := by
  induction composed with
  | start begun => exact begun.sharesLines
  | step composed operation allowed shares =>
      obtain ⟨data, made, shares⟩ := shares
      exact shares.perform made (Composed.bare composed) allowed.1 allowed.2

theorem generators_pos (generated : ∀ plant ∈ schedule.plants, 0 < plant.generators)
    (some : schedule.plants ≠ []) : 0 < schedule.generators := by
  obtain ⟨plant, rest, plants⟩ := List.exists_cons_of_ne_nil some
  have first := generated plant (by rw [plants]; exact List.mem_cons_self)
  unfold generators
  rw [plants, List.map_cons, List.foldr_cons]
  omega

theorem Composed.filable (composed : schedule.Composed) (timed : 0 < schedule.horizon)
    (generated : ∀ plant ∈ schedule.plants, 0 < plant.generators)
    (some : schedule.isBus = false → schedule.plants ≠ []) (valid : schedule.validate = .ok ())
    (moderate : schedule.Moderate) : ∃ data, schedule.Filable data := by
  have reachable := composed.reachable
  have stocked := reachable.sound.stocked
  obtain ⟨data, made, shares⟩ := composed.sharesLines
  refine ⟨data, timed, shares, made.filable, fun several => ?_, fun several none => ?_, ?_, stocked,
    valid⟩
  · obtain ⟨topology, siblings⟩ := reachable.arises.paced.networks
    obtain ⟨first, rest, networks⟩ := List.exists_cons_of_ne_nil
      fun none : schedule.networks = [] => by
        rw [isBus, none] at several
        cases several
    have member : first ∈ schedule.networks := by
      rw [networks]
      exact List.mem_cons_self
    have sibling := siblings first member
    have attached := sibling.attached
    rw [Network.topology?, shares.shared first member] at attached
    obtain rfl : data.topology = topology := Option.some.inj attached
    exact sibling.several
  · have length := (placed_of_validate valid).several several
    rw [none] at length
    exact absurd length.symm (generators_pos generated (some several)).ne'
  · intro plant member
    exact (composed.originates plant member).filable (generated plant member)
      (stocked.horizons plant member ▸ timed) (moderate.plants plant member).storable

/-- All that can be asked of the schedule has the same answer, up to the sign of a zero. -/
structure Repeats (first second : Schedule Float) : Prop where
  horizon : first.horizon = second.horizon
  nodes : first.nodes = second.nodes
  plants : List.Forall₂ Plant.Resembles first.plants second.plants
  networks : List.Forall₂ Network.Resembles first.networks second.networks
  generatorNode : first.generatorNode = second.generatorNode
  demand : SameLevels first.demand second.demand
  zonings : ∀ need, (first.zoning need).Resembles (second.zoning need)
  emissions : first.emissions.Resembles second.emissions
  constants : Alike (Scalar.sum first.networkConstants) (Scalar.sum second.networkConstants)

variable {again : Schedule Float}

theorem length_networks (returns : again.contents.Returns schedule data) :
    again.networks.length = schedule.networks.length := by
  obtain ⟨topology, -, shared⟩ := returns.topologies
  have length := congrArg List.length shared
  rwa [contents, List.length_map, List.length_replicate] at length

theorem isBus_of_returns (returns : again.contents.Returns schedule data) :
    again.isBus = schedule.isBus :=
  isBus_of_length (length_networks returns)

/-- The terms of the networks follow from those on file. -/
theorem terms_alike (returns : again.contents.Returns schedule data)
    (own : again.isBus = true ∨
      again.networks.map Network.constantTerm = again.networkConstants ∨
      again.networkConstants = [] ∧ ∀ network ∈ again.networks, network.constantTerm = 0)
    (charged : schedule.Charged) (completable : schedule.Completable) :
    List.Forall₂ Alike (again.networks.map Network.constantTerm)
      (schedule.networks.map Network.constantTerm) := by
  have none (bus : again.isBus = true) : List.Forall₂ Alike
      (again.networks.map Network.constantTerm) (schedule.networks.map Network.constantTerm) := by
    have empty : schedule.networks = [] :=
      List.isEmpty_iff.mp ((isBus_of_returns returns).symm.trans bus)
    rw [List.isEmpty_iff.mp bus, empty]
    exact .nil
  have zeros (left : ∀ network ∈ again.networks, network.constantTerm = 0)
      (right : ∀ term ∈ schedule.networks.map Network.constantTerm, (term == 0) = true) :
      List.Forall₂ Alike (again.networks.map Network.constantTerm)
        (schedule.networks.map Network.constantTerm) := by
    refine List.forall₂_iff_zip.mpr ⟨?_, fun {first second} pair => ?_⟩
    · rw [List.length_map, List.length_map, length_networks returns]
    · obtain ⟨here, there⟩ := List.of_mem_zip pair
      obtain ⟨network, member, rfl⟩ := List.mem_map.mp here
      rw [left network member]
      exact .symm (.inl (right second there))
  rcases own with bus | own
  · exact none bus
  cases bus : again.isBus with
  | true => exact none bus
  | false =>
      have several := (isBus_of_returns returns).symm.trans bus
      have occupied : schedule.networks ≠ [] := fun empty => by
        rw [isBus, empty] at several
        cases several
      rcases returns.constants with ⟨written, close⟩ | ⟨unwritten, free⟩
      · have form := completable.constants written
        rw [several] at form
        have given := form.1
        rw [given]
        rcases own with same | ⟨empty, -⟩
        · rw [same]
          exact close
        · rw [show again.contents.constants = [] from empty, List.forall₂_nil_left_iff,
            ← given, List.map_eq_nil_iff] at close
          exact absurd close occupied
      · have left : ∀ network ∈ again.networks, network.constantTerm = 0 := by
          rcases own with same | ⟨-, zero⟩
          · rw [show again.networkConstants = [] from unwritten, List.map_eq_nil_iff] at same
            rw [isBus, same] at bus
            cases bus
          · exact zero
        refine zeros left fun term member => ?_
        rcases charged.terms with single | same | new
        · rw [several] at single
          cases single
        · exact free term (same ▸ member)
        · obtain ⟨network, listed, rfl⟩ := List.mem_map.mp member
          rw [new network listed]
          decide +kernel

/-- Terms that are left out add up to nothing. -/
theorem constants_alike (returns : again.contents.Returns schedule data) :
    Alike (Scalar.sum again.networkConstants) (Scalar.sum schedule.networkConstants) := by
  rcases returns.constants with ⟨-, close⟩ | ⟨unwritten, free⟩
  · exact alike_sum close
  · rw [show again.networkConstants = [] from unwritten]
    have nothing : Alike (Scalar.sum ([] : List Float)) 0 := alike_sum_zeros nofun
    exact nothing.trans (alike_sum_zeros free).symm

theorem plants_resemble (holds : Holds schedule.sheet.group again again.contents)
    (returns : again.contents.Returns schedule data) :
    List.Forall₂ Plant.Resembles again.plants schedule.plants := by
  have pairs := List.forall₂_map_right_iff.mp returns.plants
  refine List.Forall₂.flip (List.forall₂_iff_get.mpr ⟨pairs.length_eq, fun place here there => ?_⟩)
  obtain ⟨group, found, layouts⟩ := holds.plants place _ (List.getElem?_eq_getElem there)
  have written : schedule.sheet.group.member? (plantName place) =
      some (schedule.plants[place].sheet.group) :=
    Sheet.member? (Filed.mem_members (List.getElem?_eq_getElem here))
  cases written.symm.trans found
  exact ((List.forall₂_iff_get.mp pairs).2 place here there).resembles _ rfl rfl layouts

theorem alike_of_agrees {left right : Float} (agrees : Agrees left right) : Alike left right :=
  agrees.elim (fun same => same ▸ .refl left) .inl

theorem networks_resemble (first : again.Reachable) (second : schedule.Reachable)
    (shares : schedule.SharesLines data) (returns : again.contents.Returns schedule data)
    (terms : List.Forall₂ Alike (again.networks.map Network.constantTerm)
      (schedule.networks.map Network.constantTerm)) :
    List.Forall₂ Network.Resembles again.networks schedule.networks := by
  obtain ⟨topology, lines, shared⟩ := returns.topologies
  refine List.forall₂_iff_get.mpr ⟨length_networks returns, fun instant here there => ?_⟩
  have listed := List.getElem_mem here
  have member := List.getElem_mem there
  have found := List.getElem?_eq_getElem here
  have held := List.getElem?_eq_getElem there
  have footing : again.networks[instant].footing = topology := by
    have attached := congrArg (·[instant]?) shared
    simp only [contents, List.getElem?_map, found, Option.map_some,
      List.getElem?_replicate] at attached
    rw [if_pos there, Option.some.injEq] at attached
    rw [Network.footing, attached]
    rfl
  have ground : schedule.networks[instant].footing = data.topology := by
    rw [Network.footing, Network.topology?, shares.shared _ member]
    rfl
  obtain ⟨single, width⟩ := first.arises.network_shape listed
  obtain ⟨alone, extent⟩ := second.arises.network_shape member
  have nodes : again.nodes = schedule.nodes := returns.nodes
  have horizon : again.horizon = schedule.horizon := returns.horizon
  have charged := List.forall₂_map_left_iff.mp (List.forall₂_map_right_iff.mp terms)
  refine ⟨footing ▸ ground ▸ lines, single.trans alone.symm,
    fun interval interval_lt node node_lt => ?_, fun line _ => ?_, ?_⟩
  · obtain rfl : interval = 0 := by
      change interval < schedule.networks[instant].intervals at interval_lt
      omega
    have node_lt : node < schedule.nodes := extent ▸ node_lt
    have copy := first.arises.mirrored.demand instant _ found node (nodes ▸ node_lt)
      List.not_mem_nil
    have original := second.arises.mirrored.demand instant _ held node node_lt List.not_mem_nil
    have levels := returns.demand (node * schedule.horizon + instant)
    rw [Network.demandAt_eq, Network.demandAt_eq, Nat.zero_mul, Nat.zero_mul, Nat.zero_add]
    rw [demandAt, horizon] at copy
    exact (alike_of_agrees copy).trans (levels.trans (alike_of_agrees original).symm)
  · rw [Network.kappaAt, Network.kappaAt]
    have one : again.networks[instant].kappa = [] := first.arises.kappa_eq_nil listed
    have other : schedule.networks[instant].kappa = [] := second.arises.kappa_eq_nil member
    change Alike (again.networks[instant].kappa.getD line 1)
      (schedule.networks[instant].kappa.getD line 1)
    rw [one, other]
    exact .refl _
  · exact (List.forall₂_iff_get.mp charged).2 instant here there

/-- What is saved of a schedule whose arrays can be completed is read back as a schedule that
repeats it, whatever the schedule went through before anything was generated. -/
theorem ofGroup_write_of_composed (composed : schedule.Composed) (timed : 0 < schedule.horizon)
    (generated : ∀ plant ∈ schedule.plants, 0 < plant.generators)
    (some : schedule.isBus = false → schedule.plants ≠ []) (valid : schedule.validate = .ok ())
    (moderate : schedule.Moderate) (completable : schedule.Completable) (before : Nat) :
    ∃ again after, ofGroup (schedule.write Group.empty) before = (.ok again, after) ∧
      again.Repeats schedule := by
  obtain ⟨data, filable⟩ := composed.filable timed generated some valid moderate
  obtain ⟨contents, reads, returns⟩ := filable.contents_restored moderate completable
  obtain ⟨again, after, read, holds, -⟩ := (follows_ofGroup schedule.sheet.group).created _
    (Contents.ofGroup_eq_ok.mpr reads) before
  obtain rfl := holds.contents
  have reachable := composed.reachable
  have terms := terms_alike returns (terms_ofGroup read) reachable.arises.charged completable
  rw [filable.write_empty]
  exact ⟨again, after, read, {
    horizon := returns.horizon
    nodes := returns.nodes
    plants := plants_resemble holds returns
    networks :=
      networks_resemble (.start (.ofGroupWith read)) reachable filable.shares returns terms
    generatorNode := returns.generatorNode
    demand := returns.demand
    zonings := fun need => by
      cases need with
      | primary => exact returns.primary
      | secondary => exact returns.secondary
      | inertia => exact returns.inertia
    emissions := returns.emissions
    constants := constants_alike returns }⟩

/-- A bus with one plant and a term of its own. -/
def busGroup : Group where
  dims := [("NumberUnits", 1), ("TimeHorizon", 1)]
  fields := [
    ("ActivePowerDemand", ⟨["TimeHorizon"], .doubles [6]⟩),
    ("NetworkConstantTerms", ⟨["NumberNetworks"], .doubles [5]⟩)]
  groups := [("UnitBlock_0", {
    dims := [("TimeHorizon", 1)]
    fields := [
      ("LinearCost", ⟨[], .doubles [3]⟩),
      ("MaxPower", ⟨[], .doubles [10]⟩),
      ("MinPower", ⟨[], .doubles [0]⟩)]
    groups := [] })]

def busPlant : Plant Float :=
  { Plant.ofData ⟨1⟩ ⟨1, 1, [0], [10], [3], false, false, false, [], [], []⟩ with
    notifier := .own ⟨0⟩,
    layouts := Layouts.ofGroup ((busGroup.member? "UnitBlock_0").getD Group.empty) }

def bus : Schedule Float :=
  { ofHorizon ⟨0⟩ 1 with
    plants := [busPlant], demand := [6], networkConstants := [5],
    layouts := Layouts.ofGroup busGroup }

theorem ofGroup_busGroup : ofGroup busGroup 0 = (.ok bus, 2) := by
  rfl

/-- Other demand and another term. -/
def recharged (constants : List Float) : Schedule Float :=
  { bus with demand := [7], networkConstants := constants }

theorem setNetworkConstants_bus (constants : List Float) :
    setNetworkConstants constants (setDemand (.range 0 1) [7] .quiet .quiet bus).state =
      ⟨recharged constants, [], .ok ⟨⟩⟩ := by
  rfl

theorem composed_recharged (constants : List Float) : (recharged constants).Composed := by
  have composed : (setNetworkConstants constants
      (setDemand (.range 0 1) [7] .quiet .quiet bus).state).state.Composed :=
    Reached.step (Reached.step (.start (.ofGroup ofGroup_busGroup))
      (Operation.call (.setDemand (.range 0 1) [7] .quiet .quiet)) ⟨trivial, trivial⟩)
      (Operation.call (.setNetworkConstants constants)) ⟨trivial, trivial⟩
  rwa [setNetworkConstants_bus] at composed

theorem occupied_recharged (constants : List Float) :
    ∀ plant ∈ (recharged constants).plants, 0 < plant.generators := by
  intro plant member
  obtain rfl := List.mem_singleton.mp member
  decide

theorem moderate_recharged : (recharged [2]).Moderate where
  plants plant member := by
    obtain rfl := List.mem_singleton.mp member
    exact fun _ => by decide +kernel
  topologies _ member := absurd member List.not_mem_nil
  demand value member := by
    obtain rfl := List.mem_singleton.mp member
    exact fun _ => by decide +kernel
  zonings need _ member := by
    cases need <;> exact absurd member List.not_mem_nil
  emissions _ member := absurd member List.not_mem_nil
  constants value member := by
    obtain rfl := List.mem_singleton.mp member
    exact fun _ => by decide +kernel

theorem completable_recharged : (recharged [2]).Completable where
  demand _ := by
    exact .inl rfl
  zonings := by
    intro need some
    cases need <;> exact absurd rfl some
  emissions some := absurd rfl some
  constants _ := by
    have bus : (recharged [2]).isBus = true := rfl
    rw [if_pos bus]
    rfl

theorem ofGroup_write_of_composed_recharged : ∃ again after,
    ofGroup ((recharged [2]).write Group.empty) 2 = (.ok again, after) ∧
      again.Repeats (recharged [2]) :=
  ofGroup_write_of_composed (composed_recharged [2]) (by decide) (occupied_recharged [2])
    (fun _ => List.cons_ne_nil _ _) rfl moderate_recharged completable_recharged 2

/-- The bus was read with one term, two equal terms shrink to one when they are saved, and a bus
takes its terms as they are read. -/
theorem ofGroup_write_recharged : (recharged [2, 2]).Composed ∧
    (generateAll (recharged [2, 2])).result = .ok ⟨⟩ ∧ ¬(recharged [2, 2]).Completable ∧
    (recharged [2, 2]).ownConstant = 4 ∧
      (ofGroup ((recharged [2, 2]).write Group.empty) 2).1.map ownConstant = .ok 2 := by
  refine ⟨composed_recharged _, rfl, fun completable => ?_, rfl, by decide +kernel⟩
  have short := completable.constants rfl
  have bus : (recharged [2, 2]).isBus = true := rfl
  rw [if_pos bus] at short
  revert short
  decide +kernel

end Schedule

end Dispatch
