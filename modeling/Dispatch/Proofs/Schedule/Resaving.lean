import Dispatch.Proofs.Plant.Resaving
import Dispatch.Proofs.Schedule.Contents
import Dispatch.Proofs.Schedule.Zones

namespace Dispatch.Schedule

/-! Schedules that are read, written and read again. -/

variable {group saved : Group} {schedule : Schedule Float}

namespace Contents

variable {contents : Contents}

def fileNodes (group : Group) : Nat :=
  (group.dim? "NumberNodes").getD 1

/-- The nodes of a schedule: one of its own, or those of the network in its group. -/
inductive Placed (group : Group) (horizon nodes : Nat) (classname : String)
    (topologies : List (Option (Topology Float))) : Prop
  | bus (single : ¬1 < fileNodes group) (one : nodes = 1) (default : classname = DcData.classname)
      (bare : topologies = [])
  | lines (data : DcData Float) (several : 1 < fileNodes group)
      (read : DcData.ofGroup group = .ok data)
      (named : classnameOfGroup group = .ok DcData.classname)
      (hasGenerators : (group.field? "GeneratorNode").isSome)
      (count : nodes = data.nodes) (default : classname = DcData.classname)
      (shared : topologies = List.replicate horizon (some data.topology))

structure Reads (group : Group) (contents : Contents) : Prop where
  horizon : group.dim? "TimeHorizon" = some contents.horizon
  count : group.dim? "NumberUnits" = some contents.plants.length
  plants : ∀ place plant, contents.plants[place]? = some plant →
    ∃ member, group.member? (plantName place) = some member ∧
      plantOfGroup member = .ok plant ∧ plant.1.horizon = contents.horizon
  placed : Placed group contents.horizon contents.nodes contents.classname contents.topologies
  generatorNode : group.Lists "GeneratorNode" (.counts contents.generatorNode)
  demand : group.Gives "ActivePowerDemand" (settled (fileNodes group * contents.horizon))
    contents.demand
  primary : contents.primary.Reads group "Primary" contents.horizon
  secondary : contents.secondary.Reads group "Secondary" contents.horizon
  inertia : contents.inertia.Reads group "Inertia" contents.horizon
  emissions : Emissions.ofGroup group contents.horizon contents.generators = .ok contents.emissions
  constants : group.Gives "NetworkConstantTerms" (constantsFor contents.topologies)
    contents.constants

theorem withNetwork_placed {result : Contents} (bus : contents.nodes = 1)
    (default : contents.classname = DcData.classname) (bare : contents.topologies = [])
    (fresh : contents.demand = []) :
    contents.withNetwork group (fileNodes group) = .ok result ↔
      ∃ nodes classname topologies generatorNode,
        Placed group contents.horizon nodes classname topologies ∧
        group.Lists "GeneratorNode" (.counts generatorNode) ∧
        result = { contents with nodes, classname, topologies, generatorNode } := by
  rw [withNetwork_eq_ok]
  constructor
  · rintro (⟨single, given, read, rfl⟩ | ⟨several, data, generatorNode, named, read, given, rfl⟩)
    · exact ⟨_, _, _, _, .bus single bus default bare,
        Group.counts?_getD.mp ⟨given, read, rfl⟩, rfl⟩
    · have numerous : 1 < data.topology.nodes := ((DcData.ofGroup_eq_ok several).mp read).several
      obtain ⟨field, found, -⟩ := Group.counts?_eq_some.mp given
      refine ⟨_, _, _, _,
        .lines data several read named (Option.isSome_of_eq_some found) rfl rfl rfl,
        Group.counts?_getD.mp ⟨_, given, rfl⟩, ?_⟩
      rw [attach, if_pos numerous, ← fresh]
      rfl
  · rintro ⟨nodes, classname, topologies, generatorNode, placed, listed, rfl⟩
    obtain ⟨given, read, counts⟩ := Group.counts?_getD.mpr listed
    cases placed with
    | bus single one named bareAgain =>
        refine .inl ⟨single, given, read, ?_⟩
        rw [one, named, bareAgain, counts, ← bus, ← default, ← bare]
    | lines data several lines named hasGenerators count kind shared =>
        have numerous : 1 < data.topology.nodes :=
          ((DcData.ofGroup_eq_ok several).mp lines).several
        cases given with
        | none => simp [Group.counts?_eq_none.mp read] at hasGenerators
        | some given =>
            refine .inr ⟨several, data, given, named, lines, read, ?_⟩
            rw [attach, if_pos numerous, count, kind, shared, ← counts, ← fresh]
            rfl

theorem withDemand_eq_ok {result : Contents} {nodes : Nat} (fresh : contents.demand = []) :
    contents.withDemand group nodes = .ok result ↔ ∃ demand,
      group.Gives "ActivePowerDemand" (settled (nodes * contents.horizon)) demand ∧
        result = { contents with demand } := by
  have unset : { contents with demand := [] } = contents := by rw [← fresh]
  refine Group.gives_eq_ok (fun demand => { contents with demand }) unset fun given => ?_
  cases settled (nodes * contents.horizon) given <;> rfl

/-- Demand that is settled fills the extent, or it is all zeros and goes unsaid. -/
theorem settled_cases {extent : Nat} {given demand : List Float}
    (full : settled extent given = .ok demand) :
    broadcast given extent "ActivePowerDemand" = .ok demand ∧ demand ≠ [] ∧
        settled extent demand = .ok demand ∨
      demand = [] ∧ (given.length = extent ∨ given.length = 1) := by
  obtain ⟨values, filled, same⟩ := Except.bind_eq_ok.mp full
  cases same
  by_cases changes : values.any fun value => 0 != value
  · rw [if_pos changes]
    refine .inl ⟨filled, ?_, ?_⟩
    · rintro rfl
      cases changes
    rw [settled, broadcast_self (broadcast_ok filled)]
    exact congrArg Except.ok (if_pos changes)
  · refine .inr ⟨if_neg changes, ?_⟩
    unfold broadcast at filled
    split at filled
    · exact .inl ‹_›
    · split at filled
      · exact .inr rfl
      · cases filled

theorem settled_zeros {extent : Nat} {given : List Float} (zeros : ∀ value ∈ given, value = 0)
    (fits : given.length = extent ∨ given.length = 1) : settled extent given = .ok [] := by
  have full : broadcast given extent "ActivePowerDemand" = .ok (List.replicate extent 0) := by
    obtain same : given = List.replicate given.length 0 := List.eq_replicate_length.mpr zeros
    rw [same]
    rcases fits with whole | single
    · rw [whole, broadcast_self List.length_replicate]
    · rw [single, List.replicate_one, broadcast]
      split
      · rename_i one
        rw [← one]
        rfl
      · rfl
  rw [settled, full]
  refine congrArg Except.ok (if_neg ?_)
  rw [List.any_replicate]
  split <;> decide

theorem withConstants_eq_ok {result : Contents} (fresh : contents.constants = []) :
    contents.withConstants group = .ok result ↔ ∃ constants,
      group.Gives "NetworkConstantTerms" (constantsFor contents.topologies) constants ∧
        result = { contents with constants } := by
  have unset : { contents with constants := [] } = contents := by rw [← fresh]
  refine Group.gives_eq_ok (fun constants => { contents with constants }) unset fun given => ?_
  cases constantsFor contents.topologies given <;> rfl

theorem ofGroup_eq_ok : ofGroup group = .ok contents ↔ Reads group contents := by
  constructor
  · intro read
    obtain ⟨horizon, hasHorizon, read⟩ := Except.bind_eq_ok.mp read
    obtain ⟨count, hasCount, read⟩ := Except.bind_eq_ok.mp read
    obtain ⟨filled, added, read⟩ := Except.bind_eq_ok.mp read
    obtain ⟨located, network, read⟩ := Except.bind_eq_ok.mp read
    obtain ⟨supplied, supply, read⟩ := Except.bind_eq_ok.mp read
    obtain ⟨primary, hasPrimary, read⟩ := Except.bind_eq_ok.mp read
    obtain ⟨secondary, hasSecondary, read⟩ := Except.bind_eq_ok.mp read
    obtain ⟨inertia, hasInertia, read⟩ := Except.bind_eq_ok.mp read
    obtain ⟨emissions, hasEmissions, read⟩ := Except.bind_eq_ok.mp read
    obtain ⟨plants, rfl, listed, rfl⟩ := addPlants_eq_ok.mp added
    obtain ⟨nodes, classname, topologies, generatorNode, placed, hasGenerators, rfl⟩ :=
      (withNetwork_placed rfl rfl rfl rfl).mp network
    obtain ⟨demand, hasDemand, rfl⟩ := (withDemand_eq_ok rfl).mp supply
    obtain ⟨constants, hasConstants, rfl⟩ := (withConstants_eq_ok rfl).mp read
    exact {
      horizon := Group.dim_eq_ok.mp hasHorizon
      count := Group.dim_eq_ok.mp hasCount
      plants := by simpa [bus] using listed
      placed
      generatorNode := hasGenerators
      demand := hasDemand
      primary := Zoning.ofGroup_eq_ok.mp hasPrimary
      secondary := Zoning.ofGroup_eq_ok.mp hasSecondary
      inertia := Zoning.ofGroup_eq_ok.mp hasInertia
      emissions := hasEmissions
      constants := hasConstants }
  · intro reads
    refine Except.bind_eq_ok.mpr ⟨_, Group.dim_eq_ok.mpr reads.horizon, ?_⟩
    refine Except.bind_eq_ok.mpr ⟨_, Group.dim_eq_ok.mpr reads.count, ?_⟩
    refine Except.bind_eq_ok.mpr ⟨{ bus contents.horizon with plants := contents.plants },
      addPlants_eq_ok.mpr ⟨_, rfl, by simpa [bus] using reads.plants, rfl⟩, ?_⟩
    refine Except.bind_eq_ok.mpr ⟨_, (withNetwork_placed rfl rfl rfl rfl).mpr
      ⟨_, _, _, _, reads.placed, reads.generatorNode, rfl⟩, ?_⟩
    refine Except.bind_eq_ok.mpr ⟨_, (withDemand_eq_ok rfl).mpr ⟨_, reads.demand, rfl⟩, ?_⟩
    refine Except.bind_eq_ok.mpr ⟨_, Zoning.ofGroup_eq_ok.mpr reads.primary, ?_⟩
    refine Except.bind_eq_ok.mpr ⟨_, Zoning.ofGroup_eq_ok.mpr reads.secondary, ?_⟩
    refine Except.bind_eq_ok.mpr ⟨_, Zoning.ofGroup_eq_ok.mpr reads.inertia, ?_⟩
    refine Except.bind_eq_ok.mpr ⟨_, reads.emissions, ?_⟩
    exact (withConstants_eq_ok rfl).mpr ⟨_, reads.constants, rfl⟩

theorem completes_constantsFor (topologies : List (Option (Topology Float))) :
    IsCompletion (constantsFor topologies) := by
  unfold constantsFor
  split
  · intro given values same
    cases same
    exact ⟨⟨1, (stretch_one given).symm⟩, rfl⟩
  · exact .ofBroadcast _ _

end Contents

/-- The network that stands in the group of the schedule. -/
def lines? (schedule : Schedule Float) : Option (DcData Float) :=
  match (schedule.networks.head?.bind Network.descriptor).map Holding.value with
  | some (.dc data) => some data
  | _ => none

def classnameField (schedule : Schedule Float) : Option Field :=
  if schedule.classname ≠ DcData.classname ∨ schedule.layouts.hasField classnameName then
    some ⟨[], .texts [schedule.classname]⟩
  else none

def networkPage (schedule : Schedule Float) : Page :=
  match schedule.lines? with
  | some data => data.page ++ ⟨[], [(classnameName, schedule.classnameField)]⟩
  | none => {
      dims := [
        ("NumberNodes",
          if schedule.layouts.hasDim "NumberNodes" then some schedule.nodes else none)]
      fields := [] }

def demandField (schedule : Schedule Float) : Option Field :=
  let dims := if schedule.isBus then ["TimeHorizon"] else ["NumberNodes", "TimeHorizon"]
  if !schedule.demand.isEmpty || schedule.layouts.hasField "ActivePowerDemand" then
    some (schedule.layouts.fieldFor "ActivePowerDemand" dims schedule.allDemands)
  else none

def constantsField (schedule : Schedule Float) : Option Field :=
  if (schedule.networkConstants.any fun constant => constant != 0) ||
      schedule.layouts.hasField "NetworkConstantTerms" then
    some (schedule.layouts.fieldFor "NetworkConstantTerms" ["NumberNetworks"]
      schedule.networkConstants)
  else none

def countsPage (schedule : Schedule Float) : Page where
  dims := [
    ("TimeHorizon", some schedule.horizon),
    ("NumberUnits", some schedule.plants.length)]
  fields := []

def demandPage (schedule : Schedule Float) : Page where
  dims := []
  fields := [
    ("GeneratorNode",
      Group.plainField schedule.layouts "GeneratorNode" ["NumberElectricalGenerators"]
        (.counts schedule.generatorNode)),
    ("ActivePowerDemand", schedule.demandField)]

def constantsPage (schedule : Schedule Float) : Page where
  dims := []
  fields := [("NetworkConstantTerms", schedule.constantsField)]

/-- The parts of a schedule in the order that they are written in. -/
def page (schedule : Schedule Float) : Page :=
  schedule.countsPage ++ schedule.networkPage ++ schedule.demandPage ++
    schedule.primary.page "Primary" schedule.layouts ++
    schedule.secondary.page "Secondary" schedule.layouts ++
    schedule.inertia.page "Inertia" schedule.layouts ++
    schedule.emissions.page schedule.layouts ++ schedule.constantsPage

theorem plantName_injective : Function.Injective plantName := by
  intro first second same
  have digits : Nat.toDigits 10 first = Nat.toDigits 10 second := by
    rw [← Nat.toList_repr, ← Nat.toList_repr]
    exact congrArg String.toList (String.append_right_inj _ |>.mp same)
  rw [← @Nat.ofDigitChars_ten_toDigits first, digits, Nat.ofDigitChars_ten_toDigits]

def sheet (schedule : Schedule Float) : Sheet where
  toPage := schedule.page
  members := schedule.plants.zipIdx.map fun entry =>
    (plantName entry.2, some entry.1.sheet.group)
  distinctDims := by
    unfold page networkPage Emissions.page
    by_cases unpolluted : schedule.emissions.pollutants = 0 <;> cases schedule.lines? <;>
      simp [unpolluted, countsPage, demandPage, constantsPage, Zoning.page, Zoning.countName,
        DcData.page]
  distinctFields := by
    unfold page networkPage Emissions.page
    by_cases unpolluted : schedule.emissions.pollutants = 0 <;> cases schedule.lines? <;>
      simp [unpolluted, countsPage, demandPage, constantsPage, Zoning.page, DcData.page,
        classnameName]
  distinctMembers := by
    have names : (schedule.plants.zipIdx.map fun entry =>
        (plantName entry.2, some entry.1.sheet.group)).map Prod.fst =
        (List.range' 0 schedule.plants.length).map plantName := by
      rw [← List.zipIdx_map_snd, List.map_map, List.map_map]
      rfl
    rw [names]
    exact List.Nodup.map plantName_injective List.nodup_range'

theorem writeDemand_eq_fillIn (schedule : Schedule Float) (group : Group) :
    schedule.writeDemand
        (if schedule.generatorNode.isEmpty then group
        else
          group.putCounts "GeneratorNode"
            (schedule.layouts.dimsOr "GeneratorNode" ["NumberElectricalGenerators"])
            schedule.generatorNode) = schedule.demandPage.fillIn group := by
  rw [Group.ite_putCounts, writeDemand, Group.putDoubles_eq_fill, Group.ite_fill]
  rfl

/-- The networks stand on several nodes; a single node has a bus. -/
theorem writeNetwork_eq_fillIn
    (lined : ∀ holding, schedule.networks.head?.bind Network.descriptor = some holding →
      ∃ data, holding.value = .dc data ∧ 1 < data.nodes) (group : Group) :
    schedule.writeNetwork group = schedule.networkPage.fillIn group := by
  unfold Schedule.writeNetwork networkPage lines?
  cases head : schedule.networks.head?.bind Network.descriptor with
  | none =>
      rw [Option.map_none, Group.setDim_eq_fillDim]
      exact Group.ite_fillDim ..
  | some holding =>
      obtain ⟨data, same, several⟩ := lined holding head
      simp only [Option.map_some, same]
      rw [Page.fillIn_append, ← DcData.write_several several, Group.putTexts_eq_fill,
        Group.ite_fill]
      rfl

theorem writeConstants_eq_fillIn (schedule : Schedule Float) (group : Group) :
    schedule.writeConstants group = schedule.constantsPage.fillIn group := by
  rw [writeConstants, Group.putDoubles_eq_fill, Group.ite_fill]
  rfl

theorem writePlants_eq_fillAll (schedule : Schedule Float) (group : Group) :
    schedule.writePlants group =
      { group with groups := Sorted.fillAll group.groups schedule.sheet.members } := by
  simp only [writePlants, sheet, Sorted.fillAll, List.foldl_map, Sorted.fill,
    ← Plant.write_empty]
  induction schedule.plants.zipIdx generalizing group with
  | nil => cases group; rfl
  | cons entry rest induction => exact induction _

/-- A schedule is written on its sheet. -/
theorem write_eq_sheet
    (lined : ∀ holding, schedule.networks.head?.bind Network.descriptor = some holding →
      ∃ data, holding.value = .dc data ∧ 1 < data.nodes) :
    schedule.write Group.empty = schedule.sheet.group := by
  unfold Schedule.write
  dsimp only
  rw [writeNetwork_eq_fillIn lined, writeDemand_eq_fillIn, Zoning.write_eq_fillIn,
    Zoning.write_eq_fillIn, Zoning.write_eq_fillIn, Emissions.write_eq_fillIn,
    writeConstants_eq_fillIn, writePlants_eq_fillAll]
  have counts (group : Group) : (group.setDim "TimeHorizon" schedule.horizon).setDim "NumberUnits"
      schedule.plants.length = schedule.countsPage.fillIn group := rfl
  rw [counts]
  simp only [← Page.fillIn_append]
  rfl

structure Filed (group : Group) (schedule : Schedule Float) : Prop where
  reads : Contents.Reads group schedule.contents
  holds : Holds group schedule schedule.contents
  layouts : schedule.layouts = Layouts.ofGroup group
  lasting : 1 ≤ schedule.horizon

theorem filed_of_ofGroup {before after : Nat}
    (read : ofGroup group before = (.ok schedule, after)) (lasting : 1 ≤ schedule.horizon) :
    schedule.Filed group := by
  obtain ⟨contents, plain, holds, layouts⟩ := (follows_ofGroup group).eq_ok read
  obtain rfl := holds.contents
  exact ⟨Contents.ofGroup_eq_ok.mp plain, holds, layouts, lasting⟩

namespace Filed

theorem plant (filed : schedule.Filed group) {place : Nat} {plant : Plant Float}
    (listed : schedule.plants[place]? = some plant) :
    ∃ member, group.member? (plantName place) = some member ∧ plant.Filed member ∧
      plant.horizon = schedule.horizon := by
  obtain ⟨member, found, layouts⟩ := filed.holds.plants place plant listed
  have held : schedule.contents.plants[place]? = some (plant.data, plant.scale) := by
    rw [contents, List.getElem?_map, listed]
    rfl
  obtain ⟨other, there, read, horizon⟩ := filed.reads.plants place _ held
  obtain rfl := Option.some.inj (found.symm.trans there)
  obtain ⟨data, hasData, read⟩ := Except.bind_eq_ok.mp read
  obtain ⟨scale, hasScale, read⟩ := Except.bind_eq_ok.mp read
  cases read
  exact ⟨member, found, ⟨Plant.dataOfGroup_eq_ok.mp hasData, hasScale, layouts⟩, horizon⟩

theorem networks_eq_nil (bare : schedule.contents.topologies = []) : schedule.networks = [] :=
  List.map_eq_nil_iff.mp bare

theorem lines?_bus (bare : schedule.contents.topologies = []) : schedule.lines? = none := by
  rw [lines?, networks_eq_nil bare]
  rfl

/-- Every instant has the network that is read, and there is an instant. -/
theorem head?_networks (filed : schedule.Filed group) {data : DcData Float}
    (read : DcData.ofGroup group = .ok data) {topology : Topology Float}
    (shared : schedule.contents.topologies = List.replicate schedule.horizon (some topology)) :
    schedule.networks.head?.bind Network.descriptor = some (.shared (.dc data)) := by
  have length : schedule.networks.length = schedule.horizon := by
    rw [← List.length_map Network.topology?, show schedule.networks.map _ = _ from shared,
      List.length_replicate]
  cases networks : schedule.networks with
  | nil =>
      rw [networks, List.length_nil] at length
      exact absurd filed.lasting (length ▸ Nat.not_succ_le_zero 0)
  | cons first rest =>
      obtain ⟨other, same, holding⟩ :=
        filed.holds.networks first.descriptor (by rw [networks]; exact List.mem_cons_self)
      cases read.symm.trans same
      exact holding

theorem lines?_several (filed : schedule.Filed group) {data : DcData Float}
    (read : DcData.ofGroup group = .ok data) {topology : Topology Float}
    (shared : schedule.contents.topologies = List.replicate schedule.horizon (some topology)) :
    schedule.lines? = some data := by
  rw [lines?, filed.head?_networks read shared]
  rfl

theorem classname (filed : schedule.Filed group) : schedule.classname = DcData.classname := by
  cases filed.reads.placed with
  | bus single one default bare => exact default
  | lines data several read named hasGenerators count default shared => exact default

theorem write_empty (filed : schedule.Filed group) :
    schedule.write Group.empty = schedule.sheet.group := by
  refine write_eq_sheet fun holding held => ?_
  cases filed.reads.placed with
  | bus single one default bare =>
      rw [networks_eq_nil bare] at held
      cases held
  | lines data several read named hasGenerators count default shared =>
      cases (filed.head?_networks read shared).symm.trans held
      exact ⟨data, rfl, ((DcData.ofGroup_eq_ok several).mp read).several⟩

theorem networkPage_fits (filed : schedule.Filed group) : schedule.networkPage.Fits group := by
  unfold networkPage
  cases filed.reads.placed with
  | bus single one default bare =>
      rw [lines?_bus bare]
      constructor
      · simp [filed.layouts]
      · exact nofun
  | lines data several read named hasGenerators count default shared =>
      rw [filed.lines?_several read shared]
      refine ((DcData.ofGroup_eq_ok several).mp read).fits.append ⟨nofun, ?_⟩
      simp [classnameField, filed.classname, filed.layouts]

theorem demandPage_fits (filed : schedule.Filed group) : schedule.demandPage.Fits group := by
  refine ⟨nofun, ?_⟩
  simp only [demandPage, List.forall_mem_cons]
  refine ⟨filed.reads.generatorNode.isSome_of_plainField, fun written => ?_, nofun⟩
  by_contra absent
  rw [Option.not_isSome_iff_eq_none] at absent
  have none : schedule.demand = [] := filed.reads.demand.of_absent absent
  simp [demandField, filed.layouts, none, absent] at written

theorem constantsPage_fits (filed : schedule.Filed group) : schedule.constantsPage.Fits group := by
  refine ⟨nofun, ?_⟩
  simp only [constantsPage, List.forall_mem_cons]
  refine ⟨fun written => ?_, nofun⟩
  by_contra absent
  rw [Option.not_isSome_iff_eq_none] at absent
  have none : schedule.networkConstants = [] := filed.reads.constants.of_absent absent
  simp [constantsField, filed.layouts, none, absent] at written

theorem page_fits (filed : schedule.Filed group) : schedule.page.Fits group := by
  have reads := filed.reads
  have counts : schedule.countsPage.Fits group := by
    refine ⟨?_, nofun⟩
    simp only [countsPage, List.forall_mem_cons]
    refine ⟨fun _ => Option.isSome_of_eq_some reads.horizon,
      fun _ => Option.isSome_of_eq_some reads.count, nofun⟩
  unfold page
  rw [filed.layouts]
  exact ((((((counts.append filed.networkPage_fits).append filed.demandPage_fits).append
    (reads.primary.fits filed.lasting)).append (reads.secondary.fits filed.lasting)).append
    (reads.inertia.fits filed.lasting)).append (Emissions.fits_of_ofGroup reads.emissions)).append
    filed.constantsPage_fits

/-- The members have the names of their places. -/
theorem mem_members {place : Nat} {plant : Plant Float}
    (listed : schedule.plants[place]? = some plant) :
    (plantName place, some plant.sheet.group) ∈ schedule.sheet.members :=
  List.mem_map.mpr ⟨(plant, place), List.mk_mem_zipIdx_iff_getElem?.mpr listed, rfl⟩

theorem within (filed : schedule.Filed group) : schedule.sheet.group.Within group := by
  refine Sheet.within filed.page_fits fun part listed member given => ?_
  obtain ⟨⟨plant, place⟩, there, rfl⟩ := List.mem_map.mp listed
  cases given
  obtain ⟨kept, found, stands, -⟩ := filed.plant (List.mk_mem_zipIdx_iff_getElem?.mp there)
  exact ⟨kept, found, Sheet.within stands.fits nofun⟩

theorem stands (schedule : Schedule Float) :
    schedule.countsPage.Stands schedule.sheet.group ∧
      schedule.networkPage.Stands schedule.sheet.group ∧
      schedule.demandPage.Stands schedule.sheet.group ∧
      (schedule.primary.page "Primary" schedule.layouts).Stands schedule.sheet.group ∧
      (schedule.secondary.page "Secondary" schedule.layouts).Stands schedule.sheet.group ∧
      (schedule.inertia.page "Inertia" schedule.layouts).Stands schedule.sheet.group ∧
      (schedule.emissions.page schedule.layouts).Stands schedule.sheet.group ∧
      schedule.constantsPage.Stands schedule.sheet.group := by
  have stands : schedule.page.Stands schedule.sheet.group := schedule.sheet.stands
  simpa only [page, Page.stands_append, and_assoc] using stands

/-- The one dimension of a bus, or the network with its class. -/
theorem networkPage_bus (bare : schedule.contents.topologies = []) :
    schedule.networkPage = ⟨[("NumberNodes",
      if schedule.layouts.hasDim "NumberNodes" then some schedule.nodes else none)], []⟩ := by
  rw [networkPage, lines?_bus bare]

theorem networkPage_lines (filed : schedule.Filed group) {data : DcData Float}
    (read : DcData.ofGroup group = .ok data) {topology : Topology Float}
    (shared : schedule.contents.topologies = List.replicate schedule.horizon (some topology)) :
    schedule.networkPage = data.page ++ ⟨[], [(classnameName, schedule.classnameField)]⟩ := by
  rw [networkPage, filed.lines?_several read shared]

/-- The class of lines may go without saying. -/
theorem classname_again (default : schedule.classname = DcData.classname)
    (found : saved.field? classnameName = schedule.classnameField) :
    classnameOfGroup saved = .ok DcData.classname := by
  unfold classnameField at found
  rw [default] at found
  split at found
  · exact Except.bind_eq_ok.mpr ⟨_, Group.texts?_of_texts found, rfl⟩
  · exact Except.bind_eq_ok.mpr ⟨_, Group.texts?_eq_none.mpr found, rfl⟩

theorem fileNodes_again (filed : schedule.Filed group) :
    Contents.fileNodes schedule.sheet.group = schedule.nodes := by
  obtain ⟨-, network, -⟩ := stands schedule
  unfold Contents.fileNodes
  cases filed.reads.placed with
  | bus single one default bare =>
      rw [networkPage_bus bare] at network
      have nodes := network.dims
      simp only [List.forall_mem_cons] at nodes
      have one : schedule.nodes = 1 := one
      rw [nodes.1, one]
      split <;> rfl
  | lines data several read named hasGenerators count default shared =>
      rw [filed.networkPage_lines read shared, Page.stands_append] at network
      have nodes := network.1.dims
      simp only [DcData.page, List.forall_mem_cons] at nodes
      rw [nodes.1]
      exact count.symm

theorem placed_again (filed : schedule.Filed group)
    (generators : 1 < Contents.fileNodes group → schedule.generatorNode ≠ []) :
    Contents.Placed schedule.sheet.group schedule.horizon schedule.nodes schedule.classname
      schedule.contents.topologies := by
  have count := filed.fileNodes_again
  obtain ⟨-, network, demand, -⟩ := stands schedule
  cases filed.reads.placed with
  | bus single one default bare =>
      have one : schedule.nodes = 1 := one
      exact .bus (by rw [count, one]; exact Nat.lt_irrefl 1) one default bare
  | lines data several read named hasGenerators nodes default shared =>
      have reads := (DcData.ofGroup_eq_ok several).mp read
      have nodes : schedule.nodes = data.nodes := nodes
      rw [filed.networkPage_lines read shared, Page.stands_append] at network
      obtain ⟨lines, named⟩ := network
      have severalAgain : 1 < Contents.fileNodes schedule.sheet.group := by
        rw [count, nodes]
        exact reads.several
      have fields := named.fields
      simp only [List.forall_mem_cons] at fields
      have own := demand.fields
      simp only [demandPage, List.forall_mem_cons] at own
      refine .lines { data with layouts := Layouts.ofGroup schedule.sheet.group } severalAgain
        ((DcData.ofGroup_eq_ok severalAgain).mpr (reads.again lines))
        (classname_again filed.classname fields.1) ?_ nodes default shared
      rw [own.1, Group.plainField, if_pos]
      · rfl
      · exact fun none => generators several (List.eq_nil_of_length_eq_zero none)

/-- The nodes on file are those of the schedule, unless the group states that there are none. -/
theorem fileNodes_cases (filed : schedule.Filed group) :
    Contents.fileNodes group = schedule.nodes ∨ Contents.fileNodes group = 0 := by
  cases filed.reads.placed with
  | bus single one default bare =>
      have one : schedule.nodes = 1 := one
      omega
  | lines data several read named hasGenerators count default shared =>
      exact .inl (((DcData.ofGroup_eq_ok several).mp read).nodes.trans count.symm)

theorem allDemands_of_nil (none : schedule.demand = []) :
    schedule.allDemands = List.replicate schedule.extent 0 := by
  simp [allDemands, none]

theorem allDemands_of_length (whole : schedule.demand.length = schedule.extent) :
    schedule.allDemands = schedule.demand := by
  simp [allDemands, ← whole]

/-- A short form of zeros is read as no demand. -/
theorem settled_short (filed : schedule.Filed group) {given short : List Float}
    (fits : given.length = Contents.fileNodes group * schedule.horizon ∨ given.length = 1)
    (shortened : compact? (List.replicate schedule.extent (0 : Float)) given.length =
      some short) :
    Contents.settled schedule.extent short = .ok [] := by
  refine Contents.settled_zeros
    (fun value member => List.eq_of_mem_replicate (mem_of_compact? shortened member)) ?_
  rw [length_of_compact? shortened]
  rcases fits with full | single
  · rcases filed.fileNodes_cases with same | absent
    · exact .inl (full.trans (congrArg (· * schedule.horizon) same))
    · -- a form without values stands for no values
      rw [absent, Nat.zero_mul] at full
      refine .inl ?_
      rcases compact?_cases shortened with ⟨-, whole⟩ | ⟨length, -, whole, -⟩
      · rw [whole, List.length_replicate]
      · rw [List.length_replicate, full, Nat.zero_mul] at whole
        rw [full, whole]
  · exact .inr single

theorem demand_again (filed : schedule.Filed group) :
    schedule.sheet.group.Gives "ActivePowerDemand" (Contents.settled schedule.extent)
      schedule.demand := by
  obtain ⟨-, -, page, -⟩ := stands schedule
  have written := page.fields
  simp only [demandPage, demandField, List.forall_mem_cons] at written
  obtain ⟨-, written, -⟩ := written
  rw [filed.layouts] at written
  split at written
  · rename_i kept
    have present : (group.field? "ActivePowerDemand").isSome := by
      rw [Bool.or_eq_true, Layouts.hasField_ofGroup] at kept
      rcases kept with some | given
      · exact filed.reads.demand.isSome_field? (by simpa [contents] using some)
      · exact given
    obtain ⟨given, read, full⟩ := filed.reads.demand.of_present present
    rcases Contents.settled_cases full with ⟨filled, some, settled⟩ | ⟨none, fits⟩
    · have nodes : Contents.fileNodes group = schedule.nodes := by
        refine filed.fileNodes_cases.resolve_right fun zero => some ?_
        have length := broadcast_ok filled
        rw [zero, Nat.zero_mul] at length
        exact List.eq_nil_of_length_eq_zero length
      rw [nodes] at full filled settled
      rw [allDemands_of_length (broadcast_ok filled)] at written
      rcases Layouts.doubles?_stretched read written (broadcast_stretched filled) with again | again
      · exact .inr ⟨_, again, settled⟩
      · exact .inr ⟨_, again, full⟩
    · have none : schedule.demand = [] := none
      rw [allDemands_of_nil none] at written
      rw [none]
      rcases Layouts.doubles?_fieldFor read written fun short fits value member =>
          .inr (List.eq_of_mem_replicate (mem_of_compact? fits member)) with
        again | ⟨short, shortened, again⟩
      · exact .inr ⟨_, again, Contents.settled_zeros
          (fun _ => List.eq_of_mem_replicate) (.inl List.length_replicate)⟩
      · exact .inr ⟨_, again, filed.settled_short fits shortened⟩
  · rename_i left
    rw [Bool.or_eq_true, not_or] at left
    exact .inl ⟨written, by simpa using left.1⟩

theorem constants_again (filed : schedule.Filed group) :
    schedule.sheet.group.Gives "NetworkConstantTerms"
      (Contents.constantsFor schedule.contents.topologies) schedule.networkConstants := by
  obtain ⟨-, -, -, -, -, -, -, page⟩ := stands schedule
  have written := page.fields
  simp only [constantsPage, constantsField, List.forall_mem_cons] at written
  obtain ⟨written, -⟩ := written
  rw [filed.layouts] at written
  refine filed.reads.constants.again (Contents.completes_constantsFor _) written ?_ ?_
  · intro kept
    rw [Bool.or_eq_true, Layouts.hasField_ofGroup] at kept
    refine kept.elim (fun some => filed.reads.constants.isSome_field? ?_) fun given => given
    intro none
    have none : schedule.networkConstants = [] := none
    simp [none] at some
  · intro left
    rw [Bool.or_eq_true, not_or, Layouts.hasField_ofGroup, Option.not_isSome_iff_eq_none] at left
    exact filed.reads.constants.of_absent left.2

theorem reads_again (filed : schedule.Filed group)
    (generators : 1 < Contents.fileNodes group → schedule.generatorNode ≠ []) :
    Contents.Reads schedule.sheet.group schedule.contents := by
  have reads := filed.reads
  obtain ⟨counts, -, demand, primary, secondary, inertia, emissions, -⟩ := stands schedule
  have counted := counts.dims
  have placed := demand.fields
  simp only [countsPage, demandPage, List.forall_mem_cons] at counted placed
  rw [filed.layouts] at primary secondary inertia emissions
  exact {
    horizon := counted.1
    count := by simpa [contents] using counted.2.1
    plants := fun place entry listed => by
      rw [contents, List.getElem?_map] at listed
      obtain ⟨plant, there, rfl⟩ := Option.map_eq_some_iff.mp listed
      obtain ⟨_, -, stands, horizon⟩ := filed.plant there
      refine ⟨_, Sheet.member? (mem_members there), ?_, horizon⟩
      exact Except.bind_eq_ok.mpr ⟨_, Plant.dataOfGroup_eq_ok.mpr stands.reads_again,
        Except.bind_eq_ok.mpr ⟨_, stands.scale_again, rfl⟩⟩
    placed := filed.placed_again generators
    generatorNode := Group.lists_again placed.1
    demand := by
      rw [filed.fileNodes_again]
      exact filed.demand_again
    primary := reads.primary.again primary
    secondary := reads.secondary.again secondary
    inertia := reads.inertia.again inertia
    emissions := Emissions.ofGroup_again reads.emissions emissions
    constants := filed.constants_again }

/-- What is written is read as a schedule with the same contents. -/
theorem again (filed : schedule.Filed group)
    (generators : 1 < Contents.fileNodes group → schedule.generatorNode ≠ []) (before : Nat) :
    ∃ again after, ofGroup schedule.sheet.group before = (.ok again, after) ∧
      again.contents = schedule.contents ∧ again.Filed schedule.sheet.group := by
  obtain ⟨again, after, created, holds, -⟩ := (follows_ofGroup schedule.sheet.group).created _
    (Contents.ofGroup_eq_ok.mpr (filed.reads_again generators)) before
  have horizon : again.horizon = schedule.horizon := congrArg Contents.horizon holds.contents
  exact ⟨again, after, created, holds.contents,
    filed_of_ofGroup created (horizon ▸ filed.lasting)⟩

section

variable {again : Schedule Float}

theorem lines?_again (filed : schedule.Filed group) (refiled : again.Filed schedule.sheet.group)
    (same : again.contents = schedule.contents) {data : DcData Float}
    (several : 1 < Contents.fileNodes group) (read : DcData.ofGroup group = .ok data)
    {topology : Topology Float}
    (shared : schedule.contents.topologies = List.replicate schedule.horizon (some topology)) :
    again.lines? = some { data with layouts := Layouts.ofGroup schedule.sheet.group } := by
  have horizon : again.horizon = schedule.horizon := congrArg Contents.horizon same
  have reads := (DcData.ofGroup_eq_ok several).mp read
  obtain ⟨-, network, -⟩ := stands schedule
  rw [filed.networkPage_lines read shared, Page.stands_append] at network
  have nodes : 1 < Contents.fileNodes schedule.sheet.group :=
    lt_of_lt_of_eq reads.several (reads.again network.1).nodes.symm
  have sharedAgain : again.contents.topologies =
      List.replicate again.horizon (some topology) := by
    rw [same, shared, horizon]
  exact refiled.lines?_several ((DcData.ofGroup_eq_ok nodes).mpr (reads.again network.1))
    sharedAgain

theorem networkPage_again (filed : schedule.Filed group)
    (refiled : again.Filed schedule.sheet.group) (same : again.contents = schedule.contents) :
    again.networkPage = schedule.networkPage := by
  have nodes : again.nodes = schedule.nodes := congrArg Contents.nodes same
  have classname : again.classname = schedule.classname := congrArg Contents.classname same
  obtain ⟨-, network, -⟩ := stands schedule
  cases filed.reads.placed with
  | bus single one default bare =>
      rw [networkPage_bus bare] at network
      rw [networkPage_bus bare, networkPage_bus (same ▸ bare), refiled.layouts, nodes]
      have dims := network.dims
      simp only [List.forall_mem_cons] at dims
      rw [Layouts.hasDim_ofGroup, dims.1]
      congr 3
      split <;> simp_all
  | lines data several read named hasGenerators count default shared =>
      have lines := filed.lines?_again refiled same several read shared
      rw [filed.networkPage_lines read shared, Page.stands_append] at network
      obtain ⟨page, named⟩ := network
      have fields := named.fields
      simp only [List.forall_mem_cons] at fields
      have field : again.classnameField = schedule.classnameField := by
        unfold classnameField
        rw [refiled.layouts, Layouts.hasField_ofGroup, fields.1, classname, classnameField]
        split <;> simp_all
      rw [filed.networkPage_lines read shared, networkPage, lines, field]
      dsimp only
      rw [DcData.page_again page]

theorem demandPage_again (refiled : again.Filed schedule.sheet.group)
    (same : again.contents = schedule.contents) :
    again.demandPage = schedule.demandPage := by
  have generatorNode : again.generatorNode = schedule.generatorNode :=
    congrArg Contents.generatorNode same
  have demand : again.demand = schedule.demand := congrArg Contents.demand same
  have extent : again.extent = schedule.extent :=
    congrArg (fun contents => contents.nodes * contents.horizon) same
  have allDemands : again.allDemands = schedule.allDemands := by
    rw [Schedule.allDemands, demand, extent, Schedule.allDemands]
  have isBus : again.isBus = schedule.isBus := by
    have bare := congrArg (fun contents => contents.topologies.isEmpty) same
    simpa [contents, Schedule.isBus] using bare
  obtain ⟨-, -, page, -⟩ := stands schedule
  have fields := page.fields
  simp only [demandPage, List.forall_mem_cons] at fields
  obtain ⟨placed, written, -⟩ := fields
  have field : again.demandField = schedule.demandField := by
    unfold demandField at written ⊢
    rw [refiled.layouts, isBus, demand, allDemands]
    refine Group.fieldFor_again written ?_
    rw [Layouts.hasField_ofGroup, written]
    split <;> simp_all
  unfold demandPage
  rw [field, refiled.layouts, generatorNode, Group.plainField_again placed]

theorem constantsPage_again (refiled : again.Filed schedule.sheet.group)
    (same : again.contents = schedule.contents) :
    again.constantsPage = schedule.constantsPage := by
  have constants : again.networkConstants = schedule.networkConstants :=
    congrArg Contents.constants same
  obtain ⟨-, -, -, -, -, -, -, page⟩ := stands schedule
  have fields := page.fields
  simp only [constantsPage, List.forall_mem_cons] at fields
  obtain ⟨written, -⟩ := fields
  have field : again.constantsField = schedule.constantsField := by
    unfold constantsField at written ⊢
    rw [refiled.layouts, constants]
    refine Group.fieldFor_again written ?_
    rw [Layouts.hasField_ofGroup, written]
    split <;> simp_all
  unfold constantsPage
  rw [field]

theorem page_again (filed : schedule.Filed group) (refiled : again.Filed schedule.sheet.group)
    (same : again.contents = schedule.contents) : again.page = schedule.page := by
  obtain ⟨-, -, -, primary, secondary, inertia, emissions, -⟩ := stands schedule
  have horizon : again.horizon = schedule.horizon := congrArg Contents.horizon same
  have count : again.plants.length = schedule.plants.length := by
    simpa [contents] using congrArg (fun contents => contents.plants.length) same
  have needs : again.primary = schedule.primary ∧ again.secondary = schedule.secondary ∧
      again.inertia = schedule.inertia ∧ again.emissions = schedule.emissions :=
    ⟨congrArg Contents.primary same, congrArg Contents.secondary same,
      congrArg Contents.inertia same, congrArg Contents.emissions same⟩
  have counts : again.countsPage = schedule.countsPage := by
    rw [countsPage, horizon, count]
    rfl
  unfold page
  rw [counts, filed.networkPage_again refiled same, demandPage_again refiled same,
    constantsPage_again refiled same, needs.1, needs.2.1, needs.2.2.1, needs.2.2.2,
    refiled.layouts, Zoning.page_again primary, Zoning.page_again secondary,
    Zoning.page_again inertia, Emissions.page_again emissions]

theorem plant_again (filed : schedule.Filed group) (refiled : again.Filed schedule.sheet.group)
    {place : Nat} {plant other : Plant Float} (listed : schedule.plants[place]? = some plant)
    (there : again.plants[place]? = some other) (data : other.data = plant.data)
    (scale : other.scale = plant.scale) : other.sheet.group = plant.sheet.group := by
  obtain ⟨_, -, stands, -⟩ := filed.plant listed
  obtain ⟨member, found, restands, -⟩ := refiled.plant there
  obtain rfl : plant.sheet.group = member :=
    Option.some.inj ((Sheet.member? (mem_members listed)).symm.trans found)
  exact stands.write_again data scale restands.layouts

theorem members_again (filed : schedule.Filed group) (refiled : again.Filed schedule.sheet.group)
    (same : again.contents = schedule.contents) : again.sheet.members = schedule.sheet.members := by
  have held := congrArg Contents.plants same
  refine List.ext_getElem? fun place => ?_
  have placed := congrArg (·[place]?) held
  simp only [contents, List.getElem?_map] at placed
  simp only [sheet, List.getElem?_map, List.getElem?_zipIdx, Option.map_map]
  cases listed : schedule.plants[place]? with
  | none =>
      rw [listed] at placed
      rw [Option.map_eq_none_iff.mp placed]
  | some plant =>
      rw [listed] at placed
      obtain ⟨other, there, equal⟩ := Option.map_eq_some_iff.mp placed
      rw [there]
      have written := filed.plant_again refiled listed there (congrArg Prod.fst equal)
        (congrArg Prod.snd equal)
      simp [written]

theorem sheet_again (filed : schedule.Filed group) (refiled : again.Filed schedule.sheet.group)
    (same : again.contents = schedule.contents) : again.sheet.group = schedule.sheet.group :=
  Sheet.group_congr (filed.page_again refiled same) (filed.members_again refiled same)

end

end Filed

/-- Re-saving is a normalisation. A group with at least one instant, and with the nodes of
some generators if it has several nodes, is written back without anything that it lacks;
what is written is accepted, holds the same contents and is written once more as it is. -/
theorem resaved_of_ofGroup {before after : Nat}
    (read : ofGroup group before = (.ok schedule, after))
    (lasting : 1 ≤ (group.dim? "TimeHorizon").getD 0)
    (generators : 1 < (group.dim? "NumberNodes").getD 1 →
      group.counts? "GeneratorNode" ≠ .ok (some [])) :
    (schedule.write Group.empty).Within group ∧
      ∀ taken, ∃ again next, ofGroup (schedule.write Group.empty) taken = (.ok again, next) ∧
        again.contents = schedule.contents ∧
        again.write Group.empty = schedule.write Group.empty := by
  obtain ⟨contents, plain, holds, -⟩ := (follows_ofGroup group).eq_ok read
  have reads := Contents.ofGroup_eq_ok.mp plain
  have horizon : schedule.horizon = contents.horizon := congrArg Contents.horizon holds.contents
  have filed : schedule.Filed group := filed_of_ofGroup read (by
    rw [reads.horizon, Option.getD_some] at lasting
    rwa [horizon])
  have placed : 1 < Contents.fileNodes group → schedule.generatorNode ≠ [] := by
    intro several none
    cases filed.reads.placed with
    | bus single => exact single several
    | lines data _ _ _ hasGenerators =>
        rcases filed.reads.generatorNode with ⟨absent, -⟩ | listed
        · simp [absent] at hasGenerators
        · obtain ⟨field, found, content⟩ := Option.map_eq_some_iff.mp listed
          refine generators several (Group.counts?_eq_some.mpr ⟨field, found, ?_⟩)
          rw [content]
          exact congrArg Values.counts none
  rw [filed.write_empty]
  refine ⟨filed.within, fun taken => ?_⟩
  obtain ⟨again, next, created, same, refiled⟩ := filed.again placed taken
  refine ⟨again, next, created, same, ?_⟩
  rw [refiled.write_empty, filed.sheet_again refiled same]

/-- Two nodes on a line, with one demand for every node and instant, a plant whose limits are
given once, and an array that no part asks for. -/
def straitFile : Group where
  dims := [("NumberLines", 1), ("NumberNodes", 2), ("NumberUnits", 1), ("TimeHorizon", 2)]
  fields := [
    ("ActivePowerDemand", ⟨[], .counts [3]⟩),
    ("EndLine", ⟨["NumberLines"], .counts [1]⟩),
    ("GeneratorNode", ⟨["NumberElectricalGenerators"], .counts [0]⟩),
    ("MaxPowerFlow", ⟨[], .doubles [5]⟩),
    ("MinPowerFlow", ⟨["NumberLines"], .doubles [-5]⟩),
    ("Remark", ⟨[], .texts ["ferry"]⟩),
    ("StartLine", ⟨["NumberLines"], .counts [0]⟩)]
  groups := [
    ("UnitBlock_0", {
      dims := [("TimeHorizon", 2)]
      fields := [("MaxPower", ⟨[], .counts [9]⟩), ("MinPower", ⟨[], .doubles [0]⟩)]
      groups := [] })]

theorem resaved_of_ofGroup_strait :
    1 ≤ (straitFile.dim? "TimeHorizon").getD 0 ∧
      (1 < (straitFile.dim? "NumberNodes").getD 1 →
        straitFile.counts? "GeneratorNode" ≠ .ok (some [])) ∧
      ∃ schedule after, ofGroup straitFile 0 = (.ok schedule, after) ∧
        (schedule.write Group.empty).Within straitFile ∧
        ∃ again next, ofGroup (schedule.write Group.empty) after = (.ok again, next) ∧
          again.contents = schedule.contents ∧
          again.write Group.empty = schedule.write Group.empty := by
  have lasting : 1 ≤ (straitFile.dim? "TimeHorizon").getD 0 := by decide
  have generators : straitFile.counts? "GeneratorNode" = .ok (some [0]) := rfl
  have placed : straitFile.counts? "GeneratorNode" ≠ .ok (some []) := by
    rw [generators]
    exact nofun
  refine ⟨lasting, fun _ => placed, ?_⟩
  have accepted : (ofGroup straitFile 0).1.isOk = true := by decide +kernel
  rcases read : ofGroup straitFile 0 with ⟨_ | schedule, after⟩
  · rw [read] at accepted
    cases accepted
  · obtain ⟨within, resaved⟩ := resaved_of_ofGroup read lasting fun _ => placed
    exact ⟨schedule, after, rfl, within, resaved after⟩

end Dispatch.Schedule
