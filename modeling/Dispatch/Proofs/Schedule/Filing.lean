import Dispatch.Proofs.Network.Filing
import Dispatch.Proofs.Plant.Reloading
import Dispatch.Proofs.Schedule.Resaving

namespace Dispatch

/-! Schedules on file, however they came to their data. What is written of each part is read back
as a part that resembles it, as long as its arrays are written in forms that a reader can
complete. -/

namespace Zoning

variable {saved : Group} {label : String} {horizon : Nat} {zoning : Zoning Float}
  {layouts : Layouts}

structure Resembles (first second : Zoning Float) : Prop where
  count : first.count = second.count
  zones : first.zones = second.zones
  demand : List.Forall₂ Alike first.demand second.demand

theorem restored
    (shaped : zoning.demand = [] ∨ zoning.demand.length = zoning.count * horizon)
    (moderate : ∀ value ∈ zoning.demand, IsModerate value)
    (fits : zoning.demand ≠ [] →
      layouts.Fits (label ++ "Demand") zoning.demand (zoning.count * horizon))
    (stands : (zoning.page label layouts).Stands saved) :
    ∃ again, Reads saved label horizon again ∧ again.Resembles zoning := by
  have dims := stands.dims
  have fields := stands.fields
  simp only [page, List.forall_mem_cons] at dims fields
  obtain ⟨counted, -⟩ := dims
  obtain ⟨zoned, given, -⟩ := fields
  -- a count that is left out is the one that the demand implies
  have count : (saved.dim? (countName label)).getD (implied zoning.demand) = zoning.count := by
    rw [counted]
    split
    · rfl
    · rename_i unsaid
      exact (not_not.mp (not_or.mp unsaid).1).symm
  have zones := Group.lists_again zoned
  by_cases empty : zoning.demand = []
  · rw [empty] at given
    refine ⟨zoning, .of_gives (.inl ⟨given, empty⟩) count (fun _ => ?_) zones,
      rfl, rfl, forall₂_alike_refl _⟩
    exact given
  · have full := shaped.resolve_left empty
    rw [Group.givenField, if_pos (by simpa using empty)] at given
    obtain ⟨values, demand, read, filled, close⟩ := (fits empty).restored full moderate given
    have present : demand ≠ [] := fun none => by
      rw [none] at close
      exact empty (List.forall₂_nil_left_iff.mp close)
    have some : values ≠ [] := fun none => by
      rcases broadcast_form filled with single | whole
      · rw [none] at single
        cases single
      · rw [none, ← full] at whole
        exact empty (List.eq_nil_of_length_eq_zero whole.symm)
    refine ⟨{ zoning with demand }, .of_gives (.inr ⟨values, read, ?_⟩) ?_
      (fun none => absurd none present) zones, rfl, rfl, close⟩
    · rw [completed, unlessEmpty, if_neg (by simpa using some)]
      exact filled
    · rw [← count]
      simp [implied, present, empty]

end Zoning

namespace Emissions

variable {saved : Group} {horizon generators : Nat} {emissions : Emissions Float}
  {layouts : Layouts}

/-- Without pollutants there is nothing to tell apart. -/
structure Resembles (first second : Emissions Float) : Prop where
  zoneCounts : first.zoneCounts = second.zoneCounts
  zones : second.pollutants ≠ 0 → first.zones = second.zones
  budget : second.pollutants ≠ 0 → List.Forall₂ Alike first.budget second.budget
  rates : second.pollutants ≠ 0 → List.Forall₂ Alike first.rates second.rates

/-- Zone counts that are left out are ones. -/
theorem zoneCounts_read
    (filed : saved.field? "NumberPollutantZones" = emissions.zoneCountsField layouts) :
    ∃ given, saved.counts? "NumberPollutantZones" = .ok given ∧
      given.getD (List.replicate emissions.pollutants 1) = emissions.zoneCounts := by
  unfold zoneCountsField at filed
  split at filed
  · exact ⟨_, Group.counts?_of_counts filed, rfl⟩
  · rename_i unsaid
    simp only [Bool.or_eq_true, not_or, List.any_eq_true, bne_iff_ne, not_exists, not_and,
      not_not] at unsaid
    exact ⟨.none, Group.counts?_eq_none.mpr filed,
      (List.eq_replicate_iff.mpr ⟨rfl, unsaid.1⟩).symm⟩

theorem restored
    (shaped : emissions.pollutants ≠ 0 → emissions.budget.length = emissions.totalZones ∧
      emissions.rates.length = horizon * emissions.pollutants * generators)
    (moderate : ∀ value ∈ emissions.budget ++ emissions.rates, IsModerate value)
    (fits : emissions.pollutants ≠ 0 →
      layouts.Fits "PollutantBudget" emissions.budget emissions.totalZones ∧
        layouts.Fits "PollutantRho" emissions.rates
          (horizon * emissions.pollutants * generators))
    (stands : (emissions.page layouts).Stands saved) :
    ∃ again, ofGroup saved horizon generators = .ok again ∧ again.Resembles emissions := by
  rw [List.forall_mem_append] at moderate
  by_cases polluted : emissions.pollutants = 0
  · rw [page, if_pos polluted] at stands
    have dims := stands.dims
    simp only [List.forall_mem_cons] at dims
    refine ⟨none, ofGroup_eq_ok.mpr (.inl ⟨?_, rfl⟩), ?_, fun some => absurd polluted some,
      fun some => absurd polluted some, fun some => absurd polluted some⟩
    · rw [dims.1]
      split <;> rfl
    · exact (List.eq_nil_of_length_eq_zero polluted).symm
  · rw [page, if_neg polluted] at stands
    have dims := stands.dims
    have fields := stands.fields
    simp only [List.forall_mem_cons] at dims fields
    obtain ⟨counted, -⟩ := dims
    obtain ⟨zoneCounts, zones, budgetFiled, ratesFiled, -⟩ := fields
    obtain ⟨budgetFull, ratesFull⟩ := shaped polluted
    obtain ⟨budgetFits, ratesFits⟩ := fits polluted
    obtain ⟨_, budget, readBudget, filledBudget, closeBudget⟩ :=
      budgetFits.restored budgetFull moderate.1 budgetFiled
    obtain ⟨_, rates, readRates, filledRates, closeRates⟩ :=
      ratesFits.restored ratesFull moderate.2 ratesFiled
    refine ⟨{ emissions with budget, rates }, ofGroup_eq_ok.mpr (.inr ?_), rfl, fun _ => rfl,
      fun _ => closeBudget, fun _ => closeRates⟩
    exact {
      pollutants := counted
      positive := polluted
      zoneCounts := zoneCounts_read zoneCounts
      zones := Group.lists_again zones
      hasBudget := Option.isSome_of_eq_some budgetFiled
      hasRates := Option.isSome_of_eq_some ratesFiled
      budget := .inr ⟨_, readBudget, filledBudget⟩
      rates := .inr ⟨_, readRates, filledRates⟩ }

end Emissions

/-- What is read of the group of a plant. -/
structure Plant.Returns (plant : Plant Float) (read : PlantData Float × Float) : Prop where
  data : Reads plant.sheet.group read.1
  scale : scaleOfGroup plant.sheet.group = .ok read.2
  resembles : ∀ again : Plant Float, again.data = read.1 → again.scale = read.2 →
    again.layouts = Layouts.ofGroup plant.sheet.group → again.Resembles plant

theorem Plant.Filable.returns {plant : Plant Float} (filable : plant.Filable) :
    ∃ read, plant.Returns read := by
  obtain ⟨data, scale, reads, scaled, restored⟩ := filable.restored
  exact ⟨(data, scale), reads, scaled, fun again same kept layouts =>
    (restored again same kept layouts).1.resembles⟩

theorem Plant.Returns.shape {plant : Plant Float} {read : PlantData Float × Float}
    (returns : plant.Returns read) :
    read.1.horizon = plant.horizon ∧ read.1.generators = plant.generators := by
  let again : Plant Float := { ofData ⟨0⟩ read.1 with
    scale := read.2, layouts := Layouts.ofGroup plant.sheet.group }
  have resembles : again.Resembles plant := returns.resembles again rfl rfl rfl
  exact ⟨resembles.horizon, resembles.generators⟩

theorem exists_forall₂ {α β : Type} {related : α → β → Prop} {items : List α}
    (each : ∀ item ∈ items, ∃ image, related item image) :
    ∃ images, List.Forall₂ related items images := by
  induction items with
  | nil => exact ⟨[], .nil⟩
  | cons item rest induction =>
      obtain ⟨image, here⟩ := each item List.mem_cons_self
      obtain ⟨images, there⟩ := induction fun other member =>
        each other (List.mem_cons_of_mem item member)
      exact ⟨image :: images, .cons here there⟩

namespace Schedule

variable {saved : Group} {schedule : Schedule Float} {data : DcData Float}

/-- Equal entry by entry, up to the sign of a zero, where what is missing is zero. -/
def SameLevels (left right : List Float) : Prop :=
  ∀ entry, Alike (left.getD entry 0) (right.getD entry 0)

theorem SameLevels.trans {first second third : List Float} (early : SameLevels first second)
    (late : SameLevels second third) : SameLevels first third :=
  fun entry => (early entry).trans (late entry)

theorem sameLevels_of_alike {left right : List Float} (close : List.Forall₂ Alike left right) :
    SameLevels left right :=
  fun entry => alike_getD close entry 0

theorem sameLevels_zeros {values : List Float} (zeros : ∀ value ∈ values, (value == 0) = true) :
    SameLevels [] values := by
  intro entry
  rw [List.getD_nil, List.getD_eq_getElem?_getD]
  cases found : values[entry]? with
  | none => exact .refl 0
  | some value => exact .symm (.inl (zeros value (List.mem_of_getElem? found)))

/-- All networks share one topology, which has the nodes of the schedule. -/
structure SharesLines (data : DcData Float) (schedule : Schedule Float) : Prop where
  classname : schedule.classname = DcData.classname
  nodes : schedule.nodes = data.nodes
  shared : ∀ network ∈ schedule.networks, network.descriptor = some (.shared (.dc data))

/-- What the checks before the constraints ensure of a schedule whose members can be saved. -/
structure Filable (data : DcData Float) (schedule : Schedule Float) : Prop where
  timed : 0 < schedule.horizon
  shares : schedule.SharesLines data
  lines : data.Filable
  several : schedule.isBus = false → 1 < data.nodes
  occupied : schedule.isBus = false → schedule.generatorNode ≠ []
  plants : ∀ plant ∈ schedule.plants, plant.Filable
  stocked : schedule.Stocked
  valid : schedule.validate = .ok ()

structure Moderate (schedule : Schedule Float) : Prop where
  plants : ∀ plant ∈ schedule.plants, IsModerate plant.scale
  topologies : ∀ network ∈ schedule.networks, network.footing.Moderate
  demand : ∀ value ∈ schedule.demand, IsModerate value
  zonings : ∀ need, ∀ value ∈ (schedule.zoning need).demand, IsModerate value
  emissions : ∀ value ∈ schedule.emissions.budget ++ schedule.emissions.rates, IsModerate value
  constants : ∀ value ∈ schedule.networkConstants, IsModerate value

/-- Every array is written in a form that a reader can complete. A bus does not complete its
constants, and networks get theirs from the schedule. -/
structure Completable (schedule : Schedule Float) : Prop where
  demand : schedule.demandField.isSome →
    schedule.layouts.Fits "ActivePowerDemand" schedule.allDemands schedule.extent
  zonings : ∀ need, (schedule.zoning need).demand ≠ [] →
    schedule.layouts.Fits (need.label ++ "Demand") (schedule.zoning need).demand
      ((schedule.zoning need).count * schedule.horizon)
  emissions : schedule.emissions.pollutants ≠ 0 →
    schedule.layouts.Fits "PollutantBudget" schedule.emissions.budget
        schedule.emissions.totalZones ∧
      schedule.layouts.Fits "PollutantRho" schedule.emissions.rates
        (schedule.horizon * schedule.emissions.pollutants * schedule.generators)
  constants : schedule.constantsField.isSome →
    if schedule.isBus then
      (schedule.layouts.shortened "NetworkConstantTerms" schedule.networkConstants).length =
        schedule.networkConstants.length
    else
      schedule.networks.map Network.constantTerm = schedule.networkConstants ∧
        schedule.layouts.Fits "NetworkConstantTerms" schedule.networkConstants
          schedule.networks.length

/-- The contents of a schedule that resembles another one, before they are given numbers. -/
structure Contents.Returns (schedule : Schedule Float) (data : DcData Float)
    (contents : Contents) : Prop where
  horizon : contents.horizon = schedule.horizon
  nodes : contents.nodes = schedule.nodes
  classname : contents.classname = schedule.classname
  generatorNode : contents.generatorNode = schedule.generatorNode
  plants : List.Forall₂ Plant.Returns schedule.plants contents.plants
  topologies : ∃ topology : Topology Float, topology.Resembles data.topology ∧
    contents.topologies = List.replicate schedule.networks.length (some topology)
  demand : SameLevels contents.demand schedule.demand
  primary : contents.primary.Resembles schedule.primary
  secondary : contents.secondary.Resembles schedule.secondary
  inertia : contents.inertia.Resembles schedule.inertia
  emissions : contents.emissions.Resembles schedule.emissions
  constants : schedule.constantsField.isSome ∧
      List.Forall₂ Alike contents.constants schedule.networkConstants ∨
    contents.constants = [] ∧ ∀ constant ∈ schedule.networkConstants, (constant == 0) = true

theorem length_allDemands (schedule : Schedule Float) :
    schedule.allDemands.length = schedule.extent := by
  simp only [allDemands, List.length_take, List.length_append, List.length_replicate]
  omega

theorem Stocked.sameLevels_allDemands (stocked : schedule.Stocked) :
    SameLevels schedule.allDemands schedule.demand := by
  rcases stocked.demand with none | whole
  · intro entry
    rw [Filed.allDemands_of_nil none, none, List.getD_nil, List.getD_eq_getElem?_getD,
      List.getElem?_replicate]
    split <;> exact .refl 0
  · rw [Filed.allDemands_of_length whole]
    exact sameLevels_of_alike (forall₂_alike_refl _)

theorem Moderate.allDemands (moderate : schedule.Moderate) :
    ∀ value ∈ schedule.allDemands, IsModerate value := by
  intro value member
  rcases List.mem_append.mp (List.mem_of_mem_take member) with given | filler
  · exact moderate.demand value given
  · rw [List.eq_of_mem_replicate filler]
    exact fun _ => by decide +kernel

theorem Stocked.demand_restored (stocked : schedule.Stocked) (moderate : schedule.Moderate)
    (completable : schedule.Completable)
    (filed : saved.field? "ActivePowerDemand" = schedule.demandField) :
    ∃ demand, saved.Gives "ActivePowerDemand" (Contents.settled schedule.extent) demand ∧
      SameLevels demand schedule.demand := by
  by_cases written : !schedule.demand.isEmpty || schedule.layouts.hasField "ActivePowerDemand"
  · have field : schedule.demandField = some _ := if_pos written
    have form := completable.demand (Option.isSome_of_eq_some field)
    obtain ⟨given, restored, read, filled, close⟩ :=
      form.restored schedule.length_allDemands moderate.allDemands (filed.trans field)
    have levels := (sameLevels_of_alike close).trans stocked.sameLevels_allDemands
    have settled : Contents.settled schedule.extent given =
        .ok (if restored.any fun value => 0 != value then restored else []) := by
      rw [Contents.settled, filled]
      rfl
    refine ⟨_, .inr ⟨given, read, settled⟩, ?_⟩
    split
    · exact levels
    · rename_i still
      refine .trans (sameLevels_zeros fun value member => ?_) levels
      by_contra moved
      exact still (List.any_eq_true.mpr ⟨value, member, by
        simpa [bne, Float.beq_comm] using moved⟩)
  · have absent : schedule.demandField = none := if_neg written
    rw [Bool.or_eq_true, not_or] at written
    have none : schedule.demand = [] := by simpa using written.1
    exact ⟨[], .inl ⟨filed.trans absent, rfl⟩, none ▸ sameLevels_of_alike (forall₂_alike_refl _)⟩

theorem Moderate.constants_restored (moderate : schedule.Moderate)
    (completable : schedule.Completable)
    (filed : saved.field? "NetworkConstantTerms" = schedule.constantsField)
    {topologies : List (Option (Topology Float))}
    (count : topologies.length = schedule.networks.length) :
    ∃ constants, saved.Gives "NetworkConstantTerms" (Contents.constantsFor topologies) constants ∧
      (schedule.constantsField.isSome ∧ List.Forall₂ Alike constants schedule.networkConstants ∨
        constants = [] ∧ ∀ constant ∈ schedule.networkConstants, (constant == 0) = true) := by
  have form := completable.constants
  unfold constantsField at filed form ⊢
  split at filed
  · rename_i written
    rw [if_pos written] at form ⊢
    have form := form rfl
    have bare : topologies.isEmpty = schedule.isBus := by
      rw [isBus, Bool.eq_iff_iff, List.isEmpty_iff_length_eq_zero, count,
        List.isEmpty_iff_length_eq_zero]
    by_cases bus : schedule.isBus = true
    · rw [if_pos bus] at form
      obtain ⟨given, read, close⟩ := Layouts.restored_whole form moderate.constants filed
      refine ⟨given, .inr ⟨given, read, ?_⟩, .inl ⟨rfl, close⟩⟩
      rw [Contents.constantsFor, bare, if_pos bus]
    · rw [if_neg bus] at form
      have full : schedule.networkConstants.length = schedule.networks.length := by
        rw [← form.1, List.length_map]
      obtain ⟨given, constants, read, filled, close⟩ :=
        form.2.restored full moderate.constants filed
      refine ⟨constants, .inr ⟨given, read, ?_⟩, .inl ⟨rfl, close⟩⟩
      rw [Contents.constantsFor, bare, if_neg bus, count]
      exact filled
  · rename_i left
    rw [Bool.or_eq_true, not_or] at left
    refine ⟨[], .inl ⟨filed, rfl⟩, .inr ⟨rfl, fun constant member => ?_⟩⟩
    by_contra some
    exact left.1 (List.any_eq_true.mpr ⟨constant, member, by simpa [bne] using some⟩)

namespace Filable

theorem nodes_of_isBus (filable : schedule.Filable data) (bus : schedule.isBus = true) :
    schedule.nodes = 1 := by
  have few := (filable.stocked.single bus).resolve_right filable.timed.ne'
  have some := (DcData.validate_eq_ok.mp filable.lines.valid).1
  have nodes := filable.shares.nodes
  omega

theorem head?_networks (filable : schedule.Filable data) (several : schedule.isBus = false) :
    ∃ network ∈ schedule.networks,
      schedule.networks.head?.bind Network.descriptor = some (.shared (.dc data)) ∧
        network.footing = data.topology := by
  cases networks : schedule.networks with
  | nil =>
      rw [isBus, networks] at several
      cases several
  | cons first rest =>
      have member : first ∈ schedule.networks := by
        rw [networks]
        exact List.mem_cons_self
      have held := filable.shares.shared first member
      refine ⟨first, List.mem_cons_self, held, ?_⟩
      rw [Network.footing, Network.topology?, held]
      rfl

theorem write_empty (filable : schedule.Filable data) :
    schedule.write Group.empty = schedule.sheet.group := by
  refine write_eq_sheet fun holding held => ?_
  cases bus : schedule.isBus with
  | true =>
      rw [List.isEmpty_iff.mp bus] at held
      cases held
  | false =>
      obtain ⟨_, -, head, -⟩ := filable.head?_networks bus
      cases head.symm.trans held
      exact ⟨data, rfl, filable.several bus⟩

theorem placed_restored (filable : schedule.Filable data) (moderate : schedule.Moderate)
    (network : schedule.networkPage.Stands saved) (demand : schedule.demandPage.Stands saved) :
    ∃ topologies, Contents.Placed saved schedule.horizon schedule.nodes schedule.classname
        topologies ∧ Contents.fileNodes saved = schedule.nodes ∧
      ∃ topology : Topology Float, topology.Resembles data.topology ∧
        topologies = List.replicate schedule.networks.length (some topology) := by
  cases bus : schedule.isBus with
  | true =>
      have bare := List.isEmpty_iff.mp bus
      have one := filable.nodes_of_isBus bus
      rw [Filed.networkPage_bus (by rw [contents, bare]; rfl)] at network
      have dims := network.dims
      simp only [List.forall_mem_cons] at dims
      have nodes : Contents.fileNodes saved = 1 := by
        rw [Contents.fileNodes, dims.1, one]
        split <;> rfl
      refine ⟨[], .bus (by omega) one filable.shares.classname rfl, nodes.trans one.symm,
        data.topology, ?_, by rw [bare]; rfl⟩
      exact .refl _
  | false =>
      obtain ⟨first, member, head, footing⟩ := filable.head?_networks bus
      have several := filable.several bus
      have lines : schedule.lines? = some data := by
        rw [lines?, head]
        rfl
      rw [networkPage, lines, Page.stands_append] at network
      obtain ⟨page, named⟩ := network
      have fields := named.fields
      have own := demand.fields
      have dims := page.dims
      simp only [demandPage, DcData.page, List.forall_mem_cons] at fields own dims
      have nodes : Contents.fileNodes saved = schedule.nodes := by
        rw [Contents.fileNodes, dims.1]
        exact filable.shares.nodes.symm
      obtain ⟨again, read, resembles⟩ :=
        filable.lines.restored_several several (footing ▸ moderate.topologies first member) page
      refine ⟨_, .lines again ?_ read
        (Filed.classname_again filable.shares.classname fields.1) ?_ ?_
        filable.shares.classname rfl, nodes, again.topology, resembles, ?_⟩
      · rw [nodes, filable.shares.nodes]
        exact several
      · rw [own.1, Group.plainField, if_pos]
        · rfl
        · exact fun none => filable.occupied bus (List.eq_nil_of_length_eq_zero none)
      · exact filable.shares.nodes.trans resembles.nodes.symm
      · rw [filable.stocked.count bus]

theorem zoning_restored (filable : schedule.Filable data) (moderate : schedule.Moderate)
    (completable : schedule.Completable) (need : Need)
    (stands : ((schedule.zoning need).page need.label schedule.layouts).Stands saved) :
    ∃ again : Zoning Float, again.Reads saved need.label schedule.horizon ∧
      again.Resembles (schedule.zoning need) :=
  Zoning.restored (zoning_of_valid filable.valid need).2 (moderate.zonings need)
    (completable.zonings need) stands

theorem emissions_restored (filable : schedule.Filable data) (moderate : schedule.Moderate)
    (completable : schedule.Completable)
    (stands : (schedule.emissions.page schedule.layouts).Stands saved) :
    ∃ again : Emissions Float,
      Emissions.ofGroup saved schedule.horizon schedule.generators = .ok again ∧
        again.Resembles schedule.emissions :=
  Emissions.restored
    (fun some => (emissions_of_valid filable.valid (Nat.pos_of_ne_zero some)).2)
    moderate.emissions completable.emissions stands

/-- The group of each plant is found at its place, and gives the data that came back of it. -/
theorem plant_restored (filable : schedule.Filable data)
    {plants : List (PlantData Float × Float)}
    (returns : List.Forall₂ Plant.Returns schedule.plants plants) {place : Nat}
    {read : PlantData Float × Float} (listed : plants[place]? = some read) :
    ∃ member, schedule.sheet.group.member? (plantName place) = some member ∧
      Contents.plantOfGroup member = .ok read ∧ read.1.horizon = schedule.horizon := by
  obtain ⟨plant, there, returned⟩ := Change.getElem?_of_forall₂ returns listed
  refine ⟨_, Sheet.member? (Filed.mem_members there), ?_, ?_⟩
  · exact Except.bind_eq_ok.mpr ⟨_, Plant.dataOfGroup_eq_ok.mpr returned.data,
      Except.bind_eq_ok.mpr ⟨_, returned.scale, rfl⟩⟩
  · exact returned.shape.1.trans (filable.stocked.horizons plant (List.mem_of_getElem? there))

theorem generators_restored {plants : List (PlantData Float × Float)}
    (returns : List.Forall₂ Plant.Returns schedule.plants plants) :
    (plants.map fun plant => plant.1.generators) = schedule.plants.map Plant.generators :=
  Change.forall₂_map_eq (returns.flip.imp fun _ _ returned => returned.shape.2)

/-- What is written of a schedule is read with contents that resemble its own. -/
theorem contents_restored (filable : schedule.Filable data) (moderate : schedule.Moderate)
    (completable : schedule.Completable) :
    ∃ contents, Contents.Reads schedule.sheet.group contents ∧ contents.Returns schedule data := by
  obtain ⟨counts, network, demand, primary, secondary, inertia, emissions, constants⟩ :=
    Filed.stands schedule
  have counted := counts.dims
  have given := demand.fields
  have termed := constants.fields
  simp only [countsPage, demandPage, constantsPage, List.forall_mem_cons] at counted given termed
  obtain ⟨topologies, placed, nodes, topology, lines, shared⟩ :=
    filable.placed_restored moderate network demand
  obtain ⟨plants, returns⟩ := exists_forall₂ fun plant member =>
    (filable.plants plant member).returns
  obtain ⟨levels, givesDemand, sameDemand⟩ :=
    filable.stocked.demand_restored moderate completable given.2.1
  obtain ⟨first, readsFirst, sameFirst⟩ :=
    filable.zoning_restored moderate completable .primary primary
  obtain ⟨second, readsSecond, sameSecond⟩ :=
    filable.zoning_restored moderate completable .secondary secondary
  obtain ⟨third, readsThird, sameThird⟩ :=
    filable.zoning_restored moderate completable .inertia inertia
  obtain ⟨budgets, readsEmissions, sameEmissions⟩ :=
    filable.emissions_restored moderate completable emissions
  obtain ⟨terms, givesTerms, sameTerms⟩ :=
    moderate.constants_restored completable termed.1 (shared ▸ List.length_replicate)
  refine ⟨{ schedule.contents with
    plants := plants
    topologies := topologies
    demand := levels
    primary := first
    secondary := second
    inertia := third
    emissions := budgets
    constants := terms }, ?reads, ?returns⟩
  case reads =>
    exact {
      horizon := counted.1
      count := by rw [counted.2.1, returns.length_eq]
      plants := fun _ _ listed => filable.plant_restored returns listed
      placed
      generatorNode := Group.lists_again given.1
      demand := nodes.symm ▸ givesDemand
      primary := readsFirst
      secondary := readsSecond
      inertia := readsThird
      emissions := by
        rw [Contents.generators, generators_restored returns]
        exact readsEmissions
      constants := givesTerms }
  case returns =>
    exact ⟨rfl, rfl, rfl, rfl, returns, ⟨topology, lines, shared⟩, sameDemand, sameFirst,
      sameSecond, sameThird, sameEmissions, sameTerms⟩

end Filable

end Schedule

end Dispatch
