import Dispatch.Proofs.Schedule.Rescale
import Dispatch.Proofs.Schedule.Steps

namespace Dispatch.Schedule

/-! What the updates of a schedule leave: the new data with members and rows that follow. -/

variable {K : Type} [Scalar K]

def withConstants (schedule : Schedule K) (networkConstants : List K) : Schedule K :=
  let written := { schedule with networkConstants }
  { written with
    objective := written.objective.map fun objective =>
      { objective with
        function := { objective.function with constant := written.ownConstant } } }

theorem setNetworkConstants_apply (constants : List K) (schedule : Schedule K) :
    setNetworkConstants constants schedule =
      if schedule.isBus then ⟨schedule.withConstants constants, [], .ok ⟨⟩⟩
      else if constants.length ≠ schedule.networks.length then
        ⟨schedule, [],
          .error (.shape "NetworkConstantTerms" schedule.networks.length constants.length)⟩
      else
        ⟨(schedule.withNetworks (schedule.networks.mapIdx fun instant network =>
          network.withConstant (constants.getD instant 0))).withConstants constants,
          [], .ok ⟨⟩⟩ := by
  unfold setNetworkConstants
  rw [Change.current_bind]
  cases bus : schedule.isBus with
  | true => rfl
  | false =>
      rw [if_pos (by rfl), if_neg (by simp)]
      unfold checkSize
      by_cases fits : constants.length = schedule.networks.length
      · have each : Change.each (fun instant =>
              Network.setConstantTerm (constants.getD instant 0)) schedule.networks =
            ⟨schedule.networks.mapIdx fun instant network =>
              network.withConstant (constants.getD instant 0), [], .ok ⟨⟩⟩ :=
          Change.each_ok _ fun instant network _ =>
            ⟨⟨⟩, Network.setConstantTerm_apply _ network⟩
        rw [if_pos fits, if_neg (not_not.mpr fits)]
        rw [Change.require_ok_bind, onNetworks]
        rw [Change.bind_apply, Change.onPart_apply, each]
        rfl
      · rw [if_neg fits, if_pos fits]
        rfl

theorem InStep.setNetworkConstants {schedule : Schedule K} (inStep : schedule.InStep)
    (constants : List K) :
    (Schedule.setNetworkConstants constants schedule).state.InStep := by
  have kept {networks : List (Network K)}
      (onward : List.Forall₂ Network.Onward schedule.networks networks)
      (bounds : List.Forall₂ Network.SameBounds schedule.networks networks) :
      ((schedule.withNetworks networks).withConstants constants).InStep := by
    have still : schedule.Onward schedule.plants networks :=
      ⟨List.forall₂_same.mpr fun plant _ => Plant.Onward.refl plant, onward⟩
    have members := inStep.members.onward still
    have same : List.Forall₂ Plant.SameCore schedule.plants schedule.plants :=
      List.forall₂_same.mpr fun _ _ _ => rfl
    refine ⟨⟨members.plants, members.plantStages, members.horizons, members.networks,
      members.networkStages, members.single⟩, fun late => ?_, inStep.unlinked, ?_⟩
    · have agree := inStep.members.agree (Stage.hasVariables_of_late late) still same
      have linked := (inStep.linked late).congr agree rfl onward bounds
      exact ⟨linked.valid, linked.heads, linked.links, linked.settled⟩
    · have objective := inStep.objective
      change Option.map _ schedule.objective = if schedule.stage.hasObjective then _ else _
      rw [objective]
      split <;> rfl
  rw [setNetworkConstants_apply]
  split
  · exact @kept schedule.networks
      (List.forall₂_same.mpr fun network _ => Network.Onward.refl network)
      (List.forall₂_same.mpr fun _ _ => ⟨rfl, rfl⟩)
  · split
    · exact inStep
    · refine kept ?_ ?_
      · exact Change.mapIdx_forall₂ fun _ network =>
          (Network.Onward.setConstantTerm network _).1
      · exact Change.mapIdx_forall₂ fun _ network =>
          (Network.Onward.setConstantTerm network _).2

/-- What a writing update makes of a new demand on a bus. -/
def withBusLevels (schedule : Schedule K) (instants : List Nat) (demand : List K)
    (abstract : Mode) : Schedule K :=
  if abstract.writes && schedule.stage.hasConstraints then
    (schedule.withDemand demand).patchBusBalance instants
  else schedule.withDemand demand

theorem updateDemand_apply (selection : Selection) (values : List K)
    (physical abstract : Mode) (schedule : Schedule K) :
    updateDemand selection values physical abstract schedule =
      let demand := selection.write schedule.demand schedule.extent 0 values
      let notices := physical.notices schedule.notifier
        (selection.record schedule.id .activePowerDemand)
      if !selection.differs schedule.demand 0 values then ⟨schedule, [], .ok .unchanged⟩
      else if !physical.writes then ⟨schedule, [], .ok .dryRun⟩
      else if schedule.isBus then
        ⟨schedule.withBusLevels selection.indices demand abstract, notices, .ok .applied⟩
      else
        let forwarded :=
          forwardDemand selection.indices abstract.silent (schedule.withDemand demand)
        match forwarded.result with
        | .error error => ⟨forwarded.state, forwarded.notices, .error error⟩
        | .ok _ => ⟨forwarded.state, forwarded.notices ++ notices, .ok .applied⟩ := by
  unfold updateDemand withBusLevels
  rw [Change.current_bind]
  dsimp only
  split
  · rfl
  · split
    · rfl
    · rw [Change.write_bind]
      split
      · split <;> simp [withDemand]
      · change (forwardDemand selection.indices abstract.silent >>= _)
          (schedule.withDemand _) = _
        rw [Change.bind_apply]
        cases (forwardDemand selection.indices abstract.silent (schedule.withDemand
          (selection.write schedule.demand schedule.extent 0 values))).result with
        | error error => rfl
        | ok answer => simp

theorem setDemand_apply (address : Address) (values : List K) (physical abstract : Mode)
    (schedule : Schedule K) :
    setDemand address values physical abstract schedule =
      match address.select schedule.extent values.length "demand" with
      | .error error => ⟨schedule, [], .error error⟩
      | .ok none => ⟨schedule, [], .ok .unchanged⟩
      | .ok (some selection) => updateDemand selection values physical abstract schedule := by
  unfold setDemand
  rw [Change.current_bind]
  cases address.select schedule.extent values.length "demand" with
  | error error => rfl
  | ok selected => cases selected <;> rfl

/-- A new demand is followed in the rows of a bus, or by the networks. -/
theorem setDemand_state (address : Address) (values : List K) (physical abstract : Mode)
    (schedule : Schedule K) :
    let after := (setDemand address values physical abstract schedule).state
    after = schedule ∨ ∃ selection,
      address.select schedule.extent values.length "demand" = .ok (some selection) ∧
      let demand := selection.write schedule.demand schedule.extent 0 values
      (schedule.isBus = true ∧
        after = schedule.withBusLevels selection.indices demand abstract) ∨
      schedule.isBus = false ∧ after =
        (forwardDemand selection.indices abstract.silent (schedule.withDemand demand)).state := by
  dsimp only
  rw [setDemand_apply]
  split
  · exact .inl rfl
  · exact .inl rfl
  · rename_i selection selected
    rw [updateDemand_apply]
    dsimp only
    split
    · exact .inl rfl
    · split
      · exact .inl rfl
      · refine .inr ⟨selection, selected, ?_⟩
        split
        · rename_i bus
          exact .inl ⟨bus, rfl⟩
        · rename_i several
          refine .inr ⟨by simpa using several, ?_⟩
          split <;> rfl

/-- Forwarding relates every network to what became of it. -/
theorem forwardDemand_forall₂ (related : Network K → Network K → Prop)
    (refl : ∀ network, related network network)
    (trans : ∀ first second third, related first second → related second third →
      related first third) {abstract : Mode}
    (relates : ∀ address values network, related network
      (Network.setDemand address values .quiet abstract network).state)
    (entries : List Nat) (schedule : Schedule K) :
    (forwardDemand entries abstract schedule).state =
        schedule.withNetworks (forwardDemand entries abstract schedule).state.networks ∧
      List.Forall₂ related schedule.networks
        (forwardDemand entries abstract schedule).state.networks := by
  refine ⟨rfl, Change.forAll_related
    (fun entry => forwardEntry schedule.horizon (schedule.demand.getD entry 0) entry abstract)
    (List.Forall₂ related)
    (fun networks => List.forall₂_same.mpr fun network _ => refl network)
    (fun _ _ _ => Change.forall₂_trans trans) (fun entry networks => ?_) entries
    schedule.networks⟩
  exact Change.onMember_forall₂ refl (fun network => relates _ _ network) _ _ networks

/-- The balance rows of a bus follow a new demand. -/
theorem InStep.withBusLevels {schedule : Schedule K} (inStep : schedule.InStep)
    (bus : schedule.isBus = true) {instants : List Nat} {demand : List K}
    (elsewhere : ∀ instant ∉ instants, demand.getD instant 0 = schedule.demand.getD instant 0)
    {abstract : Mode} (writes : abstract.writes = true) :
    (schedule.withBusLevels instants demand abstract).InStep := by
  have members := inStep.members
  unfold Schedule.withBusLevels
  rw [writes, Bool.true_and]
  cases late : schedule.stage.hasConstraints with
  | true =>
      have linked := inStep.linked late
      rw [if_pos rfl, patchBusBalance_linksNow bus (members.single bus) linked.links elsewhere]
      refine ⟨⟨members.plants, members.plantStages, members.horizons, members.networks,
        members.networkStages, members.single⟩,
        fun _ => ⟨linked.valid, linked.heads, rfl, linked.settled⟩, fun early => ?_,
        inStep.objective⟩
      change schedule.stage.hasConstraints = false at early
      rw [late] at early
      cases early
  | false =>
      rw [if_neg (by simp)]
      refine ⟨⟨members.plants, members.plantStages, members.horizons, members.networks,
        members.networkStages, members.single⟩, fun reached => ?_, inStep.unlinked,
        inStep.objective⟩
      change schedule.stage.hasConstraints = true at reached
      rw [late] at reached
      cases reached

/-- The rows of a schedule with networks read no demand of its own. -/
theorem InStep.forwardDemand {schedule : Schedule K} (inStep : schedule.InStep)
    (several : schedule.isBus = false) (demand : List K) (entries : List Nat)
    {abstract : Mode} (writes : abstract.writes = true) :
    (Schedule.forwardDemand entries abstract (schedule.withDemand demand)).state.InStep := by
  obtain ⟨state, onward⟩ := forwardDemand_forall₂ Network.Onward Network.Onward.refl
    (fun _ _ _ => Network.Onward.trans)
    (fun _ _ network => (Network.Onward.setDemand network _ _ .quiet writes).1) entries
    (schedule.withDemand demand)
  obtain ⟨-, bounds⟩ := forwardDemand_forall₂ Network.SameBounds
    (fun _ => ⟨rfl, rfl⟩)
    (fun _ _ _ => Network.SameBounds.trans)
    (fun _ _ network => (Network.Onward.setDemand network _ _ .quiet writes).2) entries
    (schedule.withDemand demand)
  generalize (Schedule.forwardDemand entries abstract (schedule.withDemand demand)).state.networks =
    networks at state onward bounds
  have still : schedule.Onward schedule.plants networks :=
    ⟨List.forall₂_same.mpr fun plant _ => Plant.Onward.refl plant, onward⟩
  have members := inStep.members.onward still
  have several' : ((schedule.withDemand demand).withNetworks networks).isBus = false :=
    (Change.isEmpty_of_forall₂ onward).trans several
  rw [state]
  refine ⟨⟨members.plants, members.plantStages, members.horizons, members.networks,
    members.networkStages, members.single⟩, fun late => ?_, inStep.unlinked, ?_⟩
  · have agree := inStep.members.agree (Stage.hasVariables_of_late late) still
      (List.forall₂_same.mpr fun _ _ _ => rfl)
    have demandless : Agree ((schedule.withDemand demand).withNetworks networks) schedule :=
      { agree with
        zoning := fun need => by cases need <;> rfl
        demand := fun bus => absurd (several'.symm.trans bus) (by simp) }
    exact (inStep.linked late).congr demandless rfl onward bounds
  · have objective := inStep.objective
    rw [ownConstant, several] at objective
    change schedule.objective = if schedule.stage.hasObjective then _ else _
    rw [ownConstant, several']
    exact objective

theorem InStep.setDemand {schedule : Schedule K} (inStep : schedule.InStep)
    (address : Address) (values : List K) (physical : Mode) {abstract : Mode}
    (writes : abstract.writes = true) :
    (Schedule.setDemand address values physical abstract schedule).state.InStep := by
  rcases setDemand_state address values physical abstract schedule with
    still | ⟨selection, -, ⟨bus, moved⟩ | ⟨several, moved⟩⟩
  · rw [still]
    exact inStep
  · rw [moved]
    exact inStep.withBusLevels bus
      (fun instant outside => selection.getD_write_of_not_mem _ _ _ _ outside) writes
  · rw [moved]
    exact inStep.forwardDemand several
      (selection.write schedule.demand schedule.extent 0 values) selection.indices
      (show abstract.silent.writes = true by rw [Mode.writes_silent, writes])

def withPlants (schedule : Schedule K) (plants : List (Plant K)) : Schedule K :=
  { schedule with plants }

omit [Scalar K] in
theorem withPlants_set_self {schedule : Schedule K} {index : Nat} {plant : Plant K}
    (found : schedule.plants[index]? = some plant) :
    schedule.withPlants (schedule.plants.set index plant) = schedule := by
  obtain ⟨index_lt, entry⟩ := List.getElem?_eq_some_iff.mp found
  rw [withPlants, ← entry, List.set_getElem_self]

omit [Scalar K] in
theorem onPlant_apply {α : Type} (index : Nat) (change : Change (Plant K) α)
    (schedule : Schedule K) :
    onPlant index change schedule =
      match schedule.plants[index]? with
      | none => ⟨schedule, [], .error (.outOfRange "unit" index schedule.plants.length)⟩
      | some plant =>
          ⟨schedule.withPlants (schedule.plants.set index (change plant).state),
            (change plant).notices, (change plant).result⟩ := by
  unfold onPlant onPlants
  rw [Change.current_bind, Change.onPart_apply]
  cases found : schedule.plants[index]? with
  | none => rw [Change.onMember_of_none found]
  | some plant =>
      rw [Change.onMember_of_getElem? found]
      rfl

theorem afterScale_apply (index : Nat) (outcome : Outcome) (abstract : Mode)
    (schedule : Schedule K) :
    afterScale index outcome abstract schedule =
      if outcome != .applied || !schedule.stage.hasConstraints then
        ⟨schedule, [], .ok outcome⟩
      else (do
        refreshInjectionBounds abstract.silent
        if abstract.writes then patchPlant index
        return outcome : Change (Schedule K) Outcome) schedule := by
  unfold afterScale
  rw [Change.current_bind]
  split <;> rfl

/-- Injection bounds that fit are never refused. -/
theorem refreshInjectionBounds_ok (schedule : Schedule K)
    (fits : ∀ network ∈ schedule.networks, schedule.nodes = network.extent) (abstract : Mode) :
    refreshInjectionBounds abstract schedule =
      ⟨(refreshInjectionBounds abstract schedule).state, [], .ok ⟨⟩⟩ := by
  have each := Change.each_ok
    (fun instant network => (Network.setInjectionBounds (schedule.minima instant)
      (schedule.maxima instant) .quiet abstract network).state)
    fun instant network (found : schedule.networks[instant]? = some network) =>
      Network.setInjectionBounds_ok
        (by simpa [minima] using fits network (List.mem_of_getElem? found))
        (by simpa [maxima] using fits network (List.mem_of_getElem? found)) abstract
  rw [refreshInjectionBounds_apply, each]

theorem Linked.fits {schedule : Schedule K} (linked : schedule.Linked)
    (network : Network K) (member : network ∈ schedule.networks) :
    schedule.nodes = network.extent := by
  obtain ⟨instant, found⟩ := List.mem_iff_getElem?.mp member
  simpa [minima] using (linked.settled instant network found).minFits

theorem Linked.rescaling {schedule : Schedule K} (members : schedule.Members schedule.stage)
    (late : schedule.stage.hasConstraints = true) {index : Nat} {plant : Plant K}
    (found : schedule.plants[index]? = some plant) (scale : K) {networks : List (Network K)}
    (onward : List.Forall₂ Network.Onward schedule.networks networks) :
    Rescaling schedule
      (schedule.withMembers (schedule.plants.set index (plant.followed scale)) networks)
      index plant scale := by
  have injections := injections_of_forall₂ onward
    (members.hasVariables (Stage.hasVariables_of_late late)).2
  exact {
    found := found
    plants := rfl
    horizon := rfl
    nodes := rfl
    generatorNode := rfl
    zoning := fun need => by cases need <;> rfl
    emissions := rfl
    demand := rfl
    heads := linkHead_congr injections
    isBus := isBus_congr injections }

/-- A new scale of a plant is followed in the injection bounds and in the rows, without a
refusal. -/
theorem InStep.afterScale {schedule : Schedule K} (inStep : schedule.InStep)
    (late : schedule.stage.hasConstraints = true) {index : Nat} {plant : Plant K}
    (found : schedule.plants[index]? = some plant) (scale : K) {abstract : Mode}
    (writes : abstract.writes = true) :
    ∃ after, Schedule.afterScale index .applied abstract
        (schedule.withPlants (schedule.plants.set index (plant.followed scale))) =
      ⟨after, [], .ok .applied⟩ ∧ after.InStep := by
  let moved := schedule.withPlants (schedule.plants.set index (plant.followed scale))
  have linked := inStep.linked late
  have generated := Stage.hasVariables_of_late late
  have writes' : abstract.silent.writes = true := by rw [Mode.writes_silent, writes]
  obtain ⟨networks, state, onward⟩ :=
    refreshInjectionBounds_onward moved writes'
  have refreshed : refreshInjectionBounds abstract.silent moved =
      ⟨moved.withNetworks networks, [], .ok ⟨⟩⟩ := by
    rw [refreshInjectionBounds_ok moved linked.fits, state]
  have settled := refreshInjectionBounds_settled
    (show (refreshInjectionBounds abstract.silent moved).result = .ok ⟨⟩ by rw [refreshed])
  rw [state] at settled
  have rescaling := Linked.rescaling inStep.members late found scale onward
  have occupied : 0 < plant.generators → 0 < schedule.horizon →
      plant.activePower.isEmpty = false := by
    have member := List.mem_of_getElem? found
    rw [← inStep.members.horizons plant member]
    exact (inStep.members.plants plant member).activePower_isEmpty
      ((inStep.members.hasVariables generated).1 plant member)
  have patched : patchPlant index (moved.withNetworks networks) = _ :=
    patchPlant_apply rescaling linked.heads occupied linked.links
  have members := inStep.members.onward
    (show schedule.Onward (schedule.plants.set index (plant.followed scale)) networks from
      ⟨Change.set_forall₂ Plant.Onward.refl found (Plant.Onward.followed plant scale), onward⟩)
  refine ⟨(moved.withNetworks networks).withLinks (moved.withNetworks networks).linksNow,
    ?_, ?_⟩
  · rw [afterScale_apply, if_neg (by
      change ¬(_ || !schedule.stage.hasConstraints) = true
      rw [late]
      decide), if_pos writes, Change.bind_ok refreshed, Change.bind_ok patched]
    rfl
  · refine ⟨⟨members.plants, members.plantStages, members.horizons, members.networks,
      members.networkStages, members.single⟩, fun _ => ⟨?_, ?_, rfl, settled⟩,
      fun early => ?_, ?_⟩
    · exact (rescaling.sameLayout.validate onward.length_eq.symm).trans linked.valid
    · intro kind row member
      have listed : row ∈ schedule.linkRows kind := by
        rw [← rescaling.sameLayout.shape.linkRows]
        exact member
      obtain ⟨head, there⟩ := linked.heads kind row listed
      exact ⟨head, (rescaling.heads row).trans there⟩
    · exact absurd (late.symm.trans early) (by simp)
    · have own : (moved.withNetworks networks).ownConstant = schedule.ownConstant := by
        rw [ownConstant, show (moved.withNetworks networks).isBus = schedule.isBus from
          rescaling.isBus]
        rfl
      change schedule.objective = if schedule.stage.hasObjective then
        some ⟨⟨[], (moved.withNetworks networks).ownConstant⟩, .minimise⟩ else none
      rw [own]
      exact inStep.objective

theorem InStep.scalePlantAt {schedule : Schedule K} (inStep : schedule.InStep) (index : Nat)
    (address : Address) (values : List K) (physical : Mode) {abstract : Mode}
    (writes : abstract.writes = true) :
    (Schedule.scalePlantAt index address values physical abstract schedule).state.InStep := by
  unfold Schedule.scalePlantAt
  rw [Change.bind_apply, onPlant_apply]
  cases found : schedule.plants[index]? with
  | none => exact inStep
  | some plant =>
      have member := List.mem_of_getElem? found
      dsimp only
      cases (inStep.members.plants plant member).setScaleAt address values physical writes with
      | inl still =>
          obtain ⟨state, result⟩ := still
          rw [state, withPlants_set_self found]
          cases answer : (Plant.setScaleAt address values physical abstract plant).result with
          | error error => exact inStep
          | ok outcome =>
              have idle : (outcome != .applied) = true := by
                rw [bne_iff_ne]
                rintro rfl
                exact result answer
              dsimp only
              rw [afterScale_apply, idle, Bool.true_or, if_pos rfl]
              exact inStep
      | inr moved =>
          obtain ⟨scale, state, result⟩ := moved
          rw [state, result]
          dsimp only
          cases late : schedule.stage.hasConstraints with
          | true =>
              obtain ⟨after, run, kept⟩ := inStep.afterScale late found scale writes
              rw [run]
              exact kept
          | false =>
              rw [afterScale_apply, show (schedule.withPlants (schedule.plants.set index
                (plant.followed scale))).stage = schedule.stage from rfl, late,
                if_pos (by decide)]
              exact inStep.early late late (inStep.members.onward
                (show schedule.Onward _ schedule.networks from
                  ⟨Change.set_forall₂ Plant.Onward.refl found
                    (Plant.Onward.followed plant scale),
                  List.forall₂_same.mpr fun network _ => Network.Onward.refl network⟩))

end Dispatch.Schedule
