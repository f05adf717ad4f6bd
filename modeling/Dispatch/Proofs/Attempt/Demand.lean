import Dispatch.Proofs.Attempt.Rescale

namespace Dispatch

/-! A new demand. It is written before the balance rows of a bus or the networks follow, and
none of them refuses to. -/

variable {K : Type} [Scalar K]

theorem Address.select_single {entry extent : Nat} (entry_lt : entry < extent) (what : String) :
    (Address.subset [entry] true).select extent 1 what =
      .ok (some ⟨[entry], .subset [entry]⟩) := by
  simp [Address.select, checkIndices, checkCount, entry_lt]

theorem Network.Kept.setDemand (address : Address) (values : List K)
    (physical abstract : Mode) (network : Network K) :
    Network.Kept network (Network.setDemand address values physical abstract network).state := by
  refine ⟨fun sound => sound.setDemand address values physical abstract, ?_⟩
  cases Network.setDemand_state address values physical abstract network with
  | inl still => rw [still]
  | inr moved =>
      obtain ⟨selection, moved⟩ := moved
      rw [moved]
      exact (Network.SameFrame.withDemand network selection values abstract).extent

/-- One entry of a network's demand can always be written. -/
theorem Network.setDemand_single {network : Network K} {entry : Nat}
    (entry_lt : entry < network.extent) (value : K) (abstract : Mode) :
    ∃ outcome, Network.setDemand (.subset [entry] true) [value] .quiet abstract network =
      ⟨(Network.setDemand (.subset [entry] true) [value] .quiet abstract network).state, [],
        .ok outcome⟩ := by
  have selected := Address.select_single entry_lt "demand"
  rw [Network.setDemand_apply, List.length_singleton, selected]
  dsimp only
  rw [Network.updateDemand_apply]
  split
  · exact ⟨_, rfl⟩
  · exact ⟨_, rfl⟩

namespace Schedule

variable {schedule : Schedule K}

theorem patchBusBalance?_eq (filled : schedule.Filled) (placed : schedule.Placed)
    {instants : List Nat} (within : ∀ instant ∈ instants, instant < schedule.horizon) :
    schedule.patchBusBalance? instants = some (schedule.patchBusBalance instants) := by
  have levels : instants.mapM (fun instant => do
        return (instant, ← schedule.balanceLevel? instant 0)) =
      some (instants.map fun instant => (instant, schedule.balanceLevel instant 0)) := by
    refine Lookup.mapM_eq_some fun instant member => ?_
    rw [balanceLevel?_eq filled placed (within instant member)]
    rfl
  unfold patchBusBalance? patchBusBalance withLinks
  rw [levels]
  simp only [Option.bind_eq_bind, Option.bind_some, List.foldl_map]
  rfl

omit [Scalar K] in
theorem sameFrame_foldl_setBoth (level : Nat → K) (instants : List Nat) (link : Link K) :
    Link.SameFrame link { link with
      rows := instants.foldl
        (fun rows instant => rows.modify instant 0 (Row.setBoth (level instant))) link.rows } := by
  induction instants generalizing link with
  | nil => exact Link.SameFrame.refl link
  | cons instant rest induction =>
      have first := Link.SameFrame.modify link instant 0 (show ∀ item, _ →
        (Row.setBoth (level instant) item).function.terms.map Prod.fst = _ from fun _ _ => rfl)
      exact first.trans (induction _)

theorem Sound.patchBusBalance (sound : schedule.Sound) (instants : List Nat) :
    (schedule.patchBusBalance instants).Sound := by
  refine sound.withLinks (List.forall₂_map_right_iff.mpr (List.forall₂_same.mpr ?_))
  intro link _
  split
  · exact sameFrame_foldl_setBoth (fun instant => schedule.balanceLevel instant 0) instants link
  · exact Link.SameFrame.refl link

omit [Scalar K] in
theorem Stocked.network_of_entry (stocked : schedule.Stocked)
    (several : schedule.isBus = false) {entry : Nat} (entry_lt : entry < schedule.extent) :
    0 < schedule.horizon ∧ ∃ network,
      schedule.networks[entry % schedule.horizon]? = some network ∧ network.Sound ∧
        entry / schedule.horizon < network.extent := by
  have positive : 0 < schedule.horizon := by
    unfold extent at entry_lt
    by_contra none
    rw [Nat.eq_zero_of_not_pos none, Nat.mul_zero] at entry_lt
    omega
  have within : entry % schedule.horizon < schedule.networks.length := by
    rw [stocked.count several]
    exact Nat.mod_lt _ positive
  have found := List.getElem?_eq_getElem within
  have member := List.mem_of_getElem? found
  refine ⟨positive, _, found, stocked.networks _ member, ?_⟩
  rw [stocked.extents _ member]
  exact Nat.div_lt_of_lt_mul (by rwa [Nat.mul_comm])

omit [Scalar K] in
/-- An entry of a bus is an instant. -/
theorem Stocked.entry_lt_of_isBus (stocked : schedule.Stocked) (bus : schedule.isBus = true)
    {entry : Nat} (entry_lt : entry < schedule.extent) : entry < schedule.horizon := by
  unfold extent at entry_lt
  cases stocked.single bus with
  | inl one =>
      calc entry < schedule.nodes * schedule.horizon := entry_lt
        _ ≤ 1 * schedule.horizon := Nat.mul_le_mul_right _ one
        _ = schedule.horizon := Nat.one_mul _
  | inr none =>
      rw [none, Nat.mul_zero] at entry_lt
      omega

theorem Sound.completes_forwardEntry (sound : schedule.Sound)
    (several : schedule.isBus = false)
    (given : schedule.demand.length = schedule.extent) {entry : Nat}
    (entry_lt : entry < schedule.extent) (abstract : Mode) :
    Attempt.Completes (schedule.forwardEntry? entry abstract)
      (forwardEntry schedule.horizon (schedule.demand.getD entry 0) entry abstract)
      schedule.networks := by
  obtain ⟨positive, network, found, still, _⟩ :=
    sound.stocked.network_of_entry several entry_lt
  apply Attempt.Completes.look (Lookup.divide?_eq entry positive)
  apply Attempt.Completes.look (Lookup.getElem?_eq_getD (given ▸ entry_lt) 0)
  refine Attempt.Completes.onMember (fun missing => ?_) fun other present => ?_
  · rw [found] at missing
    cases missing
  · cases found.symm.trans present
    exact Network.completes_setDemand still.shaped _ _ .quiet abstract

theorem Sound.forwardEntry_accepted (sound : schedule.Sound)
    (several : schedule.isBus = false) {entry : Nat} (entry_lt : entry < schedule.extent)
    (value : K) (abstract : Mode) :
    ∃ outcome, forwardEntry schedule.horizon value entry abstract schedule.networks =
        ⟨(forwardEntry schedule.horizon value entry abstract schedule.networks).state, [],
          .ok outcome⟩ ∧
      List.Forall₂ Network.Kept schedule.networks
        (forwardEntry schedule.horizon value entry abstract schedule.networks).state := by
  obtain ⟨_, network, found, _, node_lt⟩ := sound.stocked.network_of_entry several entry_lt
  obtain ⟨outcome, accepted⟩ := Network.setDemand_single node_lt value abstract
  refine ⟨outcome, ?_, Change.onMember_forall₂ Network.Kept.refl
    (Network.Kept.setDemand _ _ .quiet abstract) _ _ _⟩
  unfold forwardEntry
  rw [Change.onMember_of_getElem? found, accepted]

/-- While entries are handed on, the networks stay what the next one needs. -/
structure Forwarding (schedule : Schedule K) (networks : List (Network K)) : Prop where
  sound : (schedule.withNetworks networks).Sound
  several : (schedule.withNetworks networks).isBus = false

theorem Forwarding.next {networks : List (Network K)} (forwarding : schedule.Forwarding networks)
    {entry : Nat} (entry_lt : entry < schedule.extent) (value : K) (abstract : Mode) :
    schedule.Forwarding (forwardEntry schedule.horizon value entry abstract networks).state := by
  obtain ⟨_, _, kept⟩ :=
    forwarding.sound.forwardEntry_accepted forwarding.several entry_lt value abstract
  exact ⟨forwarding.sound.withNetworks kept,
    (Change.isEmpty_of_forall₂ kept).trans forwarding.several⟩

theorem Sound.completes_forwardDemand (sound : schedule.Sound)
    (several : schedule.isBus = false)
    (given : schedule.demand.length = schedule.extent) {entries : List Nat}
    (within : ∀ entry ∈ entries, entry < schedule.extent) (abstract : Mode) :
    Attempt.Completes (forwardDemand? entries abstract) (forwardDemand entries abstract)
      schedule := by
  apply Attempt.Completes.current
  apply Attempt.Completes.onPart
  refine Attempt.Completes.forAll schedule.Forwarding (fun entry member networks forwarding => ?_)
    ⟨sound, several⟩
  exact ⟨forwarding.sound.completes_forwardEntry forwarding.several given (within entry member)
    abstract, forwarding.next (within entry member) _ abstract⟩

theorem Sound.forwardDemand_accepted (sound : schedule.Sound)
    (several : schedule.isBus = false) {entries : List Nat}
    (within : ∀ entry ∈ entries, entry < schedule.extent) (abstract : Mode) :
    ∃ after, forwardDemand entries abstract schedule = ⟨after, [], .ok ⟨⟩⟩ ∧ after.Sound := by
  have run : ∃ networks, Change.forAll entries
        (fun entry =>
          forwardEntry schedule.horizon (schedule.demand.getD entry 0) entry abstract)
        schedule.networks = ⟨networks, [], .ok ⟨⟩⟩ ∧ schedule.Forwarding networks := by
    refine Change.forAll_accepted schedule.Forwarding
      (fun entry member networks forwarding => ?_) ⟨sound, several⟩
    obtain ⟨outcome, accepted, _⟩ := forwarding.sound.forwardEntry_accepted
      forwarding.several (within entry member) (schedule.demand.getD entry 0) abstract
    exact ⟨_, outcome, accepted, forwarding.next (within entry member) _ abstract⟩
  obtain ⟨networks, run, forwarding⟩ := run
  refine ⟨schedule.withNetworks networks, ?_, forwarding.sound⟩
  unfold forwardDemand onNetworks
  rw [Change.current_bind, Change.onPart_apply, run]
  rfl

theorem Sound.completes_updateDemand (sound : schedule.Sound) {selection : Selection}
    (within : ∀ entry ∈ selection.indices, entry < schedule.extent) (values : List K)
    (physical abstract : Mode) :
    Attempt.Completes (updateDemand? selection values physical abstract)
      (updateDemand selection values physical abstract) schedule := by
  have shaped := sound.stocked.demand
  apply Attempt.Completes.current
  apply Attempt.Completes.look (selection.differs?_eq within shaped 0 values)
  refine Attempt.Completes.ite (fun _ => rfl) fun _ =>
    Attempt.Completes.ite (fun _ => rfl) fun _ => ?_
  apply Attempt.Completes.look (selection.write?_eq within shaped 0 values)
  apply Attempt.Completes.write
  have length := selection.length_write shaped 0 values
  have written := sound.withDemand length
  refine Attempt.Completes.ite (fun bus => ?_) fun several => ?_
  · refine Attempt.Completes.ite (fun reached => ?_) fun _ => Attempt.Completes.report rfl
    have late : schedule.stage.hasConstraints = true := by
      simp only [Bool.and_eq_true] at reached
      exact reached.2
    have instants (instant : Nat) (member : instant ∈ selection.indices) :=
      sound.stocked.entry_lt_of_isBus bus (within instant member)
    exact Attempt.Completes.revise (patchBusBalance?_eq written.stocked.filled
      (written.placed late) instants) (Attempt.Completes.report rfl)
  · have networks : schedule.isBus = false := by simpa using several
    exact Attempt.Completes.bind (written.completes_forwardDemand networks length within _)
      fun _ _ => Attempt.Completes.report rfl

theorem Sound.updateDemand_accepted (sound : schedule.Sound) {selection : Selection}
    (within : ∀ entry ∈ selection.indices, entry < schedule.extent) (values : List K)
    (physical abstract : Mode) :
    ∃ after notices outcome, updateDemand selection values physical abstract schedule =
      ⟨after, notices, .ok outcome⟩ ∧ after.Sound := by
  rw [updateDemand_apply]
  dsimp only
  have written := sound.withDemand (selection.length_write sound.stocked.demand 0 values)
  split
  · exact ⟨_, _, _, rfl, sound⟩
  · split
    · exact ⟨_, _, _, rfl, sound⟩
    · split
      · refine ⟨_, _, _, rfl, ?_⟩
        unfold Schedule.withBusLevels
        split
        · exact written.patchBusBalance selection.indices
        · exact written
      · rename_i several
        have networks : schedule.isBus = false := by simpa using several
        obtain ⟨after, forwarded, last⟩ :=
          written.forwardDemand_accepted networks within abstract.silent
        rw [forwarded]
        exact ⟨after, _, _, rfl, last⟩

theorem Sound.completes_setDemand (sound : schedule.Sound) (address : Address)
    (values : List K) (physical abstract : Mode) :
    Attempt.Completes (setDemand? address values physical abstract)
      (setDemand address values physical abstract) schedule := by
  apply Attempt.Completes.current
  refine Attempt.Completes.require fun selected found => ?_
  cases selected with
  | none => rfl
  | some selection =>
      exact sound.completes_updateDemand (Address.select_sound found).1 values physical abstract

theorem Sound.setDemand_cases (sound : schedule.Sound) (address : Address) (values : List K)
    (physical abstract : Mode) :
    (∃ error, setDemand address values physical abstract schedule =
        ⟨schedule, [], .error error⟩) ∨
      ∃ after notices outcome, setDemand address values physical abstract schedule =
        ⟨after, notices, .ok outcome⟩ ∧ after.Sound := by
  rw [setDemand_apply]
  split
  · exact .inl ⟨_, rfl⟩
  · exact .inr ⟨_, _, _, rfl, sound⟩
  · rename_i selection selected
    exact .inr (sound.updateDemand_accepted (Address.select_sound selected).1 values physical
      abstract)

theorem Sound.withConstants (sound : schedule.Sound) (constants : List K) :
    (schedule.withConstants constants).Sound := by
  refine sound.moved ?_ (.of_eq ⟨rfl, rfl, rfl, fun need => ?_, rfl, rfl⟩ rfl) rfl rfl
    schedule.links_still
  · exact sound.stocked.moved (List.forall₂_same.mpr fun plant _ => Plant.Kept.refl plant)
      (List.forall₂_same.mpr fun network _ => Network.Kept.refl network) rfl rfl
      sound.stocked.demand
  · cases need <;> rfl

theorem Sound.setNetworkConstants_cases (sound : schedule.Sound) (constants : List K) :
    (∃ error, setNetworkConstants constants schedule = ⟨schedule, [], .error error⟩) ∨
      ∃ after, setNetworkConstants constants schedule = ⟨after, [], .ok ⟨⟩⟩ ∧ after.Sound := by
  rw [setNetworkConstants_apply]
  split
  · exact .inr ⟨_, rfl, sound.withConstants constants⟩
  · split
    · exact .inl ⟨_, rfl⟩
    · refine .inr ⟨_, rfl, (sound.withNetworks ?_).withConstants constants⟩
      exact Change.mapIdx_forall₂ fun _ network =>
        ⟨fun still => still.call (.setConstantTerm _), rfl⟩

end Schedule

end Dispatch
