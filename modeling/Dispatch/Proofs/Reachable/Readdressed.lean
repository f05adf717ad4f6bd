import Dispatch.Proofs.Network.Orders
import Dispatch.Proofs.Reachable.Arising

namespace Dispatch

/-! How an update is addressed makes no difference. A demand that goes on to the networks of a
schedule does so entry by entry in the caller's order, and any other order leaves the same. -/

variable {K : Type} [Scalar K]

namespace Plant

theorem coincides_setScaleAt {recorded : Prop} {address other : Address} {values others : List K}
    (alike : address.Interchangeable recorded values other others) (physical abstract : Mode)
    (plant : Plant K) :
    Coincides recorded (setScaleAt address values physical abstract plant)
      (setScaleAt other others physical abstract plant) := by
  refine alike.coincides (fun address values => setScaleAt_apply address values physical abstract
    plant) fun first second _ rearranges addressing => ?_
  rw [updateScale_apply, updateScale_apply, rearranges.differs, rearranges.write]
  split
  · exact .refl _ _
  · split
    · exact .refl _ _
    · dsimp only
      split
      · exact .refl _ _
      · exact .of_notices fun recorded => by rw [Selection.record_congr (addressing recorded)]

end Plant

namespace Network

theorem readdressable_setKappa (physical abstract : Mode) (network : Network K) :
    Readdressable (fun address values => setKappa address values physical abstract) network := by
  refine readdressable_of_interchangeable fun alike => ?_
  refine alike.coincides (fun address values => setKappa_apply address values physical abstract
    network) fun first second _ rearranges addressing => ?_
  rw [updateKappa_apply, updateKappa_apply, rearranges.differs,
    network.withKappa_rearranged rearranges]
  split
  · exact .refl _ _
  · split
    · exact .refl _ _
    · exact .of_notices fun recorded => by rw [Selection.record_congr (addressing recorded)]

theorem readdressable_setDemand (physical abstract : Mode) (network : Network K) :
    Readdressable (fun address values => setDemand address values physical abstract) network := by
  refine readdressable_of_interchangeable fun alike => ?_
  refine alike.coincides (fun address values => setDemand_apply address values physical abstract
    network) fun first second _ rearranges addressing => ?_
  rw [updateDemand_apply, updateDemand_apply, rearranges.differs,
    network.withDemand_rearranged rearranges]
  split
  · exact .refl _ _
  · split
    · exact .refl _ _
    · exact .of_notices fun recorded => by rw [Selection.record_congr (addressing recorded)]

/-- What writing one entry leaves. -/
theorem setDemand_single_state {network : Network K} {entry : Nat}
    (entry_lt : entry < network.extent) (value : K) (abstract : Mode) :
    (setDemand (.subset [entry] true) [value] .quiet abstract network).state =
      if (⟨[entry], .subset [entry]⟩ : Selection).differs network.demand 0 [value] then
        network.withDemand ⟨[entry], .subset [entry]⟩ [value] abstract
      else network := by
  rw [setDemand_apply, List.length_singleton, Address.select_single entry_lt "demand"]
  dsimp only
  rw [updateDemand_apply]
  cases Selection.differs _ network.demand 0 [value] <;> rfl

/-- Writing two entries of one interval, in either order. -/
theorem setDemand_setDemand {network : Network K} (shaped : network.Shaped) {one other : Nat}
    (one_lt : one < network.extent) (other_lt : other < network.extent) (apart : one ≠ other)
    (together : one / network.nodes = other / network.nodes) (value next : K) (abstract : Mode) :
    (setDemand (.subset [other] true) [next] .quiet abstract
        (setDemand (.subset [one] true) [value] .quiet abstract network).state).state =
      (setDemand (.subset [one] true) [value] .quiet abstract
        (setDemand (.subset [other] true) [next] .quiet abstract network).state).state := by
  have kept (entry : Nat) (value : K) :
      (setDemand (.subset [entry] true) [value] .quiet abstract network).state.extent =
        network.extent :=
    (Kept.setDemand (.subset [entry] true) [value] .quiet abstract network).extent
  rw [setDemand_single_state (by rwa [kept one value]), setDemand_single_state one_lt,
    setDemand_single_state (by rwa [kept other next]), setDemand_single_state other_lt]
  generalize firsts : (⟨[one], .subset [one]⟩ : Selection) = first
  generalize seconds : (⟨[other], .subset [other]⟩ : Selection) = second
  have firstIndices : first.indices = [one] := by rw [← firsts]
  have secondIndices : second.indices = [other] := by rw [← seconds]
  have disjoint : first.indices.Disjoint second.indices := by
    rw [firstIndices, secondIndices]
    simpa using apart.symm
  -- What is new in one entry is as new after the other one was written.
  have forward : second.differs (network.withDemand first [value] abstract).demand 0 [next] =
      second.differs network.demand 0 [next] := by
    rw [(demand_withDemand network first [value] abstract).1]
    exact first.differs_write second _ _ _ _ _ disjoint
  have backward : first.differs (network.withDemand second [next] abstract).demand 0 [value] =
      first.differs network.demand 0 [value] := by
    rw [(demand_withDemand network second [next] abstract).1]
    exact second.differs_write first _ _ _ _ _ fun _ member earlier => disjoint earlier member
  by_cases early : first.differs network.demand 0 [value] = true
  · by_cases late : second.differs network.demand 0 [next] = true
    · rw [if_pos early, if_pos late, forward, backward, if_pos early, if_pos late]
      exact withDemand_withDemand firstIndices secondIndices apart together shaped.demand
        [value] [next] abstract
    · rw [if_pos early, if_neg late, forward, if_neg late, if_pos early]
  · by_cases late : second.differs network.demand 0 [next] = true
    · rw [if_neg early, if_pos late, backward, if_neg early]
    · rw [if_neg early, if_neg late, if_neg early]

end Network

namespace Change

variable {S T α β : Type}

/-- Changes that succeed without notice and commute do the same in any order. -/
theorem forAll_perm {change : β → Change S α} (invariant : S → Prop) {items others : List β}
    (same : items.Perm others)
    (succeeds : ∀ item ∈ items, ∀ state, invariant state → ∃ after answer,
      change item state = ⟨after, [], .ok answer⟩ ∧ invariant after)
    (commutes : ∀ one ∈ items, ∀ other ∈ items, one ≠ other → ∀ state, invariant state →
      (change other (change one state).state).state =
        (change one (change other state).state).state)
    {state : S} (holds : invariant state) :
    forAll items change state = forAll others change state := by
  induction same generalizing state with
  | nil => rfl
  | cons item _ induction =>
      obtain ⟨after, answer, run, kept⟩ := succeeds item (by simp) state holds
      rw [forAll_cons, forAll_cons, bind_ok run, bind_ok run]
      rw [induction (fun other member => succeeds other (by simp [member]))
        (fun one member other later => commutes one (by simp [member]) other (by simp [later]))
        kept]
  | swap one other rest =>
      by_cases equal : one = other
      · rw [equal]
      · obtain ⟨first, answer, run, kept⟩ := succeeds one (by simp) state holds
        obtain ⟨second, reply, ran, held⟩ := succeeds other (by simp) state holds
        obtain ⟨last, final, next, -⟩ := succeeds other (by simp) first kept
        obtain ⟨end', closing, following, -⟩ := succeeds one (by simp) second held
        have states := commutes one (by simp) other (by simp) equal state holds
        rw [run, ran] at states
        dsimp only at states
        rw [next, following] at states
        dsimp only at states
        simp only [forAll_cons, bind_ok run, bind_ok ran, Effect.after_nil, bind_ok next,
          bind_ok following, states]
  | trans earlier _ first second =>
      rw [first succeeds commutes holds]
      exact second (fun item member => succeeds item (earlier.mem_iff.mpr member))
        (fun one member other later => commutes one (earlier.mem_iff.mpr member) other
          (earlier.mem_iff.mpr later)) holds

/-- Changes of different members. -/
theorem onMember_onMember {one other : Nat} (apart : one ≠ other) (absent missing : Except Error α)
    (change next : Change T α) (members : List T) :
    (onMember other missing next (onMember one absent change members).state).state =
      (onMember one absent change (onMember other missing next members).state).state := by
  have elsewhere (members : List T) (member : T) :
      (members.set one member)[other]? = members[other]? := List.getElem?_set_ne apart
  have here (members : List T) (member : T) :
      (members.set other member)[one]? = members[one]? := List.getElem?_set_ne apart.symm
  unfold onMember
  cases first : members[one]? with
  | none =>
      cases second : members[other]? with
      | none => simp [first]
      | some member => simp [first, here]
  | some member =>
      cases second : members[other]? with
      | none => simp [first, second, elsewhere]
      | some neighbour =>
          simp only [elsewhere, here, first, second]
          exact List.set_comm _ _ apart

/-- Changes of one member, one after the other. -/
theorem onMember_same {members : List T} {index : Nat} {member : T}
    (found : members[index]? = some member) (absent missing : Except Error α)
    (change next : Change T α) :
    (onMember index missing next (onMember index absent change members).state).state =
      members.set index (next (change member).state).state := by
  have within := (List.getElem?_eq_some_iff.mp found).1
  rw [onMember_of_getElem? found]
  dsimp only
  rw [onMember_of_getElem? (List.getElem?_set_self within)]
  rw [List.set_set]

end Change

namespace Schedule

variable {schedule : Schedule K}

theorem patchBusBalance_perm (schedule : Schedule K) {instants others : List Nat}
    (same : instants.Perm others) :
    schedule.patchBusBalance instants = schedule.patchBusBalance others := by
  have patched (rows : Family (Row K)) :
      instants.foldl (fun rows instant =>
          rows.modify instant 0 (Row.setBoth (schedule.balanceLevel instant 0))) rows =
        others.foldl (fun rows instant =>
          rows.modify instant 0 (Row.setBoth (schedule.balanceLevel instant 0))) rows := by
    refine same.foldl_eq' (fun one _ other _ rows => ?_) rows
    by_cases equal : one = other
    · rw [equal]
    · exact rows.modify_modify (fun pairs => equal (congrArg Prod.fst pairs)) _ _
  unfold patchBusBalance
  simp only [patched]

/-- What the networks stay while entries are handed on. -/
structure Handing (schedule : Schedule K) (networks : List (Network K)) : Prop where
  forwarding : schedule.Forwarding networks
  shapes : ∀ network ∈ networks, network.intervals = 1 ∧ network.nodes = schedule.nodes

theorem Handing.next {networks : List (Network K)} (handing : schedule.Handing networks)
    {entry : Nat} (entry_lt : entry < schedule.extent) (value : K) (abstract : Mode) :
    schedule.Handing (forwardEntry schedule.horizon value entry abstract networks).state where
  forwarding := handing.forwarding.next entry_lt value abstract
  shapes network member := by
    have kept : List.Forall₂ Network.Reloaded networks
        (forwardEntry schedule.horizon value entry abstract networks).state :=
      Change.onMember_forall₂ (fun network => show network.Reloaded network from rfl)
        (fun network => Network.reloaded_setDemand (.subset [entry / schedule.horizon] true)
          [value] .quiet abstract network) _ _ networks
    obtain ⟨earlier, there, reloaded⟩ := Change.mem_of_forall₂ kept member
    obtain ⟨intervals, nodes⟩ := handing.shapes earlier there
    exact ⟨(congrArg Network.intervals reloaded).trans intervals,
      (congrArg Network.nodes reloaded).trans nodes⟩

/-- Two entries go to different networks, or to different nodes of one. -/
theorem Handing.exchange {networks : List (Network K)} (handing : schedule.Handing networks)
    {one other : Nat} (one_lt : one < schedule.extent) (other_lt : other < schedule.extent)
    (apart : one ≠ other) (value next : K) (abstract : Mode) :
    (forwardEntry schedule.horizon next other abstract
        (forwardEntry schedule.horizon value one abstract networks).state).state =
      (forwardEntry schedule.horizon value one abstract
        (forwardEntry schedule.horizon next other abstract networks).state).state := by
  by_cases together : one % schedule.horizon = other % schedule.horizon
  · have sound := handing.forwarding.sound.stocked
    have several := handing.forwarding.several
    obtain ⟨-, network, found, fits, one_within⟩ := sound.network_of_entry several one_lt
    obtain ⟨-, again, there, -, other_within⟩ := sound.network_of_entry several other_lt
    have here : networks[other % schedule.horizon]? = some network := by
      rw [← together]
      exact found
    cases here.symm.trans there
    obtain ⟨single, -⟩ := handing.shapes network (List.mem_of_getElem? here)
    have alone {node : Nat} (within : node < network.extent) : node / network.nodes = 0 := by
      rw [Network.extent, single, Nat.one_mul] at within
      exact Nat.div_eq_of_lt within
    have nodes : one / schedule.horizon ≠ other / schedule.horizon := fun same =>
      Network.places_apart schedule.horizon apart (Prod.ext same together)
    unfold forwardEntry
    rw [together, Change.onMember_same here, Change.onMember_same here]
    exact congrArg (networks.set (other % schedule.horizon))
      (Network.setDemand_setDemand fits.shaped one_within other_within nodes
        ((alone one_within).trans (alone other_within).symm) value next abstract)
  · exact Change.onMember_onMember together _ _ _ _ networks

/-- The order in which entries are handed on makes no difference. -/
theorem forwardDemand_perm (handing : schedule.Handing schedule.networks)
    {entries others : List Nat} (same : entries.Perm others)
    (within : ∀ entry ∈ entries, entry < schedule.extent) (abstract : Mode) :
    forwardDemand entries abstract schedule = forwardDemand others abstract schedule := by
  let hand (entry : Nat) : Change (List (Network K)) Outcome :=
    forwardEntry schedule.horizon (schedule.demand.getD entry 0) entry abstract
  have accepted (entry : Nat) (member : entry ∈ entries) (networks : List (Network K))
      (handing : schedule.Handing networks) : ∃ after answer,
        hand entry networks = ⟨after, [], .ok answer⟩ ∧ schedule.Handing after := by
    obtain ⟨outcome, run, -⟩ := handing.forwarding.sound.forwardEntry_accepted
      handing.forwarding.several (within entry member) (schedule.demand.getD entry 0) abstract
    exact ⟨_, outcome, run, handing.next (within entry member) _ abstract⟩
  have commutes (one : Nat) (member : one ∈ entries) (other : Nat) (later : other ∈ entries)
      (apart : one ≠ other) (networks : List (Network K)) (handing : schedule.Handing networks) :
      (hand other (hand one networks).state).state =
        (hand one (hand other networks).state).state :=
    handing.exchange (within one member) (within other later) apart
      (schedule.demand.getD one 0) (schedule.demand.getD other 0) abstract
  have handed : Change.forAll entries hand schedule.networks =
      Change.forAll others hand schedule.networks :=
    Change.forAll_perm schedule.Handing same accepted commutes handing
  unfold forwardDemand onNetworks
  rw [Change.current_bind, Change.current_bind, Change.onPart_apply, Change.onPart_apply]
  rw [show Change.forAll entries _ schedule.networks = _ from handed]

theorem readdressable_setDemand {allowed : Mode → Prop} (arises : schedule.Arises allowed)
    (physical abstract : Mode) :
    Readdressable (fun address values => setDemand address values physical abstract) schedule := by
  refine readdressable_of_interchangeable fun {_ _ _ _ others} alike => ?_
  refine alike.coincides (fun address values => setDemand_apply address values physical abstract
    schedule) fun first second within rearranges addressing => ?_
  rw [updateDemand_apply, updateDemand_apply, rearranges.differs, rearranges.write]
  dsimp only
  split
  · exact .refl _ _
  · split
    · exact .refl _ _
    · split
      · unfold withBusLevels
        simp only [patchBusBalance_perm _ rearranges.same]
        exact .of_notices fun recorded => by rw [Selection.record_congr (addressing recorded)]
      · rename_i several
        have written := arises.sound.withDemand
          (second.length_write arises.sound.stocked.demand 0 others)
        have handing : (schedule.withDemand
            (second.write schedule.demand schedule.extent 0 others)).Handing schedule.networks :=
          ⟨⟨written, show schedule.isBus = false by simpa using several⟩,
            fun _ member => arises.network_shape member⟩
        rw [forwardDemand_perm handing rearranges.same within]
        split
        · exact .refl _ _
        · exact .of_notices fun recorded => by rw [Selection.record_congr (addressing recorded)]

theorem readdressable_scalePlantAt (index : Nat) (physical abstract : Mode)
    (schedule : Schedule K) :
    Readdressable (fun address values => scalePlantAt index address values physical abstract)
      schedule := by
  refine readdressable_of_interchangeable fun alike => Coincides.bind ?_ _
  rw [onPlant_apply, onPlant_apply]
  cases schedule.plants[index]? with
  | none => exact .refl _ _
  | some plant =>
      obtain ⟨outcome, state, notices⟩ :=
        Plant.coincides_setScaleAt alike physical abstract plant
      exact ⟨outcome, by simp only [state], notices⟩

end Schedule

/-- In no state that a program can arrive at does it matter whether an update is addressed by a
range or by the list of its entries, nor in which order a list names different entries. -/
theorem readdressable_of_reachable (physical abstract : Mode) :
    (∀ plant : Plant Float, plant.Reachable →
      Readdressable (fun address values => Plant.setScaleAt address values physical abstract)
        plant) ∧
    (∀ network : Network Float, network.Reachable →
      Readdressable (fun address values => Network.setKappa address values physical abstract)
        network ∧
      Readdressable (fun address values => Network.setDemand address values physical abstract)
        network) ∧
    ∀ schedule : Schedule Float, schedule.Reachable →
      (∀ index, Readdressable (fun address values =>
        Schedule.scalePlantAt index address values physical abstract) schedule) ∧
      Readdressable (fun address values => Schedule.setDemand address values physical abstract)
        schedule :=
  ⟨fun plant _ => readdressable_of_interchangeable fun alike =>
      Plant.coincides_setScaleAt alike physical abstract plant,
    fun network _ => ⟨network.readdressable_setKappa physical abstract,
      network.readdressable_setDemand physical abstract⟩,
    fun schedule reachable => ⟨fun index =>
        schedule.readdressable_scalePlantAt index physical abstract,
      Schedule.readdressable_setDemand reachable.arises physical abstract⟩⟩

/-- Three entries of two networks with rows, in two orders. -/
theorem readdressable_of_reachable_duo :
    let generated := (Schedule.generateConstraints
      (Schedule.generateVariables Schedule.duo).state).state
    let first :=
      Schedule.setDemand (.subset [3, 0, 2] false) [5, 6, 7] (.notify 1) .quiet generated
    let second :=
      Schedule.setDemand (.subset [0, 2, 3] false) [6, 7, 5] (.notify 1) .quiet generated
    generated.Reachable ∧ first.result = .ok .applied ∧ second.result = .ok .applied ∧
      first.state = second.state ∧ first.notices = second.notices := by
  intro generated first second
  have reachable : generated.Reachable :=
    Schedule.reachable_duo.play [.generateVariables, .generateConstraints]
  have turned {α : Type} (head one other : α) : [head, one, other].Perm [one, other, head] :=
    (List.perm_append_singleton head [one, other]).symm
  have rearranged (head one other : Float) :
      Rearranged [3, 0, 2] [head, one, other] [0, 2, 3] [one, other, head] :=
    ⟨by decide, turned 3 0 2, rfl, turned (3, head) (0, one) (2, other)⟩
  have same := ((readdressable_of_reachable (.notify 1) .quiet).2.2 generated reachable).2.subset
    (rearranged 5 6 7) false false
  exact ⟨reachable, by decide +kernel, by decide +kernel, same.state, same.notices ⟨rfl, rfl⟩⟩

end Dispatch
