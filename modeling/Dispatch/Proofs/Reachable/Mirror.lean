import Dispatch.Proofs.Reachable.AllOrNothing
import Dispatch.Proofs.Reachable.Arising

namespace Dispatch

/-! What a schedule and its networks both hold: demand, which it hands on to them entry by entry,
and injection bounds, which follow from its plants. The copies agree, whatever the modes. -/

variable {K : Type} [Scalar K]

/-- The two values are the same, or a setter that holds the first takes the second for it. -/
def Agrees (first second : K) : Prop :=
  first = second ∨ (first == second) = true

theorem Scalar.getElem?_of_same {left right : List K} (same : Scalar.same left right = true)
    {position : Nat} (position_lt : position < left.length) :
    ∃ value, right[position]? = some value ∧ (left[position] == value) = true := by
  obtain ⟨lengths, equal⟩ := Bool.and_eq_true_iff.mp same
  have within : position < right.length := (of_decide_eq_true lengths) ▸ position_lt
  refine ⟨_, List.getElem?_eq_getElem within, ?_⟩
  refine List.all_eq_true.mp equal (left[position], right[position]) ?_
  exact List.mem_of_getElem? (i := position)
    (List.getElem?_zip_eq_some.mpr ⟨List.getElem?_eq_getElem position_lt,
      List.getElem?_eq_getElem within⟩)

namespace Network

/-- Whatever the abstract mode, the entry agrees with the value given and the others stay. -/
theorem agrees_setDemand {network : Network K} (shaped : network.Shaped) {entry : Nat}
    (entry_lt : entry < network.extent) (value : K) (abstract : Mode) :
    let after := (Network.setDemand (.subset [entry] true) [value] .quiet abstract network).state
    Agrees (after.demand.getD entry 0) value ∧
      ∀ other ≠ entry, after.demand.getD other 0 = network.demand.getD other 0 := by
  dsimp only
  rw [setDemand_apply, List.length_singleton, Address.select_single entry_lt "demand"]
  dsimp only
  rw [updateDemand_apply]
  split
  · rename_i kept
    refine ⟨.inr ?_, fun _ _ => rfl⟩
    have stored : Selection.stored network.demand 0 entry = network.demand.getD entry 0 := by
      unfold Selection.stored
      split
      · rename_i absent
        simp [List.isEmpty_iff.mp absent]
      · rfl
    simpa [Selection.differs, bne, stored] using kept
  · rw [if_neg (by decide)]
    dsimp only
    rw [(demand_withDemand network _ _ abstract).1]
    refine ⟨.inl ?_, fun other apart => ?_⟩
    · have length := Selection.length_materialise shaped.demand (0 : K)
      simp [Selection.write, length, entry_lt]
    · exact Selection.getD_write_of_not_mem _ _ _ _ _ (by simpa using apart)

/-- Demand and injection bounds are as they were. -/
structure SameLoad (before after : Network K) : Prop where
  demand : after.demand = before.demand
  extent : after.extent = before.extent
  minimum : after.minInjection = before.minInjection
  maximum : after.maxInjection = before.maxInjection

omit [Scalar K] in
theorem SameLoad.refl (network : Network K) : SameLoad network network :=
  ⟨rfl, rfl, rfl, rfl⟩

omit [Scalar K] in
theorem SameLoad.of_stripped {before after : Network K}
    (same : after.stripped = before.stripped) : SameLoad before after := by
  obtain ⟨demand, -, -, minimum, maximum⟩ := data_of_stripped same
  have extent : after.stripped.extent = before.stripped.extent := by rw [same]
  exact ⟨demand, extent, minimum, maximum⟩

omit [Scalar K] in
theorem SameLoad.step {target : Stage} {advance : Network K → Except Error (Network K)}
    (data : ∀ network result, advance network = .ok result →
      result.stripped = network.stripped) (network : Network K) :
    SameLoad network (Network.step target advance network).state :=
  step_preserves (.refl network) fun _ result advanced =>
    .of_stripped (data network result advanced)

theorem SameLoad.generateVariables (network : Network K) :
    SameLoad network (Network.generateVariables network).state :=
  .step (fun _ _ advanced => by cases advanced; rfl) network

theorem SameLoad.generateConstraints (network : Network K) :
    SameLoad network (Network.generateConstraints network).state :=
  .step (fun _ _ advanced => by rw [withConstraints_ok advanced]; rfl) network

omit [Scalar K] in
theorem SameLoad.generateObjective (network : Network K) :
    SameLoad network (Network.generateObjective network).state :=
  .step (fun _ _ advanced => by cases advanced; rfl) network

end Network

namespace Plant

structure SameSupply (before after : Plant K) : Prop where
  data : after.data = before.data
  scale : after.scale = before.scale

omit [Scalar K] in
theorem SameSupply.refl (plant : Plant K) : SameSupply plant plant := ⟨rfl, rfl⟩

omit [Scalar K] in
theorem SameSupply.step {target : Stage} {advance : Plant K → Plant K}
    (advances : ∀ plant, SameSupply plant (advance plant)) (plant : Plant K) :
    SameSupply plant (Plant.step target advance plant).state :=
  step_preserves (.refl plant) fun _ => advances plant

theorem SameSupply.generateVariables (plant : Plant K) :
    SameSupply plant (Plant.generateVariables plant).state :=
  have advances (plant : Plant K) : SameSupply plant plant.withVariables := ⟨rfl, rfl⟩
  .step advances plant

theorem SameSupply.generateConstraints (plant : Plant K) :
    SameSupply plant (Plant.generateConstraints plant).state :=
  have advances (plant : Plant K) : SameSupply plant plant.withConstraints := ⟨rfl, rfl⟩
  .step advances plant

theorem SameSupply.generateObjective (plant : Plant K) :
    SameSupply plant (Plant.generateObjective plant).state :=
  have advances (plant : Plant K) : SameSupply plant plant.withObjective := ⟨rfl, rfl⟩
  .step advances plant

end Plant

namespace Schedule

variable {before after schedule : Schedule K}

structure SameSupply (before after : Schedule K) : Prop where
  nodes : after.nodes = before.nodes
  generatorNode : after.generatorNode = before.generatorNode
  plants : List.Forall₂ Plant.SameSupply before.plants after.plants

omit [Scalar K] in
theorem SameSupply.of_eq (nodes : after.nodes = before.nodes)
    (generatorNode : after.generatorNode = before.generatorNode)
    (plants : after.plants = before.plants) : SameSupply before after :=
  ⟨nodes, generatorNode, plants ▸ List.forall₂_same.mpr fun plant _ => .refl plant⟩

theorem SameSupply.injections (same : SameSupply before after) (instant node : Nat) :
    after.minInjection instant node = before.minInjection instant node ∧
      after.maxInjection instant node = before.maxInjection instant node := by
  refine ⟨(foldl_generatorsAt_congr same.generatorNode.symm node (same.plants.imp ?_) 0).symm,
    (foldl_generatorsAt_congr same.generatorNode.symm node (same.plants.imp ?_) 0).symm⟩
  all_goals
    intro earlier later supply
    simp only [Plant.generators, Plant.minPower, Plant.maxPower, supply.data, supply.scale,
      implies_true, and_self]

theorem SameSupply.minima (same : SameSupply before after) (instant : Nat) :
    after.minima instant = before.minima instant := by
  rw [Schedule.minima, Schedule.minima, same.nodes]
  exact List.map_congr_left fun node _ => (same.injections instant node).1

theorem SameSupply.maxima (same : SameSupply before after) (instant : Nat) :
    after.maxima instant = before.maxima instant := by
  rw [Schedule.maxima, Schedule.maxima, same.nodes]
  exact List.map_congr_left fun node _ => (same.injections instant node).2

/-- Wherever no entry is still to be handed on, the network of the instant holds the demand. -/
def Mirrors (schedule : Schedule K) (pending : List Nat) : Prop :=
  ∀ (instant : Nat) (network : Network K), schedule.networks[instant]? = some network →
    ∀ node < schedule.nodes, node * schedule.horizon + instant ∉ pending →
      Agrees (network.demand.getD node 0) (schedule.demandAt node instant)

structure Mirrored (schedule : Schedule K) : Prop where
  demand : schedule.Mirrors []
  settled : schedule.stage.hasConstraints = true →
    ∀ (instant : Nat) (network : Network K), schedule.networks[instant]? = some network →
      network.Settled (schedule.minima instant) (schedule.maxima instant)

theorem Mirrors.congr {pending : List Nat} (mirrors : before.Mirrors pending)
    (nodes : after.nodes = before.nodes) (horizon : after.horizon = before.horizon)
    (demand : after.demand = before.demand)
    (networks : List.Forall₂ (fun before after : Network K => after.demand = before.demand)
      before.networks after.networks) : after.Mirrors pending := by
  intro instant network found node node_lt settled
  obtain ⟨earlier, there, same⟩ := Change.getElem?_of_forall₂ networks found
  rw [horizon] at settled
  rw [same, demandAt, demand, horizon]
  exact mirrors instant earlier there node (nodes ▸ node_lt) settled

theorem Mirrored.of_early (mirrors : schedule.Mirrors [])
    (early : schedule.stage.hasConstraints = false) : schedule.Mirrored :=
  ⟨mirrors, fun late => by rw [early] at late; cases late⟩

theorem Mirrored.of_isBus (bus : schedule.isBus = true) : schedule.Mirrored := by
  have none (instant : Nat) : schedule.networks[instant]? = none := by
    rw [List.isEmpty_iff.mp bus, List.getElem?_nil]
  constructor
  · intro instant network found
    cases (none instant).symm.trans found
  · intro _ instant network found
    cases (none instant).symm.trans found

theorem Mirrored.congr (mirrored : before.Mirrored) (supply : SameSupply before after)
    (horizon : after.horizon = before.horizon) (demand : after.demand = before.demand)
    (networks : List.Forall₂ Network.SameLoad before.networks after.networks)
    (stage : after.stage.hasConstraints = true → before.stage.hasConstraints = true) :
    after.Mirrored := by
  refine ⟨mirrored.demand.congr supply.nodes horizon demand (networks.imp fun _ _ same =>
    same.demand), fun late instant network found => ?_⟩
  obtain ⟨earlier, there, same⟩ := Change.getElem?_of_forall₂ networks found
  rw [supply.minima, supply.maxima]
  exact (mirrored.settled (stage late) instant earlier there).congr same.extent same.minimum
    same.maximum

theorem Mirrored.of_eq (mirrored : before.Mirrored) (nodes : after.nodes = before.nodes)
    (generatorNode : after.generatorNode = before.generatorNode)
    (plants : after.plants = before.plants) (horizon : after.horizon = before.horizon)
    (demand : after.demand = before.demand) (networks : after.networks = before.networks)
    (stage : after.stage = before.stage) : after.Mirrored :=
  mirrored.congr (.of_eq nodes generatorNode plants) horizon demand
    (networks ▸ List.forall₂_same.mpr fun network _ => .refl network)
    fun late => stage ▸ late

theorem Mirrored.addPlant (mirrored : schedule.Mirrored) (plant : Plant K) :
    (Schedule.addPlant plant schedule).state.Mirrored :=
  addPlant_preserves mirrored fun opened _ =>
    .of_early mirrored.demand (early_of_checkOpen opened)

theorem mirrored_setNetwork {result : Schedule K} {descriptor : Descriptor K}
    {generatorNode : List Nat} {before after : Nat}
    (created : schedule.setNetwork descriptor generatorNode before = (.ok result, after)) :
    result.Mirrored := by
  obtain ⟨opened, networks, rfl, ⟨-, attached⟩ | ⟨-, rfl, -⟩⟩ := setNetwork_eq_ok created
  · refine .of_early (fun instant network found node _ _ => ?_) (early_of_checkOpen opened)
    obtain ⟨id, rfl⟩ := (networksFor_new attached).2 network (List.mem_of_getElem? found)
    exact .inl (by simp [demandAt, Network.attach, Network.withFreeInjections])
  · exact .of_isBus rfl

theorem Mirrored.setNetworkConstants (mirrored : schedule.Mirrored) (constants : List K) :
    (Schedule.setNetworkConstants constants schedule).state.Mirrored := by
  rw [setNetworkConstants_apply]
  split
  · exact mirrored.of_eq rfl rfl rfl rfl rfl rfl rfl
  · split
    · exact mirrored
    · exact mirrored.congr (.of_eq rfl rfl rfl) rfl rfl
        (Change.mapIdx_forall₂ fun _ _ => ⟨rfl, rfl, rfl, rfl⟩) fun late => late

theorem Mirrored.withNotifier (mirrored : schedule.Mirrored) (notifier : NotifierKey) :
    (schedule.withNotifier notifier).Mirrored := by
  refine mirrored.congr ⟨rfl, rfl, ?_⟩ rfl rfl ?_ fun late => late
  · exact List.forall₂_map_right_iff.mpr (List.forall₂_same.mpr fun _ _ => ⟨rfl, rfl⟩)
  · exact List.forall₂_map_right_iff.mpr
      (List.forall₂_same.mpr fun _ _ => ⟨rfl, rfl, rfl, rfl⟩)

theorem Mirrored.generateVariables (mirrored : schedule.Mirrored) :
    (Schedule.generateVariables schedule).state.Mirrored := by
  obtain ⟨plants, networks, state, supplies, loads⟩ := stepMembers_forall₂
    Plant.SameSupply Network.SameLoad Plant.SameSupply.refl Network.SameLoad.refl
    Plant.SameSupply.generateVariables Network.SameLoad.generateVariables schedule
  have moved : (stepMembers Plant.generateVariables Network.generateVariables
      schedule).state.Mirrored := by
    rw [state]
    exact mirrored.congr ⟨rfl, rfl, supplies⟩ rfl rfl loads fun late => late
  exact step_preserves mirrored (fun _ _ _ => moved) fun _ _ _ => .of_early moved.demand rfl

theorem Mirrored.buildConstraints (mirrored : schedule.Mirrored)
    (early : schedule.stage.hasConstraints = false) :
    (∀ error, (Schedule.buildConstraints schedule).result = .error error →
      (Schedule.buildConstraints schedule).state.Mirrored) ∧
    ∀ answer, (Schedule.buildConstraints schedule).result = .ok answer →
      ((Schedule.buildConstraints schedule).state.atStage .constraints).Mirrored := by
  have still (network : Network K) : Network.Rebounded network network := rfl
  obtain ⟨bounded, refreshed, rebounded⟩ :
      ∃ networks, (refreshInjectionBounds .quiet schedule).state =
          schedule.withNetworks networks ∧
        List.Forall₂ Network.Rebounded schedule.networks networks :=
    ⟨_, rfl, Change.each_forall₂ still (fun _ network =>
      Network.rebounded_setInjectionBounds _ _ _ _ network) _⟩
  obtain ⟨plants, networks, stepped, supplies, loads⟩ := stepMembers_forall₂
    Plant.SameSupply Network.SameLoad Plant.SameSupply.refl Network.SameLoad.refl
    Plant.SameSupply.generateConstraints Network.SameLoad.generateConstraints
    (refreshInjectionBounds .quiet schedule).state
  have atBounds : (schedule.withNetworks bounded).Mirrors [] :=
    mirrored.demand.congr rfl rfl rfl (rebounded.imp fun _ _ moved => by rw [moved])
  rw [refreshed] at supplies loads
  have atStep : (schedule.withMembers plants networks).Mirrors [] :=
    atBounds.congr rfl rfl rfl (loads.imp fun _ _ same => same.demand)
  rcases buildConstraints_cases schedule with
    ⟨error, result, state⟩ | ⟨links, _, settles, _, _, state, result⟩
  · refine ⟨fun _ _ => ?_, fun answer accepted => ?_⟩
    · rcases state with state | state | state
      · rw [state]
        exact mirrored
      · rw [state, refreshed]
        exact .of_early atBounds early
      · rw [state, stepped, refreshed]
        exact .of_early atStep early
    · rw [result] at accepted
      cases accepted
  · refine ⟨fun error refused => ?_, fun _ _ => ?_⟩
    · rw [result] at refused
      cases refused
    · rw [state, stepped, refreshed]
      have settled := refreshInjectionBounds_settled settles
      rw [refreshed] at settled
      refine ⟨atStep, fun _ instant network found => ?_⟩
      obtain ⟨earlier, there, same⟩ := Change.getElem?_of_forall₂ loads found
      have supply : SameSupply schedule (schedule.withMembers plants networks) :=
        ⟨rfl, rfl, supplies⟩
      have fits := (settled instant earlier there).congr same.extent same.minimum same.maximum
      rw [← supply.minima, ← supply.maxima] at fits
      exact fits

theorem Mirrored.generateConstraints (mirrored : schedule.Mirrored) :
    (Schedule.generateConstraints schedule).state.Mirrored := by
  have early (entered : schedule.stage.enter .constraints = .ok .run) :
      schedule.stage.hasConstraints = false := by
    rw [Stage.enter_constraints entered]
    rfl
  exact step_preserves mirrored (fun entered => (mirrored.buildConstraints (early entered)).1)
    fun entered => (mirrored.buildConstraints (early entered)).2

theorem Mirrored.generateObjective (mirrored : schedule.Mirrored) :
    (Schedule.generateObjective schedule).state.Mirrored := by
  obtain ⟨plants, networks, stepped, supplies, loads⟩ := stepMembers_forall₂
    Plant.SameSupply Network.SameLoad Plant.SameSupply.refl Network.SameLoad.refl
    Plant.SameSupply.generateObjective Network.SameLoad.generateObjective schedule
  have moved : (schedule.withMembers plants networks).Mirrored :=
    mirrored.congr ⟨rfl, rfl, supplies⟩ rfl rfl loads fun late => late
  have built : (buildObjective schedule).state.Mirrored ∧
      (buildObjective schedule).state.stage = schedule.stage := by
    rw [buildObjective_apply]
    dsimp only
    split
    · rw [stepped]
      exact ⟨moved, rfl⟩
    · rw [stepped]
      exact ⟨moved.of_eq rfl rfl rfl rfl rfl rfl rfl, rfl⟩
  obtain ⟨kept, stage⟩ := built
  refine step_preserves mirrored (fun _ _ _ => kept) fun entered _ _ => ?_
  refine kept.congr (.of_eq rfl rfl rfl) rfl rfl
    (List.forall₂_same.mpr fun network _ => .refl network) fun _ => ?_
  rw [stage, Stage.enter_objective entered]
  rfl

theorem Sound.mirrored_scalePlantAt (sound : schedule.Sound) (mirrored : schedule.Mirrored)
    (index : Nat) (address : Address) (values : List K) (physical abstract : Mode) :
    (Schedule.scalePlantAt index address values physical abstract schedule).state.Mirrored := by
  rcases sound.scalePlantAt_state index address values physical abstract with
    still | ⟨plant, scale, objective, found, ⟨early, moved⟩ | ⟨_, networks, refreshed, moved⟩⟩
  · rw [still]
    exact mirrored
  · rw [moved]
    exact .of_early mirrored.demand early
  · let scaled := schedule.withScaled index plant scale objective
    have refreshed : refreshInjectionBounds abstract.silent scaled =
        ⟨scaled.withNetworks networks, [], .ok ⟨⟩⟩ := refreshed
    have rebounded := rebounded_of_refresh refreshed
    have settled := refreshInjectionBounds_settled
      (show (refreshInjectionBounds abstract.silent scaled).result = .ok ⟨⟩ by rw [refreshed])
    rw [refreshed] at settled
    have kept : (scaled.withNetworks networks).Mirrored :=
      ⟨mirrored.demand.congr rfl rfl rfl (rebounded.imp fun _ _ moved => by rw [moved]),
        fun _ => settled⟩
    rw [moved]
    split
    · obtain ⟨links, patched, -⟩ := sameFrame_patchPlant index (scaled.withNetworks networks)
      rw [patched]
      exact kept.of_eq rfl rfl rfl rfl rfl rfl rfl
    · exact kept

/-- Handing on an entry makes the network of its instant agree on it, and nothing else moves. -/
theorem Forwarding.mirrors {networks : List (Network K)}
    (forwarding : schedule.Forwarding networks) {entry : Nat} {rest : List Nat}
    (entry_lt : entry < schedule.extent)
    (mirrors : (schedule.withNetworks networks).Mirrors (entry :: rest)) (abstract : Mode) :
    (schedule.withNetworks (forwardEntry schedule.horizon (schedule.demand.getD entry 0) entry
      abstract networks).state).Mirrors rest := by
  obtain ⟨positive, receiver, there, sound, node_lt⟩ :
      0 < schedule.horizon ∧ ∃ network, networks[entry % schedule.horizon]? = some network ∧
        network.Sound ∧ entry / schedule.horizon < network.extent :=
    forwarding.sound.stocked.network_of_entry forwarding.several entry_lt
  have mirrors (instant : Nat) (network : Network K) (found : networks[instant]? = some network)
      (node : Nat) (within : node < schedule.nodes)
      (waiting : node * schedule.horizon + instant ∉ entry :: rest) :
      Agrees (network.demand.getD node 0) (schedule.demandAt node instant) :=
    mirrors instant network found node within waiting
  obtain ⟨agrees, others⟩ := Network.agrees_setDemand sound.shaped node_lt
    (schedule.demand.getD entry 0) abstract
  intro instant network found node within settled
  change (forwardEntry schedule.horizon _ entry abstract networks).state[instant]? = _ at found
  change node < schedule.nodes at within
  change node * schedule.horizon + instant ∉ rest at settled
  change Agrees _ (schedule.demandAt node instant)
  rw [forwardEntry, Change.onMember_of_getElem? there] at found
  dsimp only at found
  by_cases here : entry % schedule.horizon = instant
  · subst here
    rw [List.getElem?_set_self (List.getElem?_eq_some_iff.mp there).1] at found
    cases found
    by_cases same : node = entry / schedule.horizon
    · subst same
      rw [demandAt, Nat.div_add_mod']
      exact agrees
    · rw [others node same]
      refine mirrors _ receiver there node within fun listed => ?_
      rcases List.mem_cons.mp listed with again | later
      · refine same ?_
        rw [← again, Nat.mul_comm, Nat.mul_add_div positive,
          Nat.div_eq_of_lt (Nat.mod_lt _ positive), Nat.add_zero]
      · exact settled later
  · rw [List.getElem?_set_ne here] at found
    refine mirrors instant network found node within fun listed => ?_
    rcases List.mem_cons.mp listed with again | later
    · refine here ?_
      have instant_lt : instant < schedule.horizon := by
        rw [← show networks.length = schedule.horizon from
          forwarding.sound.stocked.count forwarding.several]
        exact (List.getElem?_eq_some_iff.mp found).1
      rw [← again, Nat.mul_add_mod', Nat.mod_eq_of_lt instant_lt]
    · exact settled later

theorem Forwarding.mirrors_forAll {networks : List (Network K)}
    (forwarding : schedule.Forwarding networks) {entries : List Nat}
    (within : ∀ entry ∈ entries, entry < schedule.extent)
    (mirrors : (schedule.withNetworks networks).Mirrors entries) (abstract : Mode) :
    (schedule.withNetworks (Change.forAll entries (fun entry =>
      forwardEntry schedule.horizon (schedule.demand.getD entry 0) entry abstract)
      networks).state).Mirrors [] := by
  induction entries generalizing networks with
  | nil => exact mirrors
  | cons entry rest induction =>
      have entry_lt := within entry (by simp)
      obtain ⟨outcome, accepted, -⟩ : ∃ outcome, forwardEntry schedule.horizon
          (schedule.demand.getD entry 0) entry abstract networks =
            ⟨(forwardEntry schedule.horizon (schedule.demand.getD entry 0) entry abstract
              networks).state, [], .ok outcome⟩ ∧ _ :=
        forwarding.sound.forwardEntry_accepted forwarding.several entry_lt _ abstract
      rw [Change.forAll_cons, Change.bind_ok accepted, Effect.after_nil]
      exact induction (forwarding.next entry_lt _ abstract)
        (fun other later => within other (by simp [later]))
        (forwarding.mirrors entry_lt mirrors abstract)

theorem Sound.mirrored_forwardDemand (sound : schedule.Sound) (several : schedule.isBus = false)
    {entries : List Nat} (within : ∀ entry ∈ entries, entry < schedule.extent)
    (mirrors : schedule.Mirrors entries)
    (settled : schedule.stage.hasConstraints = true →
      ∀ (instant : Nat) (network : Network K), schedule.networks[instant]? = some network →
        network.Settled (schedule.minima instant) (schedule.maxima instant)) (abstract : Mode) :
    (forwardDemand entries abstract schedule).state.Mirrored := by
  obtain ⟨networks, forwarded, reloaded⟩ := sound.forwardDemand_rest several within abstract
  have forwarding : schedule.Forwarding schedule.networks := ⟨sound, several⟩
  refine ⟨forwarding.mirrors_forAll within mirrors abstract, ?_⟩
  rw [forwarded]
  intro late instant network found
  obtain ⟨earlier, there, moved⟩ := Change.getElem?_of_forall₂ reloaded found
  rw [moved]
  exact (settled late instant earlier there).congr rfl rfl rfl

theorem Sound.mirrored_setDemand (sound : schedule.Sound) (mirrored : schedule.Mirrored)
    (address : Address) (values : List K) (physical abstract : Mode) :
    (Schedule.setDemand address values physical abstract schedule).state.Mirrored := by
  rcases setDemand_state address values physical abstract schedule with
    still | ⟨selection, selected, ⟨bus, moved⟩ | ⟨several, moved⟩⟩
  · rw [still]
    exact mirrored
  · rw [moved]
    refine .of_isBus ?_
    unfold Schedule.withBusLevels
    split <;> exact bus
  · have written := sound.withDemand (selection.length_write sound.stocked.demand (0 : K) values)
    rw [moved]
    refine written.mirrored_forwardDemand several (Address.select_sound selected).1
      (fun instant network found node node_lt outside => ?_) mirrored.settled abstract.silent
    rw [demandAt]
    change Agrees _ (List.getD (selection.write _ _ _ _) _ _)
    rw [selection.getD_write_of_not_mem _ _ _ _ outside]
    exact mirrored.demand instant network found node node_lt List.not_mem_nil

variable {allowed : Mode → Prop}

theorem Mirrored.perform (mirrored : schedule.Mirrored) (sound : schedule.Sound)
    (operation : Operation K) : (operation.perform schedule).Mirrored := by
  cases operation with
  | addPlant plant => exact mirrored.addPlant plant
  | setNetwork =>
      exact setNetwork_preserves mirrored fun created => mirrored_setNetwork created
  | setZoning need zoning =>
      cases need <;>
        exact whileOpen_preserves mirrored fun _ => mirrored.of_eq rfl rfl rfl rfl rfl rfl rfl
  | setEmissions emissions =>
      exact whileOpen_preserves mirrored fun _ => mirrored.of_eq rfl rfl rfl rfl rfl rfl rfl
  | withSettings settings => exact mirrored.of_eq rfl rfl rfl rfl rfl rfl rfl
  | withNotifier notifier => exact mirrored.withNotifier notifier
  | withData =>
      refine whileOpen_preserves mirrored fun opened => .of_early mirrored.demand ?_
      exact early_of_checkOpen opened
  | call step =>
      cases step with
      | generateVariables => exact mirrored.generateVariables
      | generateConstraints => exact mirrored.generateConstraints
      | generateObjective => exact mirrored.generateObjective
      | scalePlantAt index address values physical abstract =>
          exact sound.mirrored_scalePlantAt mirrored index address values physical abstract
      | setDemand address values physical abstract =>
          exact sound.mirrored_setDemand mirrored address values physical abstract
      | setNetworkConstants constants => exact mirrored.setNetworkConstants constants

theorem Arises.mirrored (arises : schedule.Arises allowed) : schedule.Mirrored := by
  induction arises with
  | start initial =>
      cases initial with
      | ofHorizon id horizon => exact .of_isBus rfl
  | step arises operation _ mirrored => exact mirrored.perform (Arises.sound arises) operation

theorem Sound.network_at (sound : schedule.Sound) (several : 1 < schedule.nodes)
    {instant : Nat} (instant_lt : instant < schedule.horizon) :
    schedule.isBus = false ∧ ∃ network, schedule.networks[instant]? = some network := by
  have networks : schedule.isBus = false := by
    cases bus : schedule.isBus with
    | false => rfl
    | true =>
        rcases sound.stocked.single bus with single | none
        · omega
        · omega
  have there : instant < schedule.networks.length := by
    rw [sound.stocked.count networks]
    exact instant_lt
  exact ⟨networks, _, List.getElem?_eq_getElem there⟩

end Schedule

theorem Network.Settled.agrees {network : Network K} {minimum maximum : List K}
    (settled : network.Settled minimum maximum) {node : Nat} (node_lt : node < network.extent) :
    ∃ lowest highest low high, minimum[node]? = some lowest ∧ maximum[node]? = some highest ∧
      network.minInjection[node]? = some low ∧ network.maxInjection[node]? = some high ∧
      Agrees lowest low ∧ Agrees highest high := by
  have first_lt : node < minimum.length := settled.minFits ▸ node_lt
  have second_lt : node < maximum.length := settled.maxFits ▸ node_lt
  rcases settled.kept with same | ⟨lows, highs⟩
  · obtain ⟨lows, highs⟩ := Bool.and_eq_true_iff.mp same
    obtain ⟨low, there, equal⟩ := Scalar.getElem?_of_same lows first_lt
    obtain ⟨high, found, alike⟩ := Scalar.getElem?_of_same highs second_lt
    exact ⟨_, _, low, high, List.getElem?_eq_getElem first_lt, List.getElem?_eq_getElem second_lt,
      there, found, .inr equal, .inr alike⟩
  · rw [lows, highs]
    exact ⟨_, _, _, _, List.getElem?_eq_getElem first_lt, List.getElem?_eq_getElem second_lt,
      List.getElem?_eq_getElem first_lt, List.getElem?_eq_getElem second_lt, .inl rfl, .inl rfl⟩

/-- Each network of several nodes holds the demand of its instant and, once there are rows, the
injections that the plants allow, whatever was called with whatever modes. -/
theorem Schedule.Reachable.networks_mirror {schedule : Schedule Float}
    (reachable : schedule.Reachable) (several : 1 < schedule.nodes) :
    ∀ instant < schedule.horizon, ∃ network, schedule.networks[instant]? = some network ∧
      network.intervals = 1 ∧ network.nodes = schedule.nodes ∧
      ∀ node < schedule.nodes,
        Agrees (network.demandAt 0 node) (schedule.demandAt node instant) ∧
        (schedule.stage.hasConstraints = true → ∃ low high,
          network.minInjection[node]? = some low ∧ network.maxInjection[node]? = some high ∧
          Agrees (schedule.minInjection instant node) low ∧
          Agrees (schedule.maxInjection instant node) high) := by
  intro instant instant_lt
  have arises := reachable.arises
  obtain ⟨-, network, found⟩ := arises.sound.network_at several instant_lt
  have member := List.mem_of_getElem? found
  have extent := arises.sound.stocked.extents network member
  obtain ⟨intervals, nodes⟩ := arises.network_shape member
  refine ⟨network, found, intervals, nodes, fun node node_lt => ⟨?_, fun late => ?_⟩⟩
  · rw [Network.demandAt_eq, Nat.zero_mul, Nat.zero_add]
    exact arises.mirrored.demand instant network found node node_lt List.not_mem_nil
  · obtain ⟨lowest, highest, low, high, least, most, there, held, lows, highs⟩ :=
      (arises.mirrored.settled late instant network found).agrees (extent ▸ node_lt)
    refine ⟨low, high, there, held, ?_, ?_⟩
    · rw [Schedule.minima, List.getElem?_map, List.getElem?_range node_lt] at least
      cases least
      exact lows
    · rw [Schedule.maxima, List.getElem?_map, List.getElem?_range node_lt] at most
      cases most
      exact highs

/-- The second plant is scaled by a call that leaves the generated model alone. -/
theorem Schedule.Reachable.networks_mirror_duo :
    let generated := (Schedule.generateConstraints
      (Schedule.generateVariables Schedule.duo).state).state
    let scaled := (Schedule.scalePlantAt 1 (.subset [0] true) [3] .default .dryRun generated).state
    scaled.Reachable ∧ 1 < scaled.nodes ∧ scaled.stage = .constraints ∧
      ∀ instant < 2, ∃ network, scaled.networks[instant]? = some network ∧
        ∀ node < 2, Agrees (network.demandAt 0 node) (scaled.demandAt node instant) ∧
          ∃ low high, network.minInjection[node]? = some low ∧
            network.maxInjection[node]? = some high ∧
            Agrees (scaled.minInjection instant node) low ∧
            Agrees (scaled.maxInjection instant node) high := by
  intro generated scaled
  have built : generated.Reachable :=
    reachable_duo.play [.generateVariables, .generateConstraints]
  have reachable : scaled.Reachable :=
    built.play [.scalePlantAt 1 (.subset [0] true) [3] .default .dryRun]
  obtain ⟨nodes, horizon, stage⟩ :=
    built.arises.sound.rest_scalePlantAt 1 (.subset [0] true) [3] .default .dryRun
  have nodes : scaled.nodes = 2 := nodes.trans (by decide +kernel)
  have horizon : scaled.horizon = 2 := horizon.trans (by decide +kernel)
  have stage : scaled.stage = .constraints := stage.trans (by decide +kernel)
  have several : 1 < scaled.nodes := by omega
  refine ⟨reachable, several, stage, fun instant instant_lt => ?_⟩
  obtain ⟨network, found, -, -, agree⟩ :=
    networks_mirror reachable several instant (by omega)
  refine ⟨network, found, fun node node_lt => ?_⟩
  obtain ⟨demand, bounds⟩ := agree node (by omega)
  exact ⟨demand, bounds (by rw [stage]; rfl)⟩

end Dispatch
