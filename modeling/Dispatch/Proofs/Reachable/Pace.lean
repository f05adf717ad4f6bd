import Dispatch.Proofs.Reachable.Publication

namespace Dispatch

/-! No member of a reachable schedule is behind it, and its networks are at its own stage over
the same data. So only the data of the networks can refuse a step that the schedule takes. -/

variable {K : Type} [Scalar K]

theorem Stage.enter_ok {stage target : Stage} (ready : target.predecessor.rank ≤ stage.rank) :
    ∃ action, stage.enter target = .ok action := by
  revert ready
  cases stage <;> cases target <;> simp [enter, reached, rank, predecessor]

omit [Scalar K] in
theorem Plant.step_accepted {target : Stage} {advance : Plant K → Plant K} {plant : Plant K}
    (ready : target.predecessor.rank ≤ plant.stage.rank) :
    Plant.step target advance plant =
      ⟨(Plant.step target advance plant).state, [], .ok ⟨⟩⟩ := by
  obtain ⟨action, entered⟩ := Stage.enter_ok ready
  rw [step_apply, entered]
  cases action <;> rfl

omit [Scalar K] in
theorem Plant.rank_of_step {target : Stage} {advance : Plant K → Plant K}
    (stage : ∀ plant, (advance plant).stage = target) {plant : Plant K}
    (ready : target.predecessor.rank ≤ plant.stage.rank) :
    target.rank ≤ (Plant.step target advance plant).state.stage.rank :=
  Plant.rank_of_step_ok advance stage (congrArg Effect.result (Plant.step_accepted ready))

namespace Network

/-- One of the networks over a topology of several nodes. -/
structure Sibling (topology : Topology K) (stage : Stage) (network : Network K) : Prop where
  attached : network.topology? = some topology
  intervals : network.intervals = 1
  several : 1 < topology.nodes
  paced : network.stage = stage
  injections : stage.hasVariables = true → network.nodeInjection.isEmpty = false

/-- What makes a network a sibling is as it was. -/
structure SameSite (before after : Network K) : Prop where
  topology : after.topology? = before.topology?
  intervals : after.intervals = before.intervals
  stage : after.stage = before.stage
  injections : after.nodeInjection = before.nodeInjection

variable {topology : Topology K} {stage : Stage} {network : Network K}

omit [Scalar K] in
theorem SameSite.refl (network : Network K) : SameSite network network :=
  ⟨rfl, rfl, rfl, rfl⟩

omit [Scalar K] in
theorem Sibling.congr {other : Network K} (sibling : network.Sibling topology stage)
    (same : SameSite network other) : other.Sibling topology stage where
  attached := same.topology.trans sibling.attached
  intervals := same.intervals.trans sibling.intervals
  several := sibling.several
  paced := same.stage.trans sibling.paced
  injections late := (congrArg Grid.isEmpty same.injections).trans (sibling.injections late)

omit [Scalar K] in
theorem Reloaded.sameSite {other : Network K} (reloaded : network.Reloaded other) :
    SameSite network other := by
  rw [reloaded]
  exact ⟨rfl, rfl, rfl, rfl⟩

omit [Scalar K] in
theorem Rebounded.sameSite {other : Network K} (rebounded : network.Rebounded other) :
    SameSite network other := by
  rw [rebounded]
  exact ⟨rfl, rfl, rfl, rfl⟩

omit [Scalar K] in
theorem Sibling.nodes (sibling : network.Sibling topology stage) :
    network.nodes = topology.nodes := by
  rw [Network.nodes, sibling.attached]

omit [Scalar K] in
/-- A network with variables has an injection for every node. -/
theorem Sibling.injectionVar? (sibling : network.Sibling topology stage)
    (late : stage.hasVariables = true) (node : Nat) :
    network.injectionVar? 0 node = some (network.store.cell network.nodeInjection 0 node) := by
  rw [Network.injectionVar?, Store.cell?, sibling.injections late, if_neg Bool.false_ne_true]

theorem sibling_attach (id : BlockId) {descriptor : Descriptor K} (notifier : NotifierKey)
    (several : 1 < descriptor.topology.nodes) :
    ({ (Network.bus id).attach (.shared descriptor) with notifier } : Network K).Sibling
      descriptor.topology .empty :=
  ⟨rfl, rfl, several, rfl, fun late => by cases late⟩

theorem Sibling.generateVariables (sibling : network.Sibling topology .empty) :
    Network.generateVariables network = ⟨network.withVariables, [], .ok ⟨⟩⟩ ∧
      network.withVariables.Sibling topology .vars := by
  have entered : network.stage.enter .vars = .ok .run := by
    rw [sibling.paced]
    rfl
  refine ⟨?_, sibling.attached, sibling.intervals, sibling.several, rfl, fun _ => ?_⟩
  · rw [Network.generateVariables, step_apply, entered]
  · have grid : network.withVariables.nodeInjection =
        ⟨network.store.size, network.intervals, network.nodes⟩ := by
      have several : decide (1 < network.nodes) = true := by
        rw [sibling.nodes]
        exact decide_eq_true sibling.several
      simp only [Network.withVariables, addGridIf, several]
      rfl
    have several := sibling.several
    simp only [grid, Grid.isEmpty, Grid.size, sibling.intervals, sibling.nodes, Nat.one_mul,
      beq_eq_false_iff_ne]
    omega

def withRowsOf (network : Network K) (topology : Topology K) : Network K :=
  { network with stage := .constraints, rows := network.rowsOf topology }

theorem Sibling.generateConstraints (sibling : network.Sibling topology .vars)
    (checked : network.checkTopology = .ok topology) :
    Network.generateConstraints network = ⟨network.withRowsOf topology, [], .ok ⟨⟩⟩ ∧
      (network.withRowsOf topology).Sibling topology .constraints := by
  have entered : network.stage.enter .constraints = .ok .run := by
    rw [sibling.paced]
    rfl
  have several : 1 < network.nodes := by
    rw [sibling.nodes]
    exact sibling.several
  refine ⟨?_, sibling.attached, sibling.intervals, sibling.several, rfl, fun _ =>
    sibling.injections rfl⟩
  rw [Network.generateConstraints, step_apply, entered, withConstraints, if_pos several, checked]
  rfl

theorem Sibling.generateConstraints_refused (sibling : network.Sibling topology .vars)
    {error : Error} (refused : network.checkTopology = .error error) :
    Network.generateConstraints network = ⟨network, [], .error error⟩ := by
  have entered : network.stage.enter .constraints = .ok .run := by
    rw [sibling.paced]
    rfl
  have several : 1 < network.nodes := by
    rw [sibling.nodes]
    exact sibling.several
  rw [Network.generateConstraints, step_apply, entered, withConstraints, if_pos several, refused]
  rfl

omit [Scalar K] in
theorem Sibling.generateObjective (sibling : network.Sibling topology .constraints) :
    Network.generateObjective network = ⟨network.withObjective, [], .ok ⟨⟩⟩ ∧
      network.withObjective.Sibling topology .objective := by
  have entered : network.stage.enter .objective = .ok .run := by
    rw [sibling.paced]
    rfl
  refine ⟨?_, sibling.attached, sibling.intervals, sibling.several, rfl, fun _ =>
    sibling.injections rfl⟩
  rw [Network.generateObjective, step_apply, entered]

theorem checkTopology_congr {other : Network K} (same : other.topology? = network.topology?) :
    other.checkTopology = network.checkTopology := by
  rw [checkTopology, checkTopology, same]

end Network

namespace Schedule

variable {before after schedule : Schedule K} {topology : Topology K}

structure Paced (schedule : Schedule K) : Prop where
  plants : ∀ plant ∈ schedule.plants, schedule.stage.rank ≤ plant.stage.rank
  networks : ∃ topology, ∀ network ∈ schedule.networks, network.Sibling topology schedule.stage

omit [Scalar K] in
theorem Paced.congr (paced : before.Paced) (stage : after.stage = before.stage)
    (plants : List.Forall₂ (fun before after : Plant K => after.stage = before.stage)
      before.plants after.plants)
    (networks : List.Forall₂ Network.SameSite before.networks after.networks) : after.Paced := by
  obtain ⟨topology, siblings⟩ := paced.networks
  refine ⟨fun plant member => ?_, topology, fun network member => ?_⟩
  · obtain ⟨earlier, listed, same⟩ := Change.mem_of_forall₂ plants member
    rw [same, stage]
    exact paced.plants earlier listed
  · obtain ⟨earlier, listed, same⟩ := Change.mem_of_forall₂ networks member
    rw [stage]
    exact (siblings earlier listed).congr same

omit [Scalar K] in
theorem Paced.of_eq (paced : before.Paced) (stage : after.stage = before.stage)
    (plants : after.plants = before.plants) (networks : after.networks = before.networks) :
    after.Paced :=
  paced.congr stage (plants ▸ List.forall₂_same.mpr fun _ _ => rfl)
    (networks ▸ List.forall₂_same.mpr fun network _ => .refl network)

omit [Scalar K] in
theorem empty_of_checkOpen {part : String} {answer : PUnit}
    (opened : schedule.checkOpen part = .ok answer) : schedule.stage = .empty := by
  unfold checkOpen at opened
  split at opened
  · cases opened
  · rename_i bare
    revert bare
    cases schedule.stage <;> simp [Stage.hasVariables, Stage.reached, Stage.rank]

omit [Scalar K] in
theorem Paced.addPlant (paced : schedule.Paced) (plant : Plant K) :
    (Schedule.addPlant plant schedule).state.Paced := by
  refine addPlant_preserves paced fun opened _ => ⟨fun member _ => ?_, paced.networks⟩
  rw [show (Schedule.stage _ : Stage) = .empty from empty_of_checkOpen opened]
  exact Nat.zero_le _

theorem Paced.setNetwork (paced : before.Paced) {descriptor : Descriptor K}
    {generatorNode : List Nat} {earlier later : Nat}
    (created : before.setNetwork descriptor generatorNode earlier = (.ok after, later)) :
    after.Paced := by
  obtain ⟨opened, networks, rfl, ⟨several, attached⟩ | ⟨-, rfl, -⟩⟩ := setNetwork_eq_ok created
  · refine ⟨paced.plants, descriptor.topology, fun network member => ?_⟩
    obtain ⟨id, rfl⟩ := (networksFor_new attached).2 network member
    rw [show (Schedule.stage _ : Stage) = .empty from empty_of_checkOpen opened]
    exact Network.sibling_attach id _ several
  · exact ⟨paced.plants, descriptor.topology, fun network member => by cases member⟩

theorem Paced.setNetworkConstants (paced : schedule.Paced) (constants : List K) :
    (Schedule.setNetworkConstants constants schedule).state.Paced := by
  rw [setNetworkConstants_apply]
  split
  · exact paced.of_eq rfl rfl rfl
  · split
    · exact paced
    · exact paced.congr rfl (List.forall₂_same.mpr fun _ _ => rfl)
        (Change.mapIdx_forall₂ fun _ _ => ⟨rfl, rfl, rfl, rfl⟩)

omit [Scalar K] in
theorem Paced.withNotifier (paced : schedule.Paced) (notifier : NotifierKey) :
    (schedule.withNotifier notifier).Paced :=
  paced.congr rfl (List.forall₂_map_right_iff.mpr (List.forall₂_same.mpr fun _ _ => rfl))
    (List.forall₂_map_right_iff.mpr
      (List.forall₂_same.mpr fun _ _ => ⟨rfl, rfl, rfl, rfl⟩))

theorem Sound.paced_scalePlantAt (sound : schedule.Sound) (paced : schedule.Paced)
    (index : Nat) (address : Address) (values : List K) (physical abstract : Mode) :
    (Schedule.scalePlantAt index address values physical abstract schedule).state.Paced := by
  refine (sound.accounted_scalePlantAt index address values physical abstract).preserves
    (sound.allOrNothing_scalePlantAt index address values physical abstract).atomic paced ?_
  rintro ⟨plant, rescaled, -, written, followed⟩
  refine paced.congr ?_ ?_ (followed.networks.imp fun _ _ rebounded => rebounded.sameSite)
  · rw [followed.rest]
  · rw [followed.plants]
    refine Change.set_forall₂ ?_ followed.found ?_
    · exact fun _ => rfl
    · rw [written.rest]

theorem Sound.paced_setDemand (sound : schedule.Sound) (paced : schedule.Paced)
    (address : Address) (values : List K) (physical abstract : Mode) :
    (Schedule.setDemand address values physical abstract schedule).state.Paced := by
  refine (sound.accounted_setDemand address values physical abstract).preserves
    (sound.update (.demand address values physical abstract)).atomic paced ?_
  rintro ⟨-, written⟩
  refine paced.congr ?_ ?_ (written.networks.imp fun _ _ reloaded => reloaded.sameSite)
  · rw [written.rest]
  · rw [written.rest]
    exact List.forall₂_same.mpr fun _ _ => rfl

omit [Scalar K] in
theorem stepMembers_accepted (target : Stage) (advance : Plant K → Plant K)
    (ready : ∀ plant ∈ schedule.plants, target.predecessor.rank ≤ plant.stage.rank)
    {networkStep : Change (Network K) PUnit} {networkNext : Network K → Network K}
    (networkSteps : ∀ network ∈ schedule.networks,
      networkStep network = ⟨networkNext network, [], .ok ⟨⟩⟩) :
    stepMembers (Plant.step target advance) networkStep schedule =
      ⟨schedule.withMembers
        (schedule.plants.map fun plant => (Plant.step target advance plant).state)
        (schedule.networks.map networkNext), [], .ok ⟨⟩⟩ := by
  have images : stepMembers (Plant.step target advance) networkStep (schedule.withMembers
        (schedule.plants.map fun plant => plant) (schedule.networks.map fun network => network)) =
      ⟨schedule.withMembers
        (schedule.plants.map fun plant => (Plant.step target advance plant).state)
        (schedule.networks.map networkNext), [], .ok ⟨⟩⟩ :=
    stepMembers_map (fun plant member => Plant.step_accepted (ready plant member))
      networkSteps schedule
  rwa [List.map_id', List.map_id'] at images

omit [Scalar K] in
/-- Members that reach a stage bring the schedule there. -/
theorem paced_of_members (target : Stage) (advance : Plant K → Plant K)
    (stage : ∀ plant, (advance plant).stage = target)
    (ready : ∀ plant ∈ schedule.plants, target.predecessor.rank ≤ plant.stage.rank)
    {networks : List (Network K)} (siblings : ∀ network ∈ networks,
      network.Sibling topology target) :
    ((schedule.withMembers (schedule.plants.map fun plant =>
      (Plant.step target advance plant).state) networks).atStage target).Paced := by
  refine ⟨fun plant member => ?_, topology, siblings⟩
  obtain ⟨earlier, listed, rfl⟩ := List.mem_map.mp member
  exact Plant.rank_of_step stage (ready earlier listed)

theorem Paced.generateVariables (paced : schedule.Paced) :
    ∃ after, Schedule.generateVariables schedule = ⟨after, [], .ok ⟨⟩⟩ ∧ after.Paced := by
  have ready : ∀ plant ∈ schedule.plants, Stage.vars.predecessor.rank ≤ plant.stage.rank :=
    fun plant _ => Nat.zero_le _
  obtain ⟨action, entered⟩ :
      ∃ action, schedule.stage.enter .vars = .ok action := Stage.enter_ok (Nat.zero_le _)
  cases action with
  | skip =>
      refine ⟨schedule, ?_, paced⟩
      rw [Schedule.generateVariables, step_apply, entered]
  | run =>
      obtain ⟨topology, siblings⟩ := paced.networks
      rw [Stage.enter_vars entered] at siblings
      have stepped := stepMembers_accepted .vars Plant.withVariables ready
        (fun network member => (siblings network member).generateVariables.1)
      have moved := paced_of_members .vars Plant.withVariables (fun _ => rfl) ready
        (List.forall_mem_map.mpr fun network member =>
          (siblings network member).generateVariables.2)
      exact ⟨_, step_run entered stepped, moved⟩

theorem Paced.generateObjective (paced : schedule.Paced) :
    (∃ error, Schedule.generateObjective schedule = ⟨schedule, [], .error error⟩) ∨
      ∃ after, Schedule.generateObjective schedule = ⟨after, [], .ok ⟨⟩⟩ ∧ after.Paced := by
  cases entered : schedule.stage.enter .objective with
  | error error =>
      refine .inl ⟨error, ?_⟩
      rw [Schedule.generateObjective, step_apply, entered]
  | ok action =>
      refine .inr ?_
      cases action with
      | skip =>
          refine ⟨schedule, ?_, paced⟩
          rw [Schedule.generateObjective, step_apply, entered]
      | run =>
          obtain ⟨topology, siblings⟩ := paced.networks
          have plants := paced.plants
          rw [Stage.enter_objective entered] at siblings plants
          have stepped := stepMembers_accepted .objective Plant.withObjective plants
            (fun network member => (siblings network member).generateObjective.1)
          have built := buildObjective_apply schedule
          rw [show stepMembers Plant.generateObjective Network.generateObjective schedule = _
            from stepped] at built
          have moved := paced_of_members .objective Plant.withObjective (fun _ => rfl) plants
            (List.forall_mem_map.mpr fun network member =>
              (siblings network member).generateObjective.2)
          exact ⟨_, step_run entered built, moved.of_eq rfl rfl rfl⟩

end Schedule

end Dispatch
