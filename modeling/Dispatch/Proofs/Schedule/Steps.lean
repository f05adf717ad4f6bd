import Dispatch.Proofs.Schedule.Generation

namespace Dispatch.Schedule

/-! Generation steps keep a schedule in step, also where they are refused on the way. -/

variable {K : Type} [Scalar K]

/-- Members that are later states of those of a schedule. -/
structure Onward (schedule : Schedule K) (plants : List (Plant K))
    (networks : List (Network K)) : Prop where
  plants : List.Forall₂ Plant.Onward schedule.plants plants
  networks : List.Forall₂ Network.Onward schedule.networks networks

/-- Later members in which the schedule finds what its rows read as it was. -/
structure Unmoved (schedule : Schedule K) (plants : List (Plant K))
    (networks : List (Network K)) : Prop where
  plants : List.Forall₂ Plant.SameCore schedule.plants plants
  networks : List.Forall₂ Network.SameBounds schedule.networks networks

theorem Members.onward {schedule : Schedule K} {stage : Stage}
    (members : schedule.Members stage) {plants : List (Plant K)} {networks : List (Network K)}
    (onward : schedule.Onward plants networks) :
    (schedule.withMembers plants networks).Members stage where
  plants plant present := by
    obtain ⟨earlier, member, moved⟩ := Change.mem_of_forall₂ onward.plants present
    exact moved.inStep (members.plants earlier member)
  plantStages plant present := by
    obtain ⟨earlier, member, moved⟩ := Change.mem_of_forall₂ onward.plants present
    exact Nat.le_trans (members.plantStages earlier member) moved.stage
  horizons plant present := by
    obtain ⟨earlier, member, moved⟩ := Change.mem_of_forall₂ onward.plants present
    exact moved.horizon.trans (members.horizons earlier member)
  networks network present := by
    obtain ⟨earlier, member, moved⟩ := Change.mem_of_forall₂ onward.networks present
    exact moved.inStep (members.networks earlier member)
  networkStages network present := by
    obtain ⟨earlier, member, moved⟩ := Change.mem_of_forall₂ onward.networks present
    exact Nat.le_trans (members.networkStages earlier member) moved.stage
  single bus := members.single ((Change.isEmpty_of_forall₂ onward.networks).symm.trans bus)

omit [Scalar K] in
theorem map_eq_of_forall₂ {α β : Type} {related : α → α → Prop} {view : α → β}
    {before after : List α} (members : List.Forall₂ related before after)
    (same : ∀ earlier ∈ before, ∀ later, related earlier later → view later = view earlier) :
    after.map view = before.map view := by
  induction members with
  | nil => rfl
  | cons head _ induction =>
      rw [List.map_cons, List.map_cons, same _ (by simp) _ head,
        induction fun earlier member => same earlier (by simp [member])]

theorem injections_of_forall₂ {before after : List (Network K)}
    (onward : List.Forall₂ Network.Onward before after)
    (generated : ∀ network ∈ before, network.stage.hasVariables = true) :
    after.map Network.injectionVar? = before.map Network.injectionVar? :=
  map_eq_of_forall₂ onward fun earlier member _ moved =>
    moved.injectionVar? (generated earlier member)

omit [Scalar K] in
theorem cores_of_forall₂ {before after : List (Plant K)}
    (same : List.Forall₂ Plant.SameCore before after)
    (generated : ∀ plant ∈ before, plant.stage.hasVariables = true) :
    after.map Plant.core = before.map Plant.core :=
  map_eq_of_forall₂ same fun earlier member _ still => still (generated earlier member)

theorem Members.hasVariables {schedule : Schedule K} {stage : Stage}
    (members : schedule.Members stage) (reached : stage.hasVariables = true) :
    (∀ plant ∈ schedule.plants, plant.stage.hasVariables = true) ∧
      ∀ network ∈ schedule.networks, network.stage.hasVariables = true := by
  have rank : Stage.vars.rank ≤ stage.rank := of_decide_eq_true reached
  exact ⟨fun plant member =>
      decide_eq_true (Nat.le_trans rank (members.plantStages plant member)),
    fun network member =>
      decide_eq_true (Nat.le_trans rank (members.networkStages network member))⟩

/-- The rows read the same of later members. -/
theorem Members.agree {schedule : Schedule K} {stage : Stage}
    (members : schedule.Members stage) (reached : stage.hasVariables = true)
    {plants : List (Plant K)} {networks : List (Network K)}
    (onward : schedule.Onward plants networks)
    (cores : List.Forall₂ Plant.SameCore schedule.plants plants) :
    Agree (schedule.withMembers plants networks) schedule where
  horizon := rfl
  nodes := rfl
  generatorNode := rfl
  zoning need := by cases need <;> rfl
  emissions := rfl
  cores := cores_of_forall₂ cores (members.hasVariables reached).1
  injections := injections_of_forall₂ onward.networks (members.hasVariables reached).2
  demand _ := rfl

/-- A schedule stays linked while its rows read the same and no injection bound moves. -/
theorem Linked.congr {before after : Schedule K} (linked : before.Linked)
    (agree : Agree after before) (links : after.links = before.links)
    (onward : List.Forall₂ Network.Onward before.networks after.networks)
    (bounds : List.Forall₂ Network.SameBounds before.networks after.networks) :
    after.Linked where
  valid := agree.validate.trans linked.valid
  heads := agree.hasHeads linked.heads
  links := by rw [links, linked.links, agree.linksNow]
  settled instant network found := by
    obtain ⟨earlier, there, moved⟩ := Change.getElem?_of_forall₂ onward found
    obtain ⟨_, there', still⟩ := Change.getElem?_of_forall₂ bounds found
    cases there.symm.trans there'
    rw [agree.minima, agree.maxima]
    exact (linked.settled instant earlier there).congr moved.extent still.minimum still.maximum

omit [Scalar K] in
/-- A refusal keeps the steps that were taken before it. -/
theorem stepMembers_forall₂ {plantStep : Change (Plant K) PUnit}
    {networkStep : Change (Network K) PUnit} (plantRelated : Plant K → Plant K → Prop)
    (networkRelated : Network K → Network K → Prop)
    (plantRefl : ∀ plant, plantRelated plant plant)
    (networkRefl : ∀ network, networkRelated network network)
    (plantSteps : ∀ plant, plantRelated plant (plantStep plant).state)
    (networkSteps : ∀ network, networkRelated network (networkStep network).state)
    (schedule : Schedule K) :
    ∃ plants networks,
      (stepMembers plantStep networkStep schedule).state =
        schedule.withMembers plants networks ∧
      List.Forall₂ plantRelated schedule.plants plants ∧
      List.Forall₂ networkRelated schedule.networks networks := by
  have plants : List.Forall₂ plantRelated schedule.plants
      (Change.each (fun _ => plantStep) schedule.plants).state :=
    Change.each_forall₂ plantRefl (fun _ plant => plantSteps plant) _
  unfold stepMembers onPlants onNetworks
  rw [Change.bind_apply, Change.onPart_apply]
  dsimp only
  split
  · exact ⟨_, schedule.networks, rfl, plants,
      List.forall₂_same.mpr fun network _ => networkRefl network⟩
  · exact ⟨_, _, rfl, plants,
      Change.each_forall₂ networkRefl (fun _ network => networkSteps network) _⟩

theorem stepMembers_onward {plantStep : Change (Plant K) PUnit}
    {networkStep : Change (Network K) PUnit}
    (plantSteps : ∀ plant, Plant.Onward plant (plantStep plant).state ∧
      plant.SameCore (plantStep plant).state)
    (networkSteps : ∀ network, Network.Onward network (networkStep network).state ∧
      Network.SameBounds network (networkStep network).state) (schedule : Schedule K) :
    ∃ plants networks,
      (stepMembers plantStep networkStep schedule).state =
        schedule.withMembers plants networks ∧
      schedule.Onward plants networks ∧ schedule.Unmoved plants networks := by
  obtain ⟨plants, networks, state, plantsMoved, networksMoved⟩ := stepMembers_forall₂
    (fun before after => Plant.Onward before after ∧ before.SameCore after)
    (fun before after => Network.Onward before after ∧ Network.SameBounds before after)
    (fun plant => ⟨Plant.Onward.refl plant, fun _ => rfl⟩)
    (fun network => ⟨Network.Onward.refl network, rfl, rfl⟩) plantSteps networkSteps schedule
  exact ⟨plants, networks, state,
    ⟨plantsMoved.imp fun _ _ moved => moved.1, networksMoved.imp fun _ _ moved => moved.1⟩,
    ⟨plantsMoved.imp fun _ _ moved => moved.2, networksMoved.imp fun _ _ moved => moved.2⟩⟩

omit [Scalar K] in
theorem stepMembers_of_ok {plantStep : Change (Plant K) PUnit}
    {networkStep : Change (Network K) PUnit} {schedule : Schedule K}
    (accepted : (stepMembers plantStep networkStep schedule).result = .ok ⟨⟩) :
    (stepMembers plantStep networkStep schedule).state =
        schedule.withMembers (schedule.plants.map fun plant => (plantStep plant).state)
          (schedule.networks.map fun network => (networkStep network).state) ∧
      (∀ plant ∈ schedule.plants, ∃ answer, (plantStep plant).result = .ok answer) ∧
      ∀ network ∈ schedule.networks, ∃ answer, (networkStep network).result = .ok answer := by
  unfold stepMembers onPlants onNetworks at accepted ⊢
  rw [Change.bind_apply, Change.onPart_apply] at accepted ⊢
  dsimp only at accepted ⊢
  cases first : (Change.each (fun _ => plantStep) schedule.plants).result with
  | error error => simp [first] at accepted
  | ok answer =>
      rw [first] at accepted
      obtain ⟨plants, plantAnswers⟩ := Change.each_map_of_ok plantStep first
      obtain ⟨networks, networkAnswers⟩ := Change.each_map_of_ok networkStep
        (show (Change.each (fun _ => networkStep) schedule.networks).result = _ from accepted)
      refine ⟨?_, plantAnswers, networkAnswers⟩
      rw [← plants, ← networks]
      rfl

/-- Later members leave a schedule without rows in step, which may have reached a new stage
with them. -/
theorem InStep.early {schedule : Schedule K} (inStep : schedule.InStep)
    (early : schedule.stage.hasConstraints = false) {plants : List (Plant K)}
    {networks : List (Network K)} {stage : Stage} (before : stage.hasConstraints = false)
    (members : (schedule.withMembers plants networks).Members stage) :
    ((schedule.withMembers plants networks).atStage stage).InStep where
  members := ⟨members.plants, members.plantStages, members.horizons, members.networks,
    members.networkStages, members.single⟩
  linked late := by
    rw [show ((schedule.withMembers plants networks).atStage stage).stage = stage from rfl,
      before] at late
    cases late
  unlinked _ := inStep.unlinked early
  objective := by
    have unset := inStep.objective
    rw [Stage.hasObjective_of_early early] at unset
    change schedule.objective = if stage.hasObjective then _ else _
    rw [Stage.hasObjective_of_early before]
    exact unset

/-- A step that no member refuses brings all of them to its stage. -/
theorem Members.reached (target : Stage) {plantStep : Change (Plant K) PUnit}
    {networkStep : Change (Network K) PUnit} {schedule : Schedule K} {stage : Stage}
    (members : (stepMembers plantStep networkStep schedule).state.Members stage)
    (accepted : (stepMembers plantStep networkStep schedule).result = .ok ⟨⟩)
    (plants : ∀ {plant answer}, (plantStep plant).result = .ok answer →
      target.rank ≤ (plantStep plant).state.stage.rank)
    (networks : ∀ {network answer}, (networkStep network).result = .ok answer →
      target.rank ≤ (networkStep network).state.stage.rank) :
    (stepMembers plantStep networkStep schedule).state.Members target := by
  obtain ⟨states, plantAnswers, networkAnswers⟩ := stepMembers_of_ok accepted
  rw [states] at members ⊢
  refine { members with plantStages := ?_, networkStages := ?_ }
  · intro plant present
    obtain ⟨earlier, member, rfl⟩ := List.mem_map.mp present
    obtain ⟨answer, taken⟩ := plantAnswers earlier member
    exact plants taken
  · intro network present
    obtain ⟨earlier, member, rfl⟩ := List.mem_map.mp present
    obtain ⟨answer, taken⟩ := networkAnswers earlier member
    exact networks taken

theorem InStep.generateVariables {schedule : Schedule K} (inStep : schedule.InStep) :
    (Schedule.generateVariables schedule).state.InStep := by
  unfold Schedule.generateVariables
  rw [step_apply]
  cases entered : schedule.stage.enter .vars with
  | error error => exact inStep
  | ok action =>
      cases action with
      | skip => exact inStep
      | run =>
          have early : schedule.stage.hasConstraints = false := by
            rw [Stage.enter_vars entered]
            rfl
          obtain ⟨plants, networks, state, onward, -⟩ := stepMembers_onward
            Plant.Onward.generateVariables Network.Onward.generateVariables schedule
          have members := inStep.members.onward onward
          dsimp only
          cases result : (stepMembers Plant.generateVariables Network.generateVariables
              schedule).result with
          | error error =>
              dsimp only
              rw [state]
              exact inStep.early early early members
          | ok answer =>
              have reached := Members.reached .vars (state ▸ members) result
                (Plant.rank_of_step_ok Plant.withVariables fun _ => rfl)
                (Network.rank_of_step_ok fun _ _ advanced => by cases advanced; rfl)
              dsimp only
              rw [state] at reached ⊢
              exact inStep.early early rfl reached

/-- Bounds that no network refuses settle all of them. -/
theorem refreshInjectionBounds_settled {schedule : Schedule K} {abstract : Mode}
    (accepted : (refreshInjectionBounds abstract schedule).result = .ok ⟨⟩)
    (instant : Nat) (network : Network K)
    (found : (refreshInjectionBounds abstract schedule).state.networks[instant]? =
      some network) :
    network.Settled (schedule.minima instant) (schedule.maxima instant) := by
  rw [refreshInjectionBounds_apply] at accepted found
  obtain ⟨states, answers⟩ := Change.each_of_ok accepted
  change (Change.each _ schedule.networks).state[instant]? = some network at found
  rw [states, List.getElem?_mapIdx] at found
  obtain ⟨earlier, there, rfl⟩ := Option.map_eq_some_iff.mp found
  obtain ⟨outcome, answer⟩ := answers instant earlier there
  exact Network.settled_of_setInjectionBounds rfl answer

/-- Whether or not a network refuses its bounds, all networks move on. -/
theorem refreshInjectionBounds_onward (schedule : Schedule K) {abstract : Mode}
    (writes : abstract.writes = true) :
    ∃ networks, (refreshInjectionBounds abstract schedule).state =
        schedule.withNetworks networks ∧
      List.Forall₂ Network.Onward schedule.networks networks :=
  ⟨_, rfl, Change.each_forall₂ Network.Onward.refl (fun _ network =>
    Network.Onward.setInjectionBounds network _ _ _ writes) _⟩

/-- The networks take their bounds, and then all members take the step, as far as none refuses. -/
theorem stepConstraints_onward (schedule : Schedule K) :
    ∃ bounded plants networks,
      (refreshInjectionBounds .quiet schedule).state = schedule.withNetworks bounded ∧
      (stepMembers Plant.generateConstraints Network.generateConstraints
          (refreshInjectionBounds .quiet schedule).state).state =
        schedule.withMembers plants networks ∧
      schedule.Onward schedule.plants bounded ∧
      (schedule.withNetworks bounded).Onward plants networks ∧
      (schedule.withNetworks bounded).Unmoved plants networks := by
  obtain ⟨bounded, refreshed, bounding⟩ :=
    refreshInjectionBounds_onward schedule (show Mode.quiet.writes = true from rfl)
  obtain ⟨plants, networks, stepped, onward, unmoved⟩ := stepMembers_onward
    Plant.Onward.generateConstraints Network.Onward.generateConstraints
    (schedule.withNetworks bounded)
  refine ⟨bounded, plants, networks, refreshed, ?_, ⟨?_, bounding⟩, onward, unmoved⟩
  · rw [refreshed]
    exact stepped
  · exact List.forall₂_same.mpr fun plant _ => Plant.Onward.refl plant

/-- Families that are built of members with settled bounds are those of the schedule. -/
theorem Members.linked {schedule : Schedule K} {stage : Stage}
    (members : schedule.Members stage) (reached : stage.hasVariables = true)
    (valid : schedule.validate = .ok ()) {bounded networks : List (Network K)}
    {plants : List (Plant K)} (bounding : schedule.Onward schedule.plants bounded)
    (settled : ∀ (instant : Nat) (network : Network K), bounded[instant]? = some network →
      network.Settled (schedule.minima instant) (schedule.maxima instant))
    (onward : (schedule.withNetworks bounded).Onward plants networks)
    (unmoved : (schedule.withNetworks bounded).Unmoved plants networks) {links : List (Link K)}
    (built : (schedule.withMembers plants networks).linksOf = .ok links) :
    ((schedule.withMembers plants networks).withLinks links).Linked := by
  have first : Agree (schedule.withNetworks bounded) schedule :=
    members.agree reached bounding (List.forall₂_same.mpr fun _ _ _ => rfl)
  have second : Agree (schedule.withMembers plants networks) (schedule.withNetworks bounded) :=
    (members.onward bounding).agree reached onward unmoved.plants
  obtain ⟨heads, links⟩ := linksOf_ok.mp built
  refine ⟨second.validate.trans (first.validate.trans valid), heads, links, ?_⟩
  intro instant network found
  obtain ⟨earlier, there, moved⟩ := Change.getElem?_of_forall₂ onward.networks found
  obtain ⟨_, there', still⟩ := Change.getElem?_of_forall₂ unmoved.networks found
  cases there.symm.trans there'
  have fits := (settled instant earlier there).congr moved.extent still.minimum still.maximum
  rw [← first.minima, ← second.minima, ← first.maxima, ← second.maxima] at fits
  exact fits

theorem InStep.generateConstraints {schedule : Schedule K} (inStep : schedule.InStep) :
    (Schedule.generateConstraints schedule).state.InStep := by
  unfold Schedule.generateConstraints
  rw [step_apply]
  cases entered : schedule.stage.enter .constraints with
  | error error => exact inStep
  | ok action =>
      cases action with
      | skip => exact inStep
      | run =>
          have start := Stage.enter_constraints entered
          have early : schedule.stage.hasConstraints = false := by
            rw [start]
            rfl
          obtain ⟨bounded, plants, networks, refreshed, stepped, bounding, onward, unmoved⟩ :=
            stepConstraints_onward schedule
          have boundedMembers := inStep.members.onward bounding
          have members : (schedule.withMembers plants networks).Members schedule.stage :=
            boundedMembers.onward onward
          dsimp only
          rcases buildConstraints_cases schedule with
            ⟨error, result, untouched | atBounds | atStep⟩ |
            ⟨links, valid, settles, steps, linked, state, result⟩
          · rw [result]
            dsimp only
            rw [untouched]
            exact inStep
          · rw [result]
            dsimp only
            rw [atBounds, refreshed]
            exact inStep.early early early boundedMembers
          · rw [result]
            dsimp only
            rw [atStep, stepped]
            exact inStep.early early early members
          · have settled := refreshInjectionBounds_settled settles
            have reached := Members.reached .constraints (stepped ▸ members) steps
              (Plant.rank_of_step_ok Plant.withConstraints fun _ => rfl)
              (Network.rank_of_step_ok fun _ _ advanced => by
                rw [Network.withConstraints_ok advanced])
            rw [result]
            dsimp only
            rw [state]
            rw [stepped] at reached linked ⊢
            rw [refreshed] at settled
            have linked := inStep.members.linked (by rw [start]; rfl) valid bounding settled onward
              unmoved linked
            refine ⟨⟨reached.plants, reached.plantStages, reached.horizons, reached.networks,
              reached.networkStages, reached.single⟩,
              fun _ => ⟨linked.valid, linked.heads, linked.links, linked.settled⟩,
              fun early => (by cases early), ?_⟩
            have unset := inStep.objective
            rw [start] at unset
            exact unset

theorem InStep.generateObjective {schedule : Schedule K} (inStep : schedule.InStep) :
    (Schedule.generateObjective schedule).state.InStep := by
  unfold Schedule.generateObjective
  rw [step_apply]
  cases entered : schedule.stage.enter .objective with
  | error error => exact inStep
  | ok action =>
      cases action with
      | skip => exact inStep
      | run =>
          have start := Stage.enter_objective entered
          have late : schedule.stage.hasConstraints = true := by
            rw [start]
            rfl
          have variables? : schedule.stage.hasVariables = true := by
            rw [start]
            rfl
          obtain ⟨plants, networks, state, onward, unmoved⟩ := stepMembers_onward
            Plant.Onward.generateObjective Network.Onward.generateObjective schedule
          have members := inStep.members.onward onward
          have linked := (inStep.linked late).congr
            (inStep.members.agree variables? onward unmoved.plants) rfl onward.networks
            unmoved.networks
          rw [buildObjective_apply]
          dsimp only
          cases result : (stepMembers Plant.generateObjective Network.generateObjective
              schedule).result with
          | error error =>
              dsimp only
              rw [state]
              refine ⟨members, fun _ => linked, fun early => ?_, ?_⟩
              · exact inStep.unlinked early
              · have unset := inStep.objective
                rw [start] at unset
                change schedule.objective = if schedule.stage.hasObjective then _ else _
                rw [start]
                exact unset
          | ok answer =>
              have reached := Members.reached .objective (state ▸ members) result
                (Plant.rank_of_step_ok Plant.withObjective fun _ => rfl)
                (Network.rank_of_step_ok fun _ _ advanced => by cases advanced; rfl)
              dsimp only
              rw [state] at reached ⊢
              exact ⟨⟨reached.plants, reached.plantStages, reached.horizons, reached.networks,
                reached.networkStages, reached.single⟩,
                fun _ => ⟨linked.valid, linked.heads, linked.links, linked.settled⟩,
                fun early => (by cases early), rfl⟩

end Dispatch.Schedule
