import Dispatch.Proofs.Schedule.Members

namespace Dispatch.Schedule

/-! A schedule is in step when its members are, and its own rows, its objective and the
injection bounds of its networks are what the steps make of the members. -/

variable {K : Type} [Scalar K]

def minima (schedule : Schedule K) (instant : Nat) : List K :=
  (List.range schedule.nodes).map (schedule.minInjection instant)

def maxima (schedule : Schedule K) (instant : Nat) : List K :=
  (List.range schedule.nodes).map (schedule.maxInjection instant)

private theorem zipIdx_forall₂ {α β : Type} {related : α → β → Prop} {members : List α}
    {twins : List β} (pairs : List.Forall₂ related members twins) (start : Nat) :
    List.Forall₂ (fun member twin => related member.1 twin.1 ∧ member.2 = twin.2)
      (members.zipIdx start) (twins.zipIdx start) := by
  induction pairs generalizing start with
  | nil => exact .nil
  | cons pair _ induction => exact .cons ⟨pair, rfl⟩ (induction (start + 1))

omit [Scalar K] in
/-- Plants with as many generators each have them at the same places. -/
theorem generatorsAt_forall₂ {M : Type} {first : Schedule K} {second : Schedule M}
    (generatorNode : first.generatorNode = second.generatorNode)
    {related : Plant K → Plant M → Prop}
    (plants : List.Forall₂ (fun early late => related early late ∧
      early.generators = late.generators) first.plants second.plants) (node : Nat) :
    List.Forall₂ (fun early late => related early.1 late.1 ∧ early.2 = late.2)
      (first.generatorsAt node) (second.generatorsAt node) := by
  have counts : first.plants.map Plant.generators = second.plants.map Plant.generators :=
    Change.forall₂_map_eq (plants.imp fun _ _ pair => pair.2)
  have offset : first.offset = second.offset := funext fun index => by
    rw [Schedule.offset, Schedule.offset, List.map_take, List.map_take, counts]
  have nodeOf : first.nodeOf = second.nodeOf := funext fun generator => by
    rw [Schedule.nodeOf, Schedule.nodeOf, generatorNode]
  refine List.rel_flatMap (zipIdx_forall₂ plants 0)
    fun early late ⟨⟨pair, generators⟩, index⟩ => ?_
  rw [List.forall₂_map_left_iff, List.forall₂_map_right_iff, generators, index, offset, nodeOf,
    List.forall₂_same]
  exact fun generator _ => ⟨pair, rfl⟩

omit [Scalar K] in
/-- Plants of which a sum reads the same may take each other's place. -/
theorem foldl_generatorsAt_congr {first second : Schedule K}
    (generatorNode : first.generatorNode = second.generatorNode) {α : Type} (node : Nat)
    {add : α → Plant K × Nat → α}
    (plants : List.Forall₂ (fun early late : Plant K => early.generators = late.generators ∧
      ∀ total generator, add total (early, generator) = add total (late, generator))
      first.plants second.plants) (start : α) :
    (first.generatorsAt node).foldl add start = (second.generatorsAt node).foldl add start := by
  have pairs := generatorsAt_forall₂ generatorNode (plants.imp fun _ _ same => same.symm) node
  refine List.rel_foldl (P := Eq) (fun total other equal early late pair => ?_) rfl pairs
  obtain ⟨plant, generator⟩ := early
  obtain ⟨reads, rfl⟩ := pair
  rw [equal, reads]

omit [Scalar K] in
theorem Agree.foldl_generatorsAt {first second : Schedule K} (agree : Agree first second)
    {α : Type} (node : Nat) {add : α → Plant K × Nat → α}
    (core : ∀ total plant generator,
      add total (plant, generator) = add total (plant.core, generator)) (start : α) :
    (first.generatorsAt node).foldl add start = (second.generatorsAt node).foldl add start := by
  have cores : List.Forall₂ (fun early late : Plant K => early.core = late.core)
      first.plants second.plants := by
    rw [← List.forall₂_map_right_iff, ← List.forall₂_map_left_iff, List.forall₂_eq_eq_eq]
    exact agree.cores
  refine foldl_generatorsAt_congr agree.generatorNode node (cores.imp fun early late same => ?_)
    start
  refine ⟨?_, fun total generator => ?_⟩
  · exact congrArg (fun core => core.data.generators) same
  · rw [core, same, ← core]

theorem Agree.minima {first second : Schedule K} (agree : Agree first second)
    (instant : Nat) : first.minima instant = second.minima instant := by
  unfold Schedule.minima
  rw [agree.nodes]
  refine List.map_congr_left fun node _ => ?_
  exact agree.foldl_generatorsAt node (fun _ _ _ => rfl) 0

theorem Agree.maxima {first second : Schedule K} (agree : Agree first second)
    (instant : Nat) : first.maxima instant = second.maxima instant := by
  unfold Schedule.maxima
  rw [agree.nodes]
  refine List.map_congr_left fun node _ => ?_
  exact agree.foldl_generatorsAt node (fun _ _ _ => rfl) 0

omit [Scalar K] in
theorem SameLayout.validate {first second : Schedule K} (same : SameLayout first second)
    (count : first.networks.length = second.networks.length) :
    first.validate = second.validate := by
  have primary : first.primary = second.primary := same.zoning .primary
  have secondary : first.secondary = second.secondary := same.zoning .secondary
  have inertia : first.inertia = second.inertia := same.zoning .inertia
  unfold Schedule.validate
  rw [isBus_of_length count, same.generatorNode, same.shape.total, same.nodes, same.horizon,
    count, primary, secondary, inertia, same.emissions]

omit [Scalar K] in
theorem Agree.validate {first second : Schedule K} (agree : Agree first second) :
    first.validate = second.validate :=
  agree.sameLayout.validate (networks_congr agree.injections)

omit [Scalar K] in
theorem step_apply (target : Stage) (advance : Change (Schedule K) PUnit)
    (schedule : Schedule K) :
    step target advance schedule =
      match schedule.stage.enter target with
      | .error error => ⟨schedule, [], .error error⟩
      | .ok .skip => ⟨schedule, [], .ok ⟨⟩⟩
      | .ok .run =>
          match (advance schedule).result with
          | .error error => ⟨(advance schedule).state, (advance schedule).notices, .error error⟩
          | .ok _ => ⟨{ (advance schedule).state with stage := target },
              (advance schedule).notices, .ok ⟨⟩⟩ := by
  unfold step
  rw [Change.current_bind]
  cases schedule.stage.enter target with
  | error error => rfl
  | ok action =>
      cases action with
      | skip => rfl
      | run =>
          rw [Change.require_ok_bind]
          dsimp only
          rw [Change.bind_apply]
          cases (advance schedule).result with
          | error error => rfl
          | ok answer => simp

omit [Scalar K] in
theorem step_run {target : Stage} {advance : Change (Schedule K) PUnit}
    {schedule after : Schedule K} {notices : List Notice}
    (entered : schedule.stage.enter target = .ok .run)
    (ran : advance schedule = ⟨after, notices, .ok ⟨⟩⟩) :
    step target advance schedule = ⟨{ after with stage := target }, notices, .ok ⟨⟩⟩ := by
  rw [step_apply, entered]
  simp only [ran]

def withNetworks (schedule : Schedule K) (networks : List (Network K)) : Schedule K :=
  { schedule with networks }

def withMembers (schedule : Schedule K) (plants : List (Plant K))
    (networks : List (Network K)) : Schedule K :=
  { schedule with plants, networks }

def atStage (schedule : Schedule K) (stage : Stage) : Schedule K :=
  { schedule with stage }

def withLinks (schedule : Schedule K) (links : List (Link K)) : Schedule K :=
  { schedule with links }

omit [Scalar K] in
theorem step_accepted {target : Stage} {advance : Change (Schedule K) PUnit}
    {schedule : Schedule K} (entered : schedule.stage.enter target = .ok .run)
    (accepted : (step target advance schedule).result = .ok ⟨⟩) :
    (advance schedule).result = .ok ⟨⟩ ∧
      (step target advance schedule).state = (advance schedule).state.atStage target := by
  rw [step_apply, entered] at accepted ⊢
  dsimp only at accepted ⊢
  cases ran : (advance schedule).result with
  | error error =>
      rw [ran] at accepted
      cases accepted
  | ok answer => exact ⟨rfl, rfl⟩

theorem refreshInjectionBounds_apply (abstract : Mode) (schedule : Schedule K) :
    refreshInjectionBounds abstract schedule =
      let refreshed := Change.each (fun instant =>
        Network.setInjectionBounds (schedule.minima instant) (schedule.maxima instant) .quiet
          abstract) schedule.networks
      ⟨schedule.withNetworks refreshed.state, refreshed.notices, refreshed.result⟩ := rfl

/-- What every update of injection bounds leaves of a network is left of all networks. -/
theorem refreshInjectionBounds_forall₂ {abstract : Mode} {schedule : Schedule K}
    {relation : Network K → Network K → Prop} (still : ∀ network, relation network network)
    (moves : ∀ minimum maximum network,
      relation network (Network.setInjectionBounds minimum maximum .quiet abstract network).state)
    {networks : List (Network K)} (refreshed : refreshInjectionBounds abstract schedule =
      ⟨schedule.withNetworks networks, [], .ok ⟨⟩⟩) :
    List.Forall₂ relation schedule.networks networks := by
  have run := refreshInjectionBounds_apply abstract schedule
  rw [refreshed] at run
  have moved : networks = (Change.each (fun instant => Network.setInjectionBounds
      (schedule.minima instant) (schedule.maxima instant) .quiet abstract)
      schedule.networks).state := congrArg (fun effect => effect.state.networks) run
  rw [moved]
  exact Change.each_forall₂ still (fun _ network => moves _ _ network) _

omit [Scalar K] in
/-- A step that all members take, which are seen as images of others. -/
theorem stepMembers_map {plantStep : Change (Plant K) PUnit}
    {networkStep : Change (Network K) PUnit} {plantView plantNext : Plant K → Plant K}
    {networkView networkNext : Network K → Network K} {plants : List (Plant K)}
    {networks : List (Network K)}
    (plantSteps : ∀ plant ∈ plants,
      plantStep (plantView plant) = ⟨plantNext plant, [], .ok ⟨⟩⟩)
    (networkSteps : ∀ network ∈ networks,
      networkStep (networkView network) = ⟨networkNext network, [], .ok ⟨⟩⟩)
    (schedule : Schedule K) :
    stepMembers plantStep networkStep
        (schedule.withMembers (plants.map plantView) (networks.map networkView)) =
      ⟨schedule.withMembers (plants.map plantNext) (networks.map networkNext),
        [], .ok ⟨⟩⟩ := by
  have first : Change.each (fun _ => plantStep) (plants.map plantView) =
      ⟨plants.map plantNext, [], .ok ⟨⟩⟩ :=
    Change.each_map plantView plantNext fun plant member => ⟨⟨⟩, plantSteps plant member⟩
  have second : Change.each (fun _ => networkStep) (networks.map networkView) =
      ⟨networks.map networkNext, [], .ok ⟨⟩⟩ :=
    Change.each_map networkView networkNext
      fun network member => ⟨⟨⟩, networkSteps network member⟩
  unfold stepMembers onPlants onNetworks
  rw [Change.bind_apply, Change.onPart_apply, Change.onPart_apply]
  simp only [withMembers, first, second, Effect.after_mk, List.append_nil]

theorem buildConstraints_ok {schedule refreshed stepped : Schedule K} {links : List (Link K)}
    (valid : schedule.validate = .ok ())
    (refreshes : refreshInjectionBounds .quiet schedule = ⟨refreshed, [], .ok ⟨⟩⟩)
    (steps : stepMembers Plant.generateConstraints Network.generateConstraints refreshed =
      ⟨stepped, [], .ok ⟨⟩⟩)
    (linked : stepped.linksOf = .ok links) :
    buildConstraints schedule = ⟨stepped.withLinks links, [], .ok ⟨⟩⟩ := by
  unfold buildConstraints
  rw [Change.current_bind, valid, Change.require_ok_bind, Change.bind_ok refreshes,
    Effect.after_nil, Change.bind_ok steps, Effect.after_nil, Change.current_bind, linked]
  rfl

/-- Either the families are built from members that took the step, or the members are left
wherever the refusal found them. -/
theorem buildConstraints_cases (schedule : Schedule K) :
    let refreshed := refreshInjectionBounds .quiet schedule
    let stepped :=
      stepMembers Plant.generateConstraints Network.generateConstraints refreshed.state
    (∃ error, (buildConstraints schedule).result = .error error ∧
      ((buildConstraints schedule).state = schedule ∨
        (buildConstraints schedule).state = refreshed.state ∨
        (buildConstraints schedule).state = stepped.state)) ∨
      ∃ links, schedule.validate = .ok () ∧ refreshed.result = .ok ⟨⟩ ∧
        stepped.result = .ok ⟨⟩ ∧ stepped.state.linksOf = .ok links ∧
        (buildConstraints schedule).state = stepped.state.withLinks links ∧
        (buildConstraints schedule).result = .ok ⟨⟩ := by
  intro refreshed stepped
  unfold buildConstraints
  rw [Change.current_bind]
  cases valid : schedule.validate with
  | error error => exact .inl ⟨error, rfl, .inl rfl⟩
  | ok answer =>
      rw [Change.require_ok_bind]
      cases refreshes : refreshed.result with
      | error error =>
          rw [Change.bind_error (show refreshInjectionBounds .quiet schedule =
            ⟨refreshed.state, refreshed.notices, .error error⟩ by rw [← refreshes])]
          exact .inl ⟨error, rfl, .inr (.inl rfl)⟩
      | ok answer =>
          rw [Change.bind_ok (show refreshInjectionBounds .quiet schedule =
            ⟨refreshed.state, refreshed.notices, .ok answer⟩ by rw [← refreshes])]
          cases steps : stepped.result with
          | error error =>
              rw [Change.bind_error (show stepMembers Plant.generateConstraints
                Network.generateConstraints refreshed.state =
                  ⟨stepped.state, stepped.notices, .error error⟩ by rw [← steps])]
              exact .inl ⟨error, rfl, .inr (.inr rfl)⟩
          | ok answer =>
              rw [Change.bind_ok (show stepMembers Plant.generateConstraints
                Network.generateConstraints refreshed.state =
                  ⟨stepped.state, stepped.notices, .ok answer⟩ by rw [← steps]),
                Change.current_bind]
              cases linked : stepped.state.linksOf with
              | error error => exact .inl ⟨error, rfl, .inr (.inr rfl)⟩
              | ok links => exact .inr ⟨links, rfl, rfl, rfl, rfl, rfl, rfl⟩

def withOwnObjective (schedule : Schedule K) : Schedule K :=
  { schedule with objective := some ⟨⟨[], schedule.ownConstant⟩, .minimise⟩ }

theorem buildObjective_apply (schedule : Schedule K) :
    buildObjective schedule =
      let stepped := stepMembers Plant.generateObjective Network.generateObjective schedule
      match stepped.result with
      | .error error => ⟨stepped.state, stepped.notices, .error error⟩
      | .ok _ => ⟨stepped.state.withOwnObjective, stepped.notices, .ok ⟨⟩⟩ := by
  unfold buildObjective
  rw [Change.bind_apply]
  dsimp only
  cases (stepMembers Plant.generateObjective Network.generateObjective schedule).result with
  | error error => rfl
  | ok answer => simp [withOwnObjective]

/-- Rows and injection bounds are those of the data at hand. -/
structure Linked (schedule : Schedule K) : Prop where
  valid : schedule.validate = .ok ()
  heads : schedule.HasHeads
  links : schedule.links = schedule.linksNow
  settled : ∀ (instant : Nat) (network : Network K), schedule.networks[instant]? = some network →
    network.Settled (schedule.minima instant) (schedule.maxima instant)

/-- Members in step that have reached a stage. -/
structure Members (schedule : Schedule K) (stage : Stage) : Prop where
  plants : ∀ plant ∈ schedule.plants, plant.InStep
  plantStages : ∀ plant ∈ schedule.plants, stage.rank ≤ plant.stage.rank
  horizons : ∀ plant ∈ schedule.plants, plant.horizon = schedule.horizon
  networks : ∀ network ∈ schedule.networks, network.InStep
  networkStages : ∀ network ∈ schedule.networks, stage.rank ≤ network.stage.rank
  /-- The rows of a bus are found by their instants alone. -/
  single : schedule.isBus = true → schedule.nodes ≤ 1 ∨ schedule.horizon = 0

structure InStep (schedule : Schedule K) : Prop where
  members : schedule.Members schedule.stage
  linked : schedule.stage.hasConstraints = true → schedule.Linked
  unlinked : schedule.stage.hasConstraints = false → schedule.links = []
  objective : schedule.objective =
    if schedule.stage.hasObjective then some ⟨⟨[], schedule.ownConstant⟩, .minimise⟩ else none

/-- The physical data with nothing generated. -/
def stripped (schedule : Schedule K) : Schedule K :=
  { schedule with
    stage := .empty
    plants := schedule.plants.map Plant.stripped
    networks := schedule.networks.map Network.stripped
    links := []
    objective := none }

def atVars (schedule : Schedule K) : Schedule K :=
  { schedule with
    stage := .vars
    plants := schedule.plants.map fun plant => plant.stripped.withVariables
    networks := schedule.networks.map Network.atVars
    links := []
    objective := none }

def atConstraints (schedule : Schedule K) : Schedule K :=
  { schedule with
    stage := .constraints
    plants := schedule.plants.map fun plant => plant.stripped.withVariables.withConstraints
    networks := schedule.networks.map Network.atConstraints
    objective := none }

omit [Scalar K] in
private theorem map_congr_comp {α β : Type} {members : List α} {next : α → α} {view : α → β}
    (same : ∀ member ∈ members, view (next member) = view member) :
    (members.map next).map view = members.map view := by
  rw [List.map_map]
  exact List.map_congr_left same

section Stages

variable {schedule : Schedule K} (members : schedule.Members .objective)

include members

theorem Members.plant_complete {plant : Plant K} (member : plant ∈ schedule.plants) :
    plant.stage = .objective :=
  Stage.eq_objective (members.plantStages plant member)

theorem Members.network_complete {network : Network K} (member : network ∈ schedule.networks) :
    network.stage = .objective :=
  Stage.eq_objective (members.networkStages network member)

theorem Members.agree_atVars : Agree schedule.atVars schedule where
  horizon := rfl
  nodes := rfl
  generatorNode := rfl
  zoning need := by cases need <;> rfl
  emissions := rfl
  cores := map_congr_comp fun plant member => ((members.plants plant member).core_stripped
    (members.plant_complete member)).1
  injections := map_congr_comp fun _ _ => rfl
  demand _ := rfl

theorem Members.agree_atConstraints : Agree schedule.atConstraints schedule where
  horizon := rfl
  nodes := rfl
  generatorNode := rfl
  zoning need := by cases need <;> rfl
  emissions := rfl
  cores := map_congr_comp fun plant member => ((members.plants plant member).core_stripped
    (members.plant_complete member)).2
  injections := map_congr_comp fun _ _ => rfl
  demand _ := rfl

theorem Members.generateVariables_stripped :
    generateVariables schedule.stripped = ⟨schedule.atVars, [], .ok ⟨⟩⟩ :=
  step_run rfl (stepMembers_map
    (fun plant member => ((members.plants plant member).stages
      (members.plant_complete member)).1)
    (fun network member => ((members.networks network member).stages
      (members.network_complete member)).1) schedule.stripped)

/-- The bounds of the networks are those that they are given once more. -/
theorem Members.refresh_atVars (linked : schedule.Linked) :
    refreshInjectionBounds .quiet schedule.atVars = ⟨schedule.atVars, [], .ok ⟨⟩⟩ := by
  have agree := members.agree_atVars
  have each : Change.each (fun instant => Network.setInjectionBounds
        (schedule.atVars.minima instant) (schedule.atVars.maxima instant) .quiet .quiet)
      (schedule.networks.map Network.atVars) =
      ⟨schedule.networks.map Network.atVars, [], .ok ⟨⟩⟩ := by
    refine Change.each_still fun instant network found => ?_
    rw [List.getElem?_map] at found
    obtain ⟨later, there, rfl⟩ := Option.map_eq_some_iff.mp found
    rw [agree.minima, agree.maxima]
    exact (linked.settled instant later there).setInjectionBounds_atVars
  rw [refreshInjectionBounds_apply, show schedule.atVars.networks =
    schedule.networks.map Network.atVars from rfl, each]
  rfl

theorem Members.generateConstraints_atVars (linked : schedule.Linked) :
    generateConstraints schedule.atVars = ⟨schedule.atConstraints, [], .ok ⟨⟩⟩ := by
  have steps := stepMembers_map
    (fun plant member => ((members.plants plant member).stages
      (members.plant_complete member)).2.1)
    (fun network member => ((members.networks network member).stages
      (members.network_complete member)).2.1) schedule.atVars
  have links : schedule.atConstraints.linksOf = .ok schedule.links :=
    members.agree_atConstraints.linksOf (linksOf_ok.mpr ⟨linked.heads, linked.links⟩)
  have built : buildConstraints schedule.atVars =
      ⟨schedule.atConstraints.atStage .vars, [], .ok ⟨⟩⟩ :=
    buildConstraints_ok (members.agree_atVars.validate.trans linked.valid)
      (members.refresh_atVars linked) steps links
  exact step_run (show schedule.atVars.stage.enter .constraints = .ok .run from rfl) built

theorem Members.generateObjective_atConstraints (complete : schedule.stage = .objective)
    (objective : schedule.objective = some ⟨⟨[], schedule.ownConstant⟩, .minimise⟩) :
    generateObjective schedule.atConstraints = ⟨schedule, [], .ok ⟨⟩⟩ := by
  have steps := stepMembers_map
    (fun plant member => ((members.plants plant member).stages
      (members.plant_complete member)).2.2)
    (fun network member => ((members.networks network member).stages
      (members.network_complete member)).2.2) schedule.atConstraints
  have built : buildObjective schedule.atConstraints =
      ⟨(schedule.atStage .constraints).withOwnObjective, [], .ok ⟨⟩⟩ := by
    rw [buildObjective_apply, show stepMembers Plant.generateObjective
      Network.generateObjective schedule.atConstraints = _ from steps, List.map_id', List.map_id']
    rfl
  have final : schedule.withOwnObjective.atStage .objective = schedule := by
    unfold withOwnObjective atStage
    rw [← complete, ← objective]
  rw [generateObjective, step_run rfl built]
  exact congrArg (fun state => (⟨state, [], .ok ⟨⟩⟩ : Effect (Schedule K) PUnit)) final

end Stages

/-- A schedule in step with everything generated is what generation makes of its data. -/
theorem InStep.generateAll_stripped {schedule : Schedule K} (inStep : schedule.InStep)
    (complete : schedule.stage = .objective) :
    generateAll schedule.stripped = ⟨schedule, [], .ok ⟨⟩⟩ := by
  have linked := inStep.linked (by rw [complete]; rfl)
  have members := complete ▸ inStep.members
  have objective := inStep.objective
  rw [complete] at objective
  rw [generateAll, Change.bind_ok members.generateVariables_stripped,
    Change.bind_ok (members.generateConstraints_atVars linked),
    members.generateObjective_atConstraints complete objective]
  rfl

end Dispatch.Schedule
