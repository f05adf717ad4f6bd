import Dispatch.Proofs.Reachable.Arising

namespace Dispatch.Schedule

/-! The linking families of a schedule with rows, compared with those that would be generated
now. Whatever the modes, they have the same index and the same variables. -/

variable {K : Type} [Scalar K] {before after schedule : Schedule K} {allowed : Mode → Prop}
  {related : Link K → Link K → Prop}

/-- With rows, every family is related to the one that would be generated now. -/
def Follows (related : Link K → Link K → Prop) (schedule : Schedule K) : Prop :=
  schedule.stage.hasConstraints = true →
    schedule.HasHeads ∧ List.Forall₂ related schedule.linksNow schedule.links

theorem Follows.of_early (early : schedule.stage.hasConstraints = false) :
    schedule.Follows related := by
  intro late
  rw [early] at late
  cases late

theorem Follows.agree (follows : before.Follows related) (agree : Agree after before)
    (links : after.links = before.links) (stage : after.stage = before.stage) :
    after.Follows related := by
  intro late
  obtain ⟨heads, same⟩ := follows (stage ▸ late)
  refine ⟨agree.hasHeads heads, ?_⟩
  rw [agree.linksNow, links]
  exact same

omit [Scalar K] in
theorem agree_withMembers {plants : List (Plant K)} {networks : List (Network K)}
    (cores : List.Forall₂ (fun before after : Plant K => after.core = before.core)
      schedule.plants plants)
    (injections : List.Forall₂ (fun before after : Network K =>
      after.injectionVar? = before.injectionVar?) schedule.networks networks) :
    Agree (schedule.withMembers plants networks) schedule where
  horizon := rfl
  nodes := rfl
  generatorNode := rfl
  zoning need := by cases need <;> rfl
  emissions := rfl
  cores := map_eq_of_forall₂ cores fun _ _ _ same => same
  injections := map_eq_of_forall₂ injections fun _ _ _ same => same
  demand _ := rfl

theorem Follows.addPlant (follows : schedule.Follows related) (plant : Plant K) :
    (Schedule.addPlant plant schedule).state.Follows related :=
  addPlant_preserves follows fun opened _ => .of_early (early_of_checkOpen opened)

theorem follows_setNetwork {result : Schedule K} {descriptor : Descriptor K}
    {generatorNode : List Nat} {before after : Nat}
    (created : schedule.setNetwork descriptor generatorNode before = (.ok result, after)) :
    result.Follows related := by
  obtain ⟨opened, networks, rfl, -⟩ := setNetwork_eq_ok created
  exact .of_early (early_of_checkOpen opened)

theorem Follows.whileOpen (follows : schedule.Follows related) {part : String}
    {update : Schedule K → Schedule K} (stage : (update schedule).stage = schedule.stage) :
    (Schedule.whileOpen part update schedule).state.Follows related :=
  whileOpen_preserves follows fun opened => .of_early (stage ▸ early_of_checkOpen opened)

theorem Follows.setNetworkConstants (follows : schedule.Follows related) (constants : List K) :
    (Schedule.setNetworkConstants constants schedule).state.Follows related := by
  have cores : List.Forall₂ (fun before after : Plant K => after.core = before.core)
      schedule.plants schedule.plants := List.forall₂_same.mpr fun _ _ => rfl
  have still : Agree schedule schedule :=
    agree_withMembers cores (List.forall₂_same.mpr fun _ _ => rfl)
  rw [setNetworkConstants_apply]
  split
  · exact follows.agree { still with zoning := fun need => by cases need <;> rfl } rfl rfl
  · split
    · exact follows
    · have moved := agree_withMembers cores (Change.mapIdx_forall₂ fun instant network =>
        (rfl : (network.withConstant (constants.getD instant 0)).injectionVar? =
          network.injectionVar?))
      exact follows.agree { moved with zoning := fun need => by cases need <;> rfl } rfl rfl

theorem Follows.withNotifier (follows : schedule.Follows related) (notifier : NotifierKey) :
    (schedule.withNotifier notifier).Follows related := by
  have moved : Agree (schedule.withMembers (schedule.withNotifier notifier).plants
      (schedule.withNotifier notifier).networks) schedule :=
    agree_withMembers
      (List.forall₂_map_right_iff.mpr (List.forall₂_same.mpr fun _ _ => rfl))
      (List.forall₂_map_right_iff.mpr (List.forall₂_same.mpr fun _ _ => rfl))
  exact follows.agree { moved with zoning := fun need => by cases need <;> rfl } rfl rfl

omit [Scalar K] in
theorem rest_stepMembers (plantStep : Change (Plant K) PUnit)
    (networkStep : Change (Network K) PUnit) (schedule : Schedule K) :
    ∃ plants networks, (stepMembers plantStep networkStep schedule).state =
      schedule.withMembers plants networks := by
  obtain ⟨plants, networks, stepped, -, -⟩ := stepMembers_forall₂ (fun _ _ => True)
    (fun _ _ => True) (fun _ => trivial) (fun _ => trivial) (fun _ => trivial)
    (fun _ => trivial) schedule
  exact ⟨plants, networks, stepped⟩

/-- Families that were just generated are those of the moment. -/
theorem follows_withLinks (refl : ∀ link, related link link) {links : List (Link K)}
    (generated : schedule.linksOf = .ok links) (stage : Stage) :
    ((schedule.withLinks links).atStage stage).Follows related := by
  obtain ⟨heads, now⟩ := linksOf_ok.mp generated
  refine fun _ => ⟨heads, ?_⟩
  rw [show ((schedule.withLinks links).atStage stage).links = schedule.linksNow from now]
  exact List.forall₂_same.mpr fun link _ => refl link

theorem Follows.generateVariables (follows : schedule.Follows related) :
    (Schedule.generateVariables schedule).state.Follows related := by
  refine step_preserves follows (fun entered _ _ => .of_early ?_) fun _ _ _ => .of_early rfl
  obtain ⟨plants, networks, stepped⟩ :=
    rest_stepMembers Plant.generateVariables Network.generateVariables schedule
  rw [stepped, show (schedule.withMembers plants networks).stage = schedule.stage from rfl,
    Stage.enter_vars entered]
  rfl

theorem Follows.generateConstraints (follows : schedule.Follows related)
    (refl : ∀ link, related link link) :
    (Schedule.generateConstraints schedule).state.Follows related := by
  refine step_preserves follows (fun entered error refused => ?_) fun _ answer accepted => ?_
  · have early : schedule.stage.hasConstraints = false := by
      rw [Stage.enter_constraints entered]
      rfl
    rcases buildConstraints_cases schedule with ⟨_, _, state⟩ | ⟨_, _, _, _, _, _, result⟩
    · rcases state with state | state | state
      · rw [state]
        exact follows
      · rw [state]
        exact .of_early early
      · obtain ⟨plants, networks, stepped⟩ := rest_stepMembers Plant.generateConstraints
          Network.generateConstraints (refreshInjectionBounds .quiet schedule).state
        rw [state, stepped]
        exact .of_early early
    · rw [result] at refused
      cases refused
  · rcases buildConstraints_cases schedule with ⟨_, result, _⟩ | ⟨_, _, _, _, linked, state, _⟩
    · rw [result] at accepted
      cases accepted
    · rw [state]
      exact follows_withLinks refl linked .constraints

theorem Follows.generateObjective (follows : schedule.Follows related) :
    (Schedule.generateObjective schedule).state.Follows related := by
  have plantSteps (plant : Plant K) :
      (Plant.generateObjective plant).state.core = plant.core := by
    rw [Plant.generateObjective, Plant.step_apply]
    split <;> rfl
  have networkSteps (network : Network K) :
      (Network.generateObjective network).state.injectionVar? = network.injectionVar? := by
    rw [Network.generateObjective, Network.step_apply]
    split <;> rfl
  obtain ⟨plants, networks, stepped, cores, injections⟩ := stepMembers_forall₂
    (fun before after : Plant K => after.core = before.core)
    (fun before after : Network K => after.injectionVar? = before.injectionVar?)
    (fun _ => rfl) (fun _ => rfl) plantSteps networkSteps schedule
  have moved : Agree (schedule.withMembers plants networks) schedule :=
    agree_withMembers cores injections
  have built : (buildObjective schedule).state.Follows related ∧
      (buildObjective schedule).state.stage = schedule.stage := by
    rw [buildObjective_apply]
    dsimp only
    split
    · rw [stepped]
      exact ⟨follows.agree moved rfl rfl, rfl⟩
    · rw [stepped]
      exact ⟨follows.agree { moved with zoning := fun need => by cases need <;> rfl } rfl rfl, rfl⟩
  obtain ⟨kept, stage⟩ := built
  refine step_preserves follows (fun _ _ _ => kept) fun entered _ _ => ?_
  intro _
  exact kept (by
    rw [stage, Stage.enter_objective entered]
    rfl)

/-- A relation that the updates keep up holds between the families and those of the moment. -/
theorem Arises.follows (refl : ∀ link, related link link)
    (scales : ∀ schedule : Schedule K, schedule.Arises allowed → schedule.Follows related →
      ∀ index address values physical abstract, allowed abstract →
        (Schedule.scalePlantAt index address values physical abstract schedule).state.Follows
          related)
    (demands : ∀ schedule : Schedule K, schedule.Arises allowed → schedule.Follows related →
      ∀ address values physical abstract, allowed abstract →
        (Schedule.setDemand address values physical abstract schedule).state.Follows related)
    (arises : schedule.Arises allowed) : schedule.Follows related := by
  induction arises with
  | start initial =>
      cases initial with
      | ofHorizon id horizon => exact .of_early rfl
  | step arises operation within follows =>
      cases operation with
      | addPlant plant => exact follows.addPlant plant
      | setNetwork =>
          exact setNetwork_preserves follows fun created => follows_setNetwork created
      | setZoning need zoning => cases need <;> exact follows.whileOpen rfl
      | setEmissions emissions => exact follows.whileOpen rfl
      | withSettings settings => exact follows
      | withNotifier notifier => exact follows.withNotifier notifier
      | withData =>
          exact whileOpen_preserves follows fun opened => .of_early (early_of_checkOpen opened)
      | call step =>
          cases step with
          | generateVariables => exact follows.generateVariables
          | generateConstraints => exact follows.generateConstraints refl
          | generateObjective => exact follows.generateObjective
          | scalePlantAt index address values physical abstract =>
              exact scales _ arises follows index address values physical abstract within
          | setDemand address values physical abstract =>
              exact demands _ arises follows address values physical abstract within
          | setNetworkConstants constants => exact follows.setNetworkConstants constants

/-- Schedules that generate rows over the same variables. -/
structure Resembles (before after : Schedule K) : Prop where
  layout : SameLayout after before
  heads : ∀ row, after.linkHead row = before.linkHead row
  isBus : after.isBus = before.isBus
  count : after.plants.length = before.plants.length
  vars : ∀ row, (after.runs row).map (fun run => run.map Prod.fst) =
    (before.runs row).map fun run => run.map Prod.fst

namespace Resembles

theorem of_agree (agree : Agree after before) : Resembles before after where
  layout := agree.sameLayout
  heads := agree.heads
  isBus := agree.isBus
  count := by simpa using congrArg List.length agree.cores
  vars row := by rw [agree.runs]

theorem hasHeads (resembles : Resembles before after) (heads : before.HasHeads) :
    after.HasHeads := by
  intro kind row member
  rw [resembles.layout.shape.linkRows] at member
  rw [resembles.heads]
  exact heads kind row member

theorem linkOf (resembles : Resembles before after) (kind : LinkKind) :
    Link.SameFrame (before.linkOf kind) (after.linkOf kind) where
  kind := rfl
  cols := resembles.layout.shape.linkCols kind
  vars := by
    simp only [Schedule.linkOf, List.map_map, resembles.layout.shape.linkRows]
    refine List.map_congr_left fun row _ => ?_
    simp only [Function.comp_apply, rowOf, LinearFunction.ofTerms, List.map_append,
      List.map_flatten, resembles.vars, headOf, resembles.heads]
  spans := by
    have lengths (row : LinkRow) :
        (after.runs row).map List.length = (before.runs row).map List.length := by
      simpa [Function.comp_def] using congrArg (fun runs => runs.map List.length)
        (resembles.vars row)
    have enters : after.enterSpans = before.enterSpans := by
      funext spans row
      have head : after.headLength row = before.headLength row := by
        cases row <;> simp only [headLength, resembles.isBus]
      simp only [enterSpans, head, resembles.layout.shape.rowKey, spansFrom_congr (lengths row)]
    have empty : after.emptySpans kind = before.emptySpans kind := by
      simp only [emptySpans, resembles.layout.shape.linkKeys, List.map_const', resembles.count]
    simp only [Schedule.linkOf, spansOf, resembles.layout.shape.linkRows, enters, empty]

theorem linksNow (resembles : Resembles before after) :
    List.Forall₂ Link.SameFrame before.linksNow after.linksNow := by
  have alike : (fun link : Link K => !link.rows.isEmpty) ∘ after.linkOf =
      (fun link : Link K => !link.rows.isEmpty) ∘ before.linkOf := by
    funext kind
    simp [Schedule.linkOf, Family.isEmpty, resembles.layout.shape.linkRows]
  rw [Schedule.linksNow, Schedule.linksNow, List.filter_map, List.filter_map, alike]
  exact List.forall₂_map_left_iff.mpr (List.forall₂_map_right_iff.mpr
    (List.forall₂_same.mpr fun kind _ => resembles.linkOf kind))

end Resembles

theorem Follows.resembles (follows : before.Follows Link.SameFrame)
    (resembles : Resembles before after) (stage : after.stage = before.stage)
    (links : List.Forall₂ Link.SameFrame before.links after.links) :
    after.Follows Link.SameFrame := by
  intro late
  obtain ⟨heads, same⟩ := follows (stage ▸ late)
  have back : List.Forall₂ Link.SameFrame after.linksNow before.linksNow :=
    resembles.linksNow.flip.imp fun _ _ same => same.symm
  have trans (first second third : Link K) (early : Link.SameFrame first second)
    (late : Link.SameFrame second third) : Link.SameFrame first third := early.trans late
  exact ⟨resembles.hasHeads heads,
    Change.forall₂_trans trans (Change.forall₂_trans trans back same) links⟩

theorem resembles_withScaled {index : Nat} {plant : Plant K}
    (found : schedule.plants[index]? = some plant) (scale : K) (objective : Option (Objective K)) :
    Resembles schedule (schedule.withScaled index plant scale objective) := by
  have index_lt := (List.getElem?_eq_some_iff.mp found).1
  have layout : SameLayout (schedule.withScaled index plant scale objective) schedule := by
    refine ⟨rfl, rfl, rfl, fun need => by cases need <;> rfl, rfl, ?_⟩
    apply List.ext_getElem?
    intro other
    simp only [withScaled, withPlants, List.getElem?_map, List.getElem?_set]
    by_cases here : index = other
    · subst here
      rw [if_pos rfl, if_pos index_lt, found]
      rfl
    · rw [if_neg here]
  refine ⟨layout, fun _ => rfl, rfl, by simp [withScaled, withPlants], fun row => ?_⟩
  apply List.ext_getElem?
  intro other
  simp only [Schedule.runs, withScaled, withPlants, List.getElem?_map, List.getElem?_mapIdx,
    List.getElem?_set]
  by_cases here : index = other
  · subst here
    rw [if_pos rfl, if_pos index_lt, found]
    have moved : schedule.plantTerms index { plant with scale, objective } row =
        schedule.plantTerms index (plant.rescaled scale) row := rfl
    refine congrArg some ((congrArg (List.map Prod.fst) (layout.plantTerms index _ row)).trans ?_)
    rw [moved]
    exact vars_plantTerms_rescaled schedule index plant scale row
  · rw [if_neg here]
    cases schedule.plants[other]? with
    | none => rfl
    | some unmoved =>
        exact congrArg (fun terms => some (terms.map Prod.fst))
          (layout.plantTerms other unmoved row)

omit [Scalar K] in
theorem agree_withLinks (schedule : Schedule K) (links : List (Link K)) :
    Agree (schedule.withLinks links) schedule :=
  ⟨rfl, rfl, rfl, fun need => by cases need <;> rfl, rfl, rfl, rfl, fun _ => rfl⟩

theorem Follows.withLinks (follows : schedule.Follows Link.SameFrame) {links : List (Link K)}
    (kept : List.Forall₂ Link.SameFrame schedule.links links) :
    (schedule.withLinks links).Follows Link.SameFrame :=
  follows.resembles (.of_agree (agree_withLinks schedule links)) rfl kept

omit [Scalar K] in
theorem agree_rebounded {networks : List (Network K)}
    (rebounded : List.Forall₂ Network.Rebounded schedule.networks networks) :
    Agree (schedule.withNetworks networks) schedule :=
  agree_withMembers (List.forall₂_same.mpr fun _ _ => rfl)
    (rebounded.imp fun _ _ moved => by rw [moved]; rfl)

theorem Sound.framed_scalePlantAt (sound : schedule.Sound)
    (follows : schedule.Follows Link.SameFrame) (index : Nat) (address : Address)
    (values : List K) (physical abstract : Mode) :
    (Schedule.scalePlantAt index address values physical abstract schedule).state.Follows
      Link.SameFrame := by
  rcases sound.scalePlantAt_state index address values physical abstract with
    still | ⟨plant, scale, objective, found, ⟨early, moved⟩ | ⟨_, networks, refreshed, moved⟩⟩
  · rw [still]
    exact follows
  · rw [moved]
    exact .of_early early
  · have scaled := follows.resembles (resembles_withScaled found scale objective) rfl
      schedule.links_still
    have bounded := scaled.agree (agree_rebounded (rebounded_of_refresh refreshed)) rfl rfl
    rw [moved]
    split
    · obtain ⟨links, patched, kept⟩ := sameFrame_patchPlant index
        ((schedule.withScaled index plant scale objective).withNetworks networks)
      rw [patched]
      exact bounded.withLinks kept
    · exact bounded

/-! A new demand reaches the families of a bus alone. -/

omit [Scalar K] in
theorem agree_withDemand (several : schedule.isBus = false) (demand : List K) :
    Agree (schedule.withDemand demand) schedule where
  horizon := rfl
  nodes := rfl
  generatorNode := rfl
  zoning need := by cases need <;> rfl
  emissions := rfl
  cores := rfl
  injections := rfl
  demand bus := by
    rw [show (schedule.withDemand demand).isBus = schedule.isBus from rfl, several] at bus
    cases bus

theorem Sound.follows_setDemand (sound : schedule.Sound) (follows : schedule.Follows related)
    (address : Address) (values : List K) (physical : Mode) {abstract : Mode}
    (onBus : schedule.isBus = true → ∀ instants demand,
      (∀ instant ∉ instants, demand.getD instant 0 = schedule.demand.getD instant 0) →
      (schedule.withBusLevels instants demand abstract).Follows related) :
    (Schedule.setDemand address values physical abstract schedule).state.Follows related := by
  rcases setDemand_state address values physical abstract schedule with
    still | ⟨selection, selected, ⟨bus, moved⟩ | ⟨several, moved⟩⟩
  · rw [still]
    exact follows
  · rw [moved]
    exact onBus bus _ _ fun instant outside => selection.getD_write_of_not_mem _ _ _ _ outside
  · have written := sound.withDemand (selection.length_write sound.stocked.demand (0 : K) values)
    obtain ⟨members, forwarded, reloaded⟩ :=
      written.forwardDemand_rest several (Address.select_sound selected).1 abstract.silent
    rw [moved, forwarded]
    exact (follows.agree (agree_withDemand several
      (selection.write schedule.demand schedule.extent 0 values)) rfl rfl).agree
        (agree_withMembers (List.forall₂_same.mpr fun _ _ => rfl)
          (reloaded.imp fun _ _ moved => by rw [moved]; rfl)) rfl rfl

theorem resembles_withDemand (schedule : Schedule K) (demand : List K) :
    Resembles schedule (schedule.withDemand demand) where
  layout := ⟨rfl, rfl, rfl, fun need => by cases need <;> rfl, rfl, rfl⟩
  heads _ := rfl
  isBus := rfl
  count := rfl
  vars _ := rfl

theorem Sound.framed_setDemand (sound : schedule.Sound)
    (follows : schedule.Follows Link.SameFrame) (address : Address) (values : List K)
    (physical abstract : Mode) :
    (Schedule.setDemand address values physical abstract schedule).state.Follows
      Link.SameFrame := by
  refine sound.follows_setDemand follows address values physical fun _ instants demand _ => ?_
  have written := follows.resembles (resembles_withDemand schedule demand) rfl
    schedule.links_still
  unfold withBusLevels
  split
  · refine written.withLinks (List.forall₂_map_right_iff.mpr (List.forall₂_same.mpr ?_))
    intro link _
    split
    · exact sameFrame_foldl_setBoth
        (fun instant => (schedule.withDemand demand).balanceLevel instant 0) instants link
    · exact Link.SameFrame.refl link
  · exact written

/-- Whatever the modes, the families keep the index and the variables of generated ones. -/
theorem Arises.framed (arises : schedule.Arises allowed) : schedule.Follows Link.SameFrame :=
  arises.follows Link.SameFrame.refl
    (fun _ arises follows index address values physical abstract _ =>
      arises.sound.framed_scalePlantAt follows index address values physical abstract)
    fun _ arises follows address values physical abstract _ =>
      arises.sound.framed_setDemand follows address values physical abstract

end Dispatch.Schedule
