import Dispatch.Proofs.Reachable.Plant
import Dispatch.Proofs.Schedule.Incremental

namespace Dispatch

/-! What a schedule goes through, from the first plant to the last update. Reading a group is
such a course too, on which nothing is generated. -/

variable {K : Type} [Scalar K]

/-- Nothing that is generated has to follow a new scale. -/
theorem Plant.Bare.setScaleAt {plant : Plant K} (bare : plant.Bare) (address : Address)
    (values : List K) (physical abstract : Mode) :
    (Plant.setScaleAt address values physical abstract plant).state.Bare := by
  have rescaled (scale : K) : (plant.rescaled scale).Bare :=
    congrArg (fun bare : Plant K => bare.rescaled scale) bare
  have unpriced (scale : K) : plant.withScale scale abstract = .ok (plant.rescaled scale) := by
    have absent : (plant.rescaled scale).objective = none := by
      rw [← show _ = plant.rescaled scale from rescaled scale]
      rfl
    unfold withScale withCosts
    rw [absent, ite_self]
  rw [setScaleAt_apply]
  split
  · exact bare
  · exact bare
  · rw [updateScale_apply]
    dsimp only
    rw [unpriced]
    split
    · exact bare
    · split
      · exact bare
      · exact rescaled _

namespace Schedule

variable {schedule : Schedule K}

def Call.IsUpdate : Call K → Prop
  | .generateVariables | .generateConstraints | .generateObjective => False
  | _ => True

inductive Operation (K : Type)
  | addPlant (plant : Plant K)
  | setNetwork (descriptor : Descriptor K) (generatorNode : List Nat) (counter : Nat)
  | setZoning (need : Need) (zoning : Zoning K)
  | setEmissions (emissions : Emissions K)
  | withSettings (settings : Option (Settings K))
  | withNotifier (notifier : NotifierKey)
  | withData (generatorNode : List Nat) (primary secondary inertia : Zoning K)
      (emissions : Emissions K) (layouts : Layouts)
  | call (step : Call K)

namespace Operation

/-- The schedule afterwards, whether the operation was refused or not. -/
def perform (schedule : Schedule K) : Operation K → Schedule K
  | .addPlant plant => (Schedule.addPlant plant schedule).state
  | .setNetwork descriptor generatorNode counter =>
      match (schedule.setNetwork descriptor generatorNode counter).1 with
      | .ok attached => attached
      | .error _ => schedule
  | .setZoning need zoning => (Schedule.setZoning need zoning schedule).state
  | .setEmissions emissions => (Schedule.setEmissions emissions schedule).state
  | .withSettings settings => { schedule with settings }
  | .withNotifier notifier => schedule.withNotifier notifier
  | .withData generatorNode primary secondary inertia emissions layouts =>
      (whileOpen "the data" (fun schedule =>
        { schedule with generatorNode, primary, secondary, inertia, emissions, layouts })
        schedule).state
  | .call step => step.perform schedule

/-- Only some plants are added, and only some abstract modes are used. -/
def Within (plants : Plant K → Prop) (modes : Mode → Prop) : Operation K → Prop
  | .addPlant plant => plants plant
  | .call (.scalePlantAt _ _ _ _ abstract) => modes abstract
  | .call (.setDemand _ _ _ abstract) => modes abstract
  | _ => True

/-- Nothing is generated, and no plant comes with what it has generated. -/
def Early : Operation K → Prop
  | .addPlant plant => plant.Bare
  | .call step => step.IsUpdate
  | _ => True

omit [Scalar K] in
theorem Within.mono {plants others : Plant K → Prop} {modes permitted : Mode → Prop}
    {operation : Operation K} (within : operation.Within plants modes)
    (includes : ∀ plant, plants plant → others plant)
    (permits : ∀ mode, modes mode → permitted mode) : operation.Within others permitted := by
  cases operation with
  | addPlant plant => exact includes plant within
  | call step =>
      cases step with
      | scalePlantAt => exact permits _ within
      | setDemand => exact permits _ within
      | _ => trivial
  | _ => trivial

end Operation

theorem setNetwork_preserves {Invariant : Schedule K → Prop} (holds : Invariant schedule)
    {descriptor : Descriptor K} {generatorNode : List Nat} {counter : Nat}
    (attaches : ∀ {result after},
      schedule.setNetwork descriptor generatorNode counter = (.ok result, after) →
        Invariant result) :
    Invariant ((Operation.setNetwork descriptor generatorNode counter).perform schedule) := by
  rw [Operation.perform]
  cases created : schedule.setNetwork descriptor generatorNode counter with
  | mk outcome after =>
      cases outcome with
      | ok attached => exact attaches created
      | error error => exact holds

end Schedule

namespace Reached

variable {starts : Schedule K → Prop} {allowed : Schedule.Operation K → Prop}
  {schedule result : Schedule K}

theorem setNetwork (reached : Reached starts Schedule.Operation.perform allowed schedule)
    {descriptor : Descriptor K} {generatorNode : List Nat} {before after : Nat}
    (allows : allowed (.setNetwork descriptor generatorNode before))
    (created : schedule.setNetwork descriptor generatorNode before = (.ok result, after)) :
    Reached starts Schedule.Operation.perform allowed result := by
  have attached := reached.step _ allows
  rwa [Schedule.Operation.perform, created] at attached

theorem calls (reached : Reached starts Schedule.Operation.perform allowed schedule)
    (calls : List (Schedule.Call K)) (allows : ∀ call ∈ calls, allowed (.call call)) :
    Reached starts Schedule.Operation.perform allowed (schedule.play calls) := by
  have played : Reached starts Schedule.Operation.perform allowed
      ((calls.map Schedule.Operation.call).foldl Schedule.Operation.perform schedule) :=
    reached.play fun operation member => by
      obtain ⟨call, listed, rfl⟩ := List.mem_map.mp member
      exact allows call listed
  rwa [List.foldl_map] at played

end Reached

namespace Schedule

variable {schedule : Schedule K}

inductive Initial : Schedule K → Prop
  | ofHorizon (id : BlockId) (horizon : Nat) : Initial (ofHorizon id horizon)

/-- A schedule as a program gets it. -/
inductive Created : Schedule Float → Prop
  | new {horizon : Nat} {schedule : Schedule Float} {before after : Nat}
      (created : Schedule.new horizon before = (.ok schedule, after)) : Created schedule
  | ofGroupWith {factory : DescriptorFactory} {group : Group} {schedule : Schedule Float}
      {before after : Nat}
      (created : Schedule.ofGroupWith factory group before = (.ok schedule, after)) :
      Created schedule

theorem created_ofHorizon (number horizon : Nat) :
    (ofHorizon ⟨number⟩ horizon : Schedule Float).Created :=
  .new (show Schedule.new horizon number = (.ok (ofHorizon ⟨number⟩ horizon), number + 1) from rfl)

/-- Any abstract mode. -/
def anyMode : Mode → Prop := fun _ => True

/-- Every state that a program can arrive at. -/
def Reachable : Schedule Float → Prop :=
  Reached Created Operation.perform (Operation.Within Plant.Reachable anyMode)

omit [Scalar K] in
theorem Call.within (call : Call K) (plants : Plant K → Prop) :
    (Operation.call call).Within plants anyMode := by
  cases call <;> trivial

theorem Reachable.play {schedule : Schedule Float} (reachable : schedule.Reachable)
    (calls : List (Call Float)) : (schedule.play calls).Reachable :=
  Reached.calls reachable calls fun call _ => call.within Plant.Reachable

/-- As `Reachable`, over numbers of any kind and where only some abstract modes are allowed. -/
def Arises (allowed : Mode → Prop) : Schedule K → Prop :=
  Reached Initial Operation.perform (Operation.Within Plant.Arises allowed)

/-- Set up of some plants, and nothing is generated. -/
def Assembled (plants : Plant K → Prop) : Schedule K → Prop :=
  Reached Initial Operation.perform fun operation =>
    operation.Early ∧ operation.Within plants anyMode

theorem Assembled.arises {plants : Plant K → Prop} (assembled : schedule.Assembled plants)
    (arise : ∀ plant, plants plant → plant.Arises) : schedule.Arises anyMode :=
  assembled.mono (fun _ initial => .start initial) fun _ allowed =>
    allowed.2.mono arise fun _ permitted => permitted

omit [Scalar K] in
theorem Bare.early (bare : schedule.Bare) : schedule.stage.hasConstraints = false := by
  rw [bare.stage]
  rfl

/-- Without rows, only the scale of the plant moves. -/
theorem Bare.scalePlantAt_state (bare : schedule.Bare) (index : Nat) (address : Address)
    (values : List K) (physical abstract : Mode) :
    (Schedule.scalePlantAt index address values physical abstract schedule).state =
      (onPlant index (Plant.setScaleAt address values physical abstract) schedule).state := by
  unfold Schedule.scalePlantAt
  rw [Change.bind_apply]
  split
  · rfl
  · have early : (onPlant index (Plant.setScaleAt address values physical abstract)
        schedule).state.stage.hasConstraints = false := by
      rw [onPlant_apply]
      cases schedule.plants[index]? <;> exact bare.early
    rw [afterScale_apply, if_pos (by rw [early, Bool.not_false, Bool.or_true])]
    rfl

theorem Bare.scalePlantAt (bare : schedule.Bare) (index : Nat) (address : Address)
    (values : List K) (physical abstract : Mode) :
    (Schedule.scalePlantAt index address values physical abstract schedule).state.Bare := by
  rw [bare.scalePlantAt_state, onPlant_apply]
  cases found : schedule.plants[index]? with
  | none => exact bare
  | some plant =>
      have listed := List.mem_of_getElem? found
      refine { bare with plants := fun other member => ?_, horizons := fun other member => ?_ }
      · rcases List.mem_or_eq_of_mem_set member with before | rfl
        · exact bare.plants other before
        · exact (bare.plants plant listed).setScaleAt ..
      · rcases List.mem_or_eq_of_mem_set member with before | rfl
        · exact bare.horizons other before
        · obtain ⟨scale, objective, rest⟩ :=
            Plant.rest_setScaleAt address values physical abstract plant
          rw [rest]
          exact bare.horizons plant listed

omit [Scalar K] in
theorem Bare.withNotifier (bare : schedule.Bare) (notifier : NotifierKey) :
    (schedule.withNotifier notifier).Bare where
  plants plant member := by
    obtain ⟨earlier, there, rfl⟩ := List.mem_map.mp member
    exact congrArg (fun bare : Plant K => { bare with notifier }) (bare.plants earlier there)
  networks network member := by
    obtain ⟨earlier, there, rfl⟩ := List.mem_map.mp member
    exact (bare.networks earlier there).change (fun network => { network with notifier }) rfl
  horizons plant member := by
    obtain ⟨earlier, there, rfl⟩ := List.mem_map.mp member
    exact bare.horizons earlier there
  single bus := bare.single (by
    rw [isBus, Schedule.withNotifier, List.isEmpty_map] at bus
    exact bus)
  stage := bare.stage
  links := bare.links
  objective := bare.objective

theorem Bare.perform (bare : schedule.Bare) {operation : Operation K} (early : operation.Early) :
    (operation.perform schedule).Bare := by
  cases operation with
  | addPlant plant => exact bare.addPlant early
  | setNetwork => exact setNetwork_preserves bare fun created => bare.setNetwork created
  | setZoning need zoning => exact bare.setZoning need zoning
  | setEmissions emissions => exact bare.setEmissions emissions
  | withSettings settings => exact { bare with }
  | withNotifier notifier => exact bare.withNotifier notifier
  | withData => exact whileOpen_preserves bare fun _ => { bare with }
  | call step =>
      cases step with
      | scalePlantAt index address values physical abstract =>
          exact bare.scalePlantAt index address values physical abstract
      | setDemand address values physical abstract =>
          exact bare.setDemand address values physical abstract
      | setNetworkConstants constants => exact bare.setNetworkConstants constants
      | _ => exact early.elim

theorem Assembled.bare {plants : Plant K → Prop} (assembled : schedule.Assembled plants) :
    schedule.Bare := by
  induction assembled with
  | start initial =>
      cases initial with
      | ofHorizon id horizon => exact bare_ofHorizon id horizon
  | step _ operation allowed bare => exact bare.perform allowed.1

end Schedule

/-- The plant was read. -/
def Plant.Read (plant : Plant Float) : Prop :=
  ∃ group before after, Plant.ofGroup group before = (.ok plant, after)

theorem Plant.Read.initial {plant : Plant Float} (read : plant.Read) : plant.Initial := by
  obtain ⟨_, _, _, created⟩ := read
  exact initial_ofGroup created

theorem Plant.Read.arises {plant : Plant Float} (read : plant.Read) : plant.Arises :=
  .start read.initial

namespace Schedule

namespace Assembled

variable {group : Group} {schedule result : Schedule Float} {before after : Nat}

theorem withData (assembled : schedule.Assembled Plant.Read) (generatorNode : List Nat)
    (primary secondary inertia : Zoning Float) (emissions : Emissions Float)
    (layouts : Layouts) : Assembled Plant.Read
      { schedule with generatorNode, primary, secondary, inertia, emissions, layouts } := by
  have filled := assembled.step
    (.withData generatorNode primary secondary inertia emissions layouts) ⟨trivial, trivial⟩
  rwa [Operation.perform, whileOpen, Change.current_bind, assembled.bare.checkOpen] at filled

theorem call (assembled : schedule.Assembled Plant.Read) (step : Call Float)
    (updates : step.IsUpdate) : (step.perform schedule).Assembled Plant.Read :=
  Reached.step assembled (.call step) ⟨updates, step.within Plant.Read⟩

theorem addPlant (assembled : schedule.Assembled Plant.Read) {plant : Plant Float}
    (created : Plant.ofGroup group before = (.ok plant, after)) :
    (Schedule.addPlant plant schedule).state.Assembled Plant.Read :=
  Reached.step assembled (.addPlant plant) ⟨bare_ofGroup_plant created, _, _, _, created⟩

theorem setNetwork (assembled : schedule.Assembled Plant.Read) {descriptor : Descriptor Float}
    {generatorNode : List Nat}
    (created : schedule.setNetwork descriptor generatorNode before = (.ok result, after)) :
    result.Assembled Plant.Read :=
  Reached.setNetwork assembled ⟨trivial, trivial⟩ created

theorem addPlants {remaining index : Nat} (assembled : schedule.Assembled Plant.Read)
    (created : Schedule.addPlants group remaining index schedule before = (.ok result, after)) :
    result.Assembled Plant.Read := by
  induction remaining generalizing index schedule before with
  | zero =>
      cases Creation.pure_eq_ok created
      exact assembled
  | succ remaining induction =>
      obtain ⟨member, _, _, created⟩ := Creation.bind_eq_ok created
      obtain ⟨plant, _, read, created⟩ := Creation.bind_eq_ok created
      obtain ⟨added, _, add, created⟩ := Creation.bind_eq_ok created
      cases changed_eq_ok add
      exact induction (assembled.addPlant read) created

theorem networkOfGroup {factory : DescriptorFactory} {nodes : Nat}
    (assembled : schedule.Assembled Plant.Read)
    (created : Schedule.networkOfGroup factory group nodes schedule before =
      (.ok result, after)) : result.Assembled Plant.Read := by
  obtain ⟨generatorNode, _, _, created⟩ := Creation.bind_eq_ok created
  split at created
  · obtain ⟨classname, _, _, created⟩ := Creation.bind_eq_ok created
    obtain ⟨descriptor, _, _, created⟩ := Creation.bind_eq_ok created
    obtain ⟨given, _, _, created⟩ := Creation.bind_eq_ok created
    exact assembled.setNetwork created
  · cases Creation.pure_eq_ok created
    exact assembled.withData _ _ _ _ _ _

theorem demandOfGroup {nodes : Nat} (assembled : schedule.Assembled Plant.Read)
    (created : Schedule.demandOfGroup group nodes schedule before = (.ok result, after)) :
    result.Assembled Plant.Read := by
  obtain ⟨given, _, _, created⟩ := Creation.bind_eq_ok created
  cases given with
  | none =>
      cases Creation.pure_eq_ok created
      exact assembled
  | some demand =>
      obtain ⟨full, _, _, created⟩ := Creation.bind_eq_ok created
      cases changed_eq_ok created
      exact assembled.call (.setDemand _ _ _ _) trivial

theorem constantsOfGroup (assembled : schedule.Assembled Plant.Read)
    (created : Schedule.constantsOfGroup group schedule before = (.ok result, after)) :
    result.Assembled Plant.Read := by
  obtain ⟨given, _, _, created⟩ := Creation.bind_eq_ok created
  cases given with
  | none =>
      cases Creation.pure_eq_ok created
      exact assembled
  | some constants =>
      dsimp only at created
      split at created
      · cases changed_eq_ok created
        exact assembled.call (.setNetworkConstants _) trivial
      · obtain ⟨full, _, _, created⟩ := Creation.bind_eq_ok created
        cases changed_eq_ok created
        exact assembled.call (.setNetworkConstants _) trivial

end Assembled

theorem assembled_ofGroupWith {factory : DescriptorFactory} {group : Group}
    {result : Schedule Float} {before after : Nat}
    (created : ofGroupWith factory group before = (.ok result, after)) :
    result.Assembled Plant.Read := by
  obtain ⟨horizon, _, _, created⟩ := Creation.bind_eq_ok created
  obtain ⟨plants, _, _, created⟩ := Creation.bind_eq_ok created
  obtain ⟨opened, _, fresh, created⟩ := Creation.bind_eq_ok created
  obtain ⟨id, _, _, fresh⟩ := Creation.bind_eq_ok fresh
  cases Creation.pure_eq_ok fresh
  obtain ⟨filled, _, adds, created⟩ := Creation.bind_eq_ok created
  obtain ⟨attached, _, network, created⟩ := Creation.bind_eq_ok created
  obtain ⟨demanded, _, demand, created⟩ := Creation.bind_eq_ok created
  obtain ⟨primary, _, _, created⟩ := Creation.bind_eq_ok created
  obtain ⟨secondary, _, _, created⟩ := Creation.bind_eq_ok created
  obtain ⟨inertia, _, _, created⟩ := Creation.bind_eq_ok created
  obtain ⟨emissions, _, _, created⟩ := Creation.bind_eq_ok created
  obtain ⟨priced, _, constants, created⟩ := Creation.bind_eq_ok created
  have start : (ofHorizon id horizon : Schedule Float).Assembled Plant.Read :=
    .start (.ofHorizon id horizon)
  have placed := ((start.addPlants adds).networkOfGroup network).demandOfGroup demand
  have zoned := placed.withData demanded.generatorNode primary secondary inertia emissions
    demanded.layouts
  have whole := zoned.constantsOfGroup constants
  cases Creation.pure_eq_ok created
  exact whole.withData priced.generatorNode priced.primary priced.secondary priced.inertia
    priced.emissions (Layouts.ofGroup group)

theorem Created.arises {schedule : Schedule Float} (created : schedule.Created) :
    schedule.Arises anyMode := by
  cases created with
  | new created =>
      obtain ⟨id, _, _, fresh⟩ := Creation.bind_eq_ok created
      cases Creation.pure_eq_ok fresh
      exact .start (.ofHorizon id _)
  | ofGroupWith created =>
      exact (assembled_ofGroupWith created).arises fun _ read => read.arises

theorem Reachable.arises {schedule : Schedule Float} (reachable : schedule.Reachable) :
    schedule.Arises anyMode :=
  reachable.mono (fun _ created => created.arises) fun _ within =>
    within.mono (fun _ plant => plant.arises) fun _ permitted => permitted

end Schedule

end Dispatch
