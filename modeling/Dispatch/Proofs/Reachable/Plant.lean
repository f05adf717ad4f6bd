import Dispatch.Proofs.Attempt.Plant
import Dispatch.Proofs.Reached

namespace Dispatch.Plant

/-! Plants that a program can arrive at. All of them have their shape, so that rescaling one
happens as a whole or not at all. -/

variable {K : Type} [Scalar K] {plant : Plant K}

private theorem shaped_ifPresent {group : Group} {name : String}
    {data result : PlantData Float}
    {extend : PlantData Float → List Float → Except Error (PlantData Float)}
    (shaped : data.Shaped)
    (extends? : ∀ values extended, extend data values = .ok extended → extended.Shaped)
    (read : ifPresent group name data extend = .ok result) : result.Shaped := by
  obtain ⟨given, _, read⟩ := Except.bind_eq_ok.mp read
  cases given with
  | none =>
      cases read
      exact shaped
  | some values => exact extends? values result read

theorem shaped_dataOfGroup {group : Group} {data : PlantData Float}
    (read : dataOfGroup group = .ok data) : data.Shaped := by
  obtain ⟨horizon, _, read⟩ := Except.bind_eq_ok.mp read
  obtain ⟨minPower, _, read⟩ := Except.bind_eq_ok.mp read
  obtain ⟨maxPower, _, read⟩ := Except.bind_eq_ok.mp read
  obtain ⟨plain, created, read⟩ := Except.bind_eq_ok.mp read
  have shaped := PlantData.shaped_new created
  obtain ⟨priced, cost, read⟩ := Except.bind_eq_ok.mp read
  replace shaped := shaped_ifPresent shaped (fun _ _ => shaped.withLinearCost) cost
  obtain ⟨commitment, _, read⟩ := Except.bind_eq_ok.mp read
  obtain ⟨primaryReserve, _, read⟩ := Except.bind_eq_ok.mp read
  obtain ⟨secondaryReserve, _, read⟩ := Except.bind_eq_ok.mp read
  have flagged : ({ priced with commitment, primaryReserve, secondaryReserve } :
      PlantData Float).Shaped := shaped
  obtain ⟨consuming, consumption, read⟩ := Except.bind_eq_ok.mp read
  replace shaped :=
    shaped_ifPresent flagged (fun _ _ => flagged.withFixedConsumption) consumption
  obtain ⟨inert, inertia, read⟩ := Except.bind_eq_ok.mp read
  replace shaped := shaped_ifPresent shaped (fun _ _ => shaped.withInertiaPower) inertia
  exact shaped_ifPresent shaped (fun _ _ => shaped.withInertiaCommitment) read

omit [Scalar K] in
theorem Shaped.step (shaped : plant.Shaped) {target : Stage} {advance : Plant K → Plant K}
    (advances : (advance plant).Shaped) : (Plant.step target advance plant).state.Shaped :=
  step_preserves shaped fun _ => advances

theorem Shaped.generateVariables (shaped : plant.Shaped) :
    (Plant.generateVariables plant).state.Shaped :=
  shaped.step (shaped.congr rfl rfl)

theorem Shaped.generateConstraints (shaped : plant.Shaped) :
    (Plant.generateConstraints plant).state.Shaped :=
  shaped.step (shaped.congr rfl rfl)

theorem Shaped.generateObjective (shaped : plant.Shaped) :
    (Plant.generateObjective plant).state.Shaped :=
  shaped.step shaped.withObjective

inductive Operation (K : Type)
  | withSettings (settings : Option (Settings K))
  | withNotifier (notifier : NotifierKey)
  | editStore (edit : Store K → Store K)
  | generateVariables
  | generateConstraints
  | generateObjective
  | setScaleAt (address : Address) (values : List K) (physical abstract : Mode)

/-- The plant afterwards, whether the operation was refused or not. -/
def Operation.perform (plant : Plant K) : Operation K → Plant K
  | .withSettings settings => { plant with settings }
  | .withNotifier notifier => { plant with notifier }
  | .editStore edit => { plant with store := edit plant.store }
  | .generateVariables => (Plant.generateVariables plant).state
  | .generateConstraints => (Plant.generateConstraints plant).state
  | .generateObjective => (Plant.generateObjective plant).state
  | .setScaleAt address values physical abstract =>
      (Plant.setScaleAt address values physical abstract plant).state

/-- Only some edits of the store. -/
def Operation.Edits (edits : (Store K → Store K) → Prop) : Operation K → Prop
  | .editStore edit => edits edit
  | _ => True

/-- A plant as a program gets it, of data that may be supplied or from a group. -/
inductive Created (supplied : PlantData Float → Prop) : Plant Float → Prop
  | new {data : PlantData Float} {plant : Plant Float} {before after : Nat}
      (supplies : supplied data) (created : Plant.new data before = (.ok plant, after)) :
      Created supplied plant
  | ofGroup {group : Group} {plant : Plant Float} {before after : Nat}
      (created : Plant.ofGroup group before = (.ok plant, after)) : Created supplied plant

/-- Every state that a program can arrive at. The fields of the data are open, so that only the
sizes of its profiles are certain. -/
def Reachable : Plant Float → Prop :=
  Reached (Created PlantData.Shaped) Operation.perform fun _ => True

/-- Nothing but data of the right sizes, a scale and layouts. -/
inductive Initial : Plant K → Prop
  | ofData (id : BlockId) {data : PlantData K} (shaped : data.Shaped) (scale : K)
      (layouts : Layouts) : Initial { ofData id data with scale, layouts }

/-- As `Reachable`, over numbers of any kind. -/
def Arises : Plant K → Prop :=
  Reached Initial Operation.perform fun _ => True

theorem initial_ofGroup {group : Group} {plant : Plant Float} {before after : Nat}
    (created : Plant.ofGroup group before = (.ok plant, after)) : plant.Initial := by
  obtain ⟨data, _, read, created⟩ := Creation.bind_eq_ok created
  obtain ⟨start, _, fresh, created⟩ := Creation.bind_eq_ok created
  obtain ⟨id, _, _, fresh⟩ := Creation.bind_eq_ok fresh
  cases Creation.pure_eq_ok fresh
  obtain ⟨scale, _, _, created⟩ := Creation.bind_eq_ok created
  cases Creation.pure_eq_ok created
  exact .ofData id (shaped_dataOfGroup (Creation.require_eq_ok read).1) scale _

theorem Created.initial {supplied : PlantData Float → Prop} {plant : Plant Float}
    (shapes : ∀ data, supplied data → data.Shaped) (created : plant.Created supplied) :
    plant.Initial := by
  cases created with
  | new supplies created =>
      obtain ⟨id, _, _, fresh⟩ := Creation.bind_eq_ok created
      cases Creation.pure_eq_ok fresh
      exact .ofData id (shapes _ supplies) 1 Layouts.none
  | ofGroup created => exact initial_ofGroup created

theorem Reachable.arises {plant : Plant Float} (reachable : plant.Reachable) : plant.Arises :=
  reachable.mono (fun _ created => .start (created.initial fun _ shaped => shaped))
    fun _ _ => trivial

theorem Initial.shaped (initial : plant.Initial) : plant.Shaped := by
  cases initial with
  | ofData id shaped scale layouts =>
      have fresh := shaped_ofData id shaped
      exact ⟨fresh.data, fresh.costs⟩

theorem Shaped.perform (shaped : plant.Shaped) (operation : Operation K) :
    (operation.perform plant).Shaped := by
  cases operation with
  | withSettings settings => exact shaped.congr rfl rfl
  | withNotifier notifier => exact shaped.congr rfl rfl
  | editStore edit => exact shaped.congr rfl rfl
  | generateVariables => exact shaped.generateVariables
  | generateConstraints => exact shaped.generateConstraints
  | generateObjective => exact shaped.generateObjective
  | setScaleAt address values physical abstract =>
      exact shaped.setScaleAt address values physical abstract

theorem Arises.shaped (arises : plant.Arises) : plant.Shaped := by
  induction arises with
  | start initial => exact initial.shaped
  | step _ operation _ shaped => exact shaped.perform operation

theorem Shaped.allOrNothing (shaped : plant.Shaped) (address : Address) (values : List K)
    (physical abstract : Mode) :
    AllOrNothing (setScaleAt? address values physical abstract)
      (Plant.setScaleAt address values physical abstract) plant :=
  ⟨completes_setScaleAt shaped address values physical abstract,
    shaped.atomic_setScaleAt address values physical abstract⟩

end Dispatch.Plant
