import Dispatch.Proofs.Closure.Store
import Dispatch.Proofs.Reachable.Accounted

namespace Dispatch.Plant

/-! Whatever a plant has generated refers to its own store, at every stage. -/

variable {K : Type} [Scalar K]

def grids (plant : Plant K) : List Grid :=
  [plant.activePower, plant.commitment, plant.primaryReserve, plant.secondaryReserve]

structure Grounded (plant : Plant K) : Prop where
  block : plant.store.block = plant.id
  power : plant.stage.hasVariables = true →
    plant.store.Lays plant.activePower plant.generators plant.horizon
  grids : ∀ grid ∈ plant.grids, plant.store.LaysOrEmpty grid plant.generators plant.horizon
  boxes : plant.powerBounds.RefersTo plant.store.Has
  minRows : plant.minPowerRows.RefersTo plant.store.Has
  maxRows : plant.maxPowerRows.RefersTo plant.store.Has
  costs : ∀ objective ∈ plant.objective, ∀ term ∈ objective.function.terms,
    plant.store.Has term.1

variable {plant : Plant K}

omit [Scalar K] in
theorem Grounded.closed (grounded : plant.Grounded) : plant.model.Closed := by
  refine Model.closed_of_store rfl rfl ⟨fun objective member => ?_, fun entry member => ?_⟩
  · exact grounded.costs objective (Option.mem_toList.mp member)
  · rcases List.mem_append.mp member with first | maxRow
    · cases List.mem_append.mp first with
      | inl box => exact grounded.boxes.entries entry box
      | inr minRow => exact grounded.minRows.entries entry minRow
    · exact grounded.maxRows.entries entry maxRow

omit [Scalar K] in
/-- A store that has grown, of a plant that is otherwise the same. -/
theorem Grounded.stored (grounded : plant.Grounded) {store : Store K}
    (grows : Store.Extends plant.store store) : ({ plant with store } : Plant K).Grounded where
  block := grows.block.trans grounded.block
  power reached := (grounded.power reached).extend grows
  grids grid member := (grounded.grids grid member).extend grows
  boxes := grounded.boxes.imp fun _ has => has.extend grows
  minRows := grounded.minRows.imp fun _ has => has.extend grows
  maxRows := grounded.maxRows.imp fun _ has => has.extend grows
  costs objective member term inside := (grounded.costs objective member term inside).extend grows

theorem grounded_ofData (id : BlockId) (data : PlantData K) (scale : K) (layouts : Layouts) :
    ({ ofData id data with scale, layouts } : Plant K).Grounded where
  block := rfl
  power late := by cases late
  grids grid member := by
    simp only [Plant.grids, ofData, List.mem_cons, List.not_mem_nil, or_false, or_self] at member
    subst member
    exact .inl rfl
  boxes := Family.refersTo_empty _ _
  minRows := Family.refersTo_empty _ _
  maxRows := Family.refersTo_empty _ _
  costs := nofun

omit [Scalar K] in
theorem addGridIf_grows (store : Store K) (wanted : Bool) (rows cols : Nat)
    (proto : Variable K) :
    Store.Extends store (addGridIf store wanted rows cols proto).1 ∧
      (addGridIf store wanted rows cols proto).1.LaysOrEmpty
        (addGridIf store wanted rows cols proto).2 rows cols := by
  cases wanted with
  | true =>
      exact ⟨store.extends_extend rows cols proto, .inr (store.lays_nextGrid rows cols proto)⟩
  | false => exact ⟨.refl store, .inl rfl⟩

/-- Variables come at the end of the store, grid after grid. -/
theorem withVariables_grows (plant : Plant K) :
    Store.Extends plant.store plant.withVariables.store ∧
      plant.withVariables.store.Lays plant.withVariables.activePower plant.generators
        plant.horizon ∧
      ∀ grid ∈ plant.withVariables.grids,
        plant.withVariables.store.LaysOrEmpty grid plant.generators plant.horizon := by
  have start := plant.store.extends_extend plant.generators plant.horizon
    (Variable.nonNegative : Variable K)
  have power := plant.store.lays_nextGrid plant.generators plant.horizon
    (Variable.nonNegative : Variable K)
  obtain ⟨second, commitment⟩ := addGridIf_grows
    (plant.store.extend plant.generators plant.horizon (Variable.nonNegative : Variable K))
    plant.data.commitment plant.generators plant.horizon Variable.binary
  obtain ⟨third, primary⟩ := addGridIf_grows (K := K) _ plant.data.primaryReserve
    plant.generators plant.horizon Variable.nonNegative
  obtain ⟨last, secondary⟩ := addGridIf_grows (K := K) _ plant.data.secondaryReserve
    plant.generators plant.horizon Variable.nonNegative
  have rest := second.trans (third.trans last)
  refine ⟨start.trans rest, power.extend rest, fun grid member => ?_⟩
  simp only [Plant.grids, List.mem_cons, List.not_mem_nil, or_false] at member
  rcases member with rfl | rfl | rfl | rfl
  · exact .inr (power.extend rest)
  · exact commitment.extend (third.trans last)
  · exact primary.extend last
  · exact secondary

theorem Grounded.withVariables (grounded : plant.Grounded) : plant.withVariables.Grounded := by
  obtain ⟨grows, power, grids⟩ := plant.withVariables_grows
  exact { grounded.stored grows with power := fun _ => power, grids }

section Rows

variable (grounded : plant.Grounded) (generated : plant.stage.hasVariables = true)
  {generator instant : Nat}

omit [Scalar K] in
theorem weighted_refers {known : VarRef → Prop} {weight : K} {var? : Option VarRef}
    (found : ∀ var, var? = some var → known var) :
    ∀ term ∈ weighted weight var?, known term.1 := by
  intro term member
  obtain ⟨var, present, rfl⟩ := List.mem_map.mp member
  exact found var (Option.mem_toList.mp present)

include grounded in
omit [Scalar K] in
theorem Grounded.cell? {grid : Grid} (member : grid ∈ plant.grids)
    (generator_lt : generator < plant.generators) (instant_lt : instant < plant.horizon)
    {var : VarRef} (found : plant.store.cell? grid generator instant = some var) :
    plant.store.Has var :=
  (grounded.grids grid member).cell? generator_lt instant_lt found

include grounded generated in
omit [Scalar K] in
theorem Grounded.power_has (generator_lt : generator < plant.generators)
    (instant_lt : instant < plant.horizon) : plant.store.Has (plant.power generator instant) :=
  (grounded.power generated).cell generator_lt instant_lt

include grounded generated in
theorem Grounded.capacityUse (generator_lt : generator < plant.generators)
    (instant_lt : instant < plant.horizon) :
    ∀ term ∈ plant.capacityUse generator instant, plant.store.Has term.1 := by
  intro term member
  rcases List.mem_cons.mp member with rfl | reserve
  · exact grounded.power_has generated generator_lt instant_lt
  · cases List.mem_append.mp reserve with
    | inl primary =>
        exact weighted_refers (fun var => grounded.cell? (by simp [Plant.grids]) generator_lt
          instant_lt) term primary
    | inr secondary =>
        exact weighted_refers (fun var => grounded.cell? (by simp [Plant.grids]) generator_lt
          instant_lt) term secondary

include grounded generated in
theorem Grounded.withConstraints : plant.withConstraints.Grounded := by
  have commitment {generator instant : Nat} (generator_lt : generator < plant.generators)
      (instant_lt : instant < plant.horizon) {var : VarRef}
      (found : plant.commitmentVar? generator instant = some var) : plant.store.Has var :=
    grounded.cell? (by simp [Plant.grids]) generator_lt instant_lt found
  refine { grounded with
    power := fun _ => grounded.power generated
    boxes := fun box member => ?_, minRows := fun row member => ?_
    maxRows := fun row member => ?_ }
  all_goals
    obtain ⟨⟨generator, instant⟩, cell, built⟩ := List.mem_filterMap.mp member
    obtain ⟨generator_lt, instant_lt⟩ := PlantData.mem_cells.mp cell
    dsimp only at built
    have power := grounded.power_has generated generator_lt instant_lt
  · unfold powerBox? at built
    split at built
    · cases built
    · cases built
      exact List.forall_mem_singleton.mpr power
  · obtain ⟨var, found, rfl⟩ := Option.map_eq_some_iff.mp built
    have committed := commitment generator_lt instant_lt found
    exact List.forall_mem_cons.mpr ⟨power, List.forall_mem_singleton.mpr committed⟩
  · have capacity := grounded.capacityUse generated generator_lt instant_lt
    unfold maxPowerRow? at built
    split at built
    · rename_i var found
      cases built
      refine List.forall_mem_map.mpr fun term inside => ?_
      rcases List.mem_append.mp inside with use | off
      · exact capacity term use
      · rw [List.mem_singleton.mp off]
        exact commitment generator_lt instant_lt found
    · split at built
      · cases built
        exact List.forall_mem_map.mpr capacity
      · cases built

include grounded generated in
theorem Grounded.withObjective : plant.withObjective.Grounded := by
  refine { grounded with
    power := fun _ => grounded.power generated, costs := fun objective member term inside => ?_ }
  cases member
  obtain ⟨⟨generator, instant⟩, cell, rfl⟩ := List.mem_map.mp inside
  obtain ⟨generator_lt, instant_lt⟩ := PlantData.mem_cells.mp cell
  exact grounded.power_has generated generator_lt instant_lt

end Rows

/-! What is done to a plant never takes variables away. -/

structure Follows (before after : Plant K) : Prop where
  grounded : before.Grounded → after.Grounded
  id : after.id = before.id
  store : Store.Extends before.store after.store
  data : after.data = before.data

omit [Scalar K] in
theorem Follows.refl (plant : Plant K) : Follows plant plant :=
  ⟨fun grounded => grounded, rfl, .refl _, rfl⟩

omit [Scalar K] in
theorem Follows.step {target : Stage} {advance : Plant K → Plant K}
    (advances : plant.stage.enter target = .ok .run → Follows plant (advance plant)) :
    Follows plant (Plant.step target advance plant).state :=
  step_preserves (.refl plant) advances

theorem Follows.generateVariables (plant : Plant K) :
    Follows plant (Plant.generateVariables plant).state :=
  Follows.step fun _ =>
    ⟨fun grounded => grounded.withVariables, rfl, plant.withVariables_grows.1, rfl⟩

theorem Follows.generateConstraints (plant : Plant K) :
    Follows plant (Plant.generateConstraints plant).state :=
  Follows.step fun entered => ⟨fun grounded => grounded.withConstraints (by
    rw [Stage.enter_constraints entered]
    rfl), rfl, .refl _, rfl⟩

theorem Follows.generateObjective (plant : Plant K) :
    Follows plant (Plant.generateObjective plant).state :=
  Follows.step fun entered => ⟨fun grounded => grounded.withObjective (by
    rw [Stage.enter_objective entered]
    rfl), rfl, .refl _, rfl⟩

/-- Other costs fall on the same variables. -/
theorem Grounded.withCosts (grounded : plant.Grounded) {result : Plant K}
    (patched : plant.withCosts = .ok result) : result.Grounded := by
  unfold Plant.withCosts at patched
  split at patched
  · cases patched
    exact grounded
  · rename_i objective generated
    obtain ⟨function, replaced, equality⟩ := Except.bind_eq_ok.mp patched
    cases equality
    refine { grounded with costs := fun other member term inside => ?_ }
    cases member
    have vars : term.1 ∈ function.terms.map Prod.fst := List.mem_map_of_mem inside
    rw [LinearFunction.vars_setCoefficients replaced] at vars
    obtain ⟨before, there, same⟩ := List.mem_map.mp vars
    rw [← same]
    exact grounded.costs objective generated before there

theorem Follows.withScale {result : Plant K} {scale : K} {abstract : Mode}
    (rescaled : plant.withScale scale abstract = .ok result) : Follows plant result := by
  have rest := withScale_rest rescaled
  refine ⟨fun grounded => ?_, by rw [rest], ?_, by rw [rest]⟩
  · have scaled : (plant.rescaled scale).Grounded := { grounded with }
    unfold Plant.withScale at rescaled
    split at rescaled
    · exact scaled.withCosts rescaled
    · cases rescaled
      exact scaled
  · rw [rest]
    exact .refl _

theorem Follows.setScaleAt (address : Address) (values : List K) (physical abstract : Mode)
    (plant : Plant K) :
    Follows plant (Plant.setScaleAt address values physical abstract plant).state := by
  rw [setScaleAt_apply]
  split
  · exact .refl plant
  · exact .refl plant
  · rename_i selection _
    rw [updateScale_apply]
    dsimp only
    split
    · exact .refl plant
    · split
      · exact .refl plant
      · split
        · exact ⟨fun grounded => { grounded with }, rfl, .refl _, rfl⟩
        · rename_i moved
          exact .withScale moved

/-- As `Reachable`, but the store is only ever changed by what a store offers. -/
def Operated : Plant Float → Prop :=
  Reached (Created PlantData.Shaped) Operation.perform (Operation.Edits Store.Offers)

theorem Operated.reachable {plant : Plant Float} (operated : plant.Operated) :
    plant.Reachable :=
  operated.mono (fun _ created => .start created) fun _ _ => trivial

theorem Initial.grounded (initial : plant.Initial) : plant.Grounded := by
  cases initial with
  | ofData id shaped scale layouts => exact grounded_ofData id _ scale layouts

theorem Grounded.perform (grounded : plant.Grounded) {operation : Operation K}
    (edits : operation.Edits Store.Offers) : (operation.perform plant).Grounded := by
  cases operation with
  | withSettings settings => exact { grounded with }
  | withNotifier notifier => exact { grounded with }
  | editStore edit => exact grounded.stored (edits.extends plant.store)
  | generateVariables => exact (Follows.generateVariables plant).grounded grounded
  | generateConstraints => exact (Follows.generateConstraints plant).grounded grounded
  | generateObjective => exact (Follows.generateObjective plant).grounded grounded
  | setScaleAt address values physical abstract =>
      exact (Follows.setScaleAt address values physical abstract plant).grounded grounded

theorem Operated.grounded {plant : Plant Float} (operated : plant.Operated) :
    plant.Grounded := by
  induction operated with
  | start created => exact (created.initial fun _ shaped => shaped).grounded
  | step _ operation edits grounded => exact grounded.perform edits

end Dispatch.Plant
