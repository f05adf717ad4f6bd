import Dispatch.Proofs.Change.Parallel
import Dispatch.Proofs.Plant.Generation
import Dispatch.Proofs.Transport.Basic

namespace Dispatch

/-! Plants over numbers of their own, carried over to common ones. What generation makes of plants
that meet there meets there again. -/

variable {K L M : Type} [Scalar K] [Scalar L] [Scalar M]
  {left : Transport K L} {right : Transport M L}

namespace Store

variable {first : Store K} {second : Store M}

theorem cell_meets (same : first.map left = second.map right) (grid : Grid) (row col : Nat) :
    left.var (first.cell grid row col) = right.var (second.cell grid row col) := by
  rw [← cell_map, ← cell_map, same]

theorem cell?_meets (same : first.map left = second.map right) (grid : Grid) (row col : Nat) :
    (first.cell? grid row col).map left.var = (second.cell? grid row col).map right.var := by
  rw [← cell?_map, ← cell?_map, same]

theorem addGrid_meets (same : first.map left = second.map right) {rows others cols another : Nat}
    (high : rows = others) (wide : cols = another) {proto : Variable K} {other : Variable M}
    (protos : proto.map left = other.map right) :
    (first.addGrid rows cols proto).1.map left =
        (second.addGrid others another other).1.map right ∧
      (first.addGrid rows cols proto).2 = (second.addGrid others another other).2 := by
  subst high wide
  have grids := (first.addGrid_map left rows cols proto).symm
  rw [same, protos, second.addGrid_map] at grids
  exact Prod.ext_iff.mp grids

end Store

/-- Families that meet do so with other items, if those meet. -/
theorem Family.map_withItems {α β γ : Type} {family : Family α} {other : Family β}
    {carry : α → γ} {bring : β → γ} (same : family.map carry = other.map bring)
    {items : List α} {others : List β} (carried : items.map carry = others.map bring) :
    ({ family with items } : Family α).map carry =
      ({ other with items := others } : Family β).map bring := by
  unfold Family.map at same ⊢
  rw [Family.mk.injEq] at same ⊢
  exact ⟨same.1, same.2.1, carried⟩

namespace Plant

/-- Carried over, the two plants are the same in all that is generated of them and from them. -/
structure Meets (left : Transport K L) (right : Transport M L) (first : Plant K)
    (second : Plant M) : Prop where
  stage : first.stage = second.stage
  generators : first.generators = second.generators
  horizon : first.horizon = second.horizon
  committed : first.data.commitment = second.data.commitment
  primary : first.data.primaryReserve = second.data.primaryReserve
  secondary : first.data.secondaryReserve = second.data.secondaryReserve
  hasFixedConsumption : first.hasFixedConsumption = second.hasFixedConsumption
  hasInertiaPower : first.hasInertiaPower = second.hasInertiaPower
  hasInertiaCommitment : first.hasInertiaCommitment = second.hasInertiaCommitment
  scale : left.number first.scale = right.number second.scale
  minPower : ∀ generator instant,
    left.number (first.minPower generator instant) =
      right.number (second.minPower generator instant)
  maxPower : ∀ generator instant,
    left.number (first.maxPower generator instant) =
      right.number (second.maxPower generator instant)
  linearCost : ∀ generator instant,
    left.number (first.linearCost generator instant) =
      right.number (second.linearCost generator instant)
  fixedConsumption : ∀ generator instant,
    left.number (first.fixedConsumption generator instant) =
      right.number (second.fixedConsumption generator instant)
  inertiaPower : ∀ generator instant,
    left.number (first.inertiaPower generator instant) =
      right.number (second.inertiaPower generator instant)
  inertiaCommitment : ∀ generator instant,
    left.number (first.inertiaCommitment generator instant) =
      right.number (second.inertiaCommitment generator instant)
  store : first.store.map left = second.store.map right
  activePower : first.activePower = second.activePower
  commitment : first.commitment = second.commitment
  primaryReserve : first.primaryReserve = second.primaryReserve
  secondaryReserve : first.secondaryReserve = second.secondaryReserve
  powerBounds : first.powerBounds.map (fun box => box.map left) =
    second.powerBounds.map fun box => box.map right
  minPowerRows : first.minPowerRows.map (fun row => row.map left) =
    second.minPowerRows.map fun row => row.map right
  maxPowerRows : first.maxPowerRows.map (fun row => row.map left) =
    second.maxPowerRows.map fun row => row.map right
  objective : first.objective.map (fun objective => objective.map left) =
    second.objective.map fun objective => objective.map right

namespace Meets

variable {first : Plant K} {second : Plant M}

section Variables

variable (meets : first.Meets left right second) (generator instant : Nat)

include meets

theorem power : left.var (first.power generator instant) =
    right.var (second.power generator instant) := by
  rw [Plant.power, Plant.power, meets.activePower]
  exact Store.cell_meets meets.store _ _ _

theorem activePowerVar? : (first.activePowerVar? generator instant).map left.var =
    (second.activePowerVar? generator instant).map right.var := by
  rw [Plant.activePowerVar?, Plant.activePowerVar?, meets.activePower]
  exact Store.cell?_meets meets.store _ _ _

theorem commitmentVar? : (first.commitmentVar? generator instant).map left.var =
    (second.commitmentVar? generator instant).map right.var := by
  rw [Plant.commitmentVar?, Plant.commitmentVar?, meets.commitment]
  exact Store.cell?_meets meets.store _ _ _

theorem primaryReserveVar? : (first.primaryReserveVar? generator instant).map left.var =
    (second.primaryReserveVar? generator instant).map right.var := by
  rw [Plant.primaryReserveVar?, Plant.primaryReserveVar?, meets.primaryReserve]
  exact Store.cell?_meets meets.store _ _ _

theorem secondaryReserveVar? : (first.secondaryReserveVar? generator instant).map left.var =
    (second.secondaryReserveVar? generator instant).map right.var := by
  rw [Plant.secondaryReserveVar?, Plant.secondaryReserveVar?, meets.secondaryReserve]
  exact Store.cell?_meets meets.store _ _ _

end Variables

omit [Scalar M] in
theorem map_weighted (transport : Transport K L) (weight : K) (var? : Option VarRef) :
    (weighted weight var?).map transport.term =
      weighted (transport.number weight) (var?.map transport.var) := by
  cases var? <;> rfl

section Rows

variable (meets : first.Meets left right second) (generator instant : Nat)

include meets

theorem cells : first.data.cells = second.data.cells := by
  have generators : first.data.generators = second.data.generators := meets.generators
  have horizon : first.data.horizon = second.data.horizon := meets.horizon
  rw [PlantData.cells, PlantData.cells, generators, horizon]

theorem capacityUse : (first.capacityUse generator instant).map left.term =
    (second.capacityUse generator instant).map right.term := by
  unfold Plant.capacityUse
  simp only [List.map_cons, List.map_append, map_weighted, Transport.term_mk,
    Transport.number_one, meets.power, meets.primaryReserveVar?, meets.secondaryReserveVar?]

theorem powerBox? : (first.powerBox? generator instant).map (fun box => box.map left) =
    (second.powerBox? generator instant).map fun box => box.map right := by
  have commitment := meets.commitmentVar? generator instant
  unfold Plant.powerBox?
  cases here : first.commitmentVar? generator instant <;>
    cases there : second.commitmentVar? generator instant <;> rw [here, there] at commitment
  case none.none =>
    simp only [Option.map_some, Box.map, meets.power, meets.minPower, meets.maxPower]
  case some.some => rfl
  all_goals cases commitment

theorem minPowerRow? : (first.minPowerRow? generator instant).map (fun row => row.map left) =
    (second.minPowerRow? generator instant).map fun row => row.map right := by
  have commitment := meets.commitmentVar? generator instant
  unfold Plant.minPowerRow?
  cases here : first.commitmentVar? generator instant <;>
    cases there : second.commitmentVar? generator instant <;> rw [here, there] at commitment
  case none.none => rfl
  case some.some =>
    simp only [Option.map_some, Option.some.injEq] at commitment
    simp [Row.map, meets.power, commitment, meets.minPower]
  all_goals cases commitment

theorem maxPowerRow? : (first.maxPowerRow? generator instant).map (fun row => row.map left) =
    (second.maxPowerRow? generator instant).map fun row => row.map right := by
  have commitment := meets.commitmentVar? generator instant
  have reserves : first.hasReserves = second.hasReserves := by
    rw [Plant.hasReserves, Plant.hasReserves, meets.primary, meets.secondary]
  unfold Plant.maxPowerRow?
  cases here : first.commitmentVar? generator instant <;>
    cases there : second.commitmentVar? generator instant <;> rw [here, there] at commitment
  case none.none =>
    simp only [reserves, apply_ite (Option.map _), Option.map_none, Option.map_some, Row.map,
      LinearFunction.map_ofTerms, meets.capacityUse, meets.maxPower, Transport.number_neg,
      Transport.number_infinity]
  case some.some =>
    simp only [Option.map_some, Option.some.injEq] at commitment
    simp [Row.map, meets.capacityUse, commitment, meets.maxPower]
  all_goals cases commitment

end Rows

section Steps

theorem collect (meets : first.Meets left right second) {α β γ : Type}
    {item? : Nat → Nat → Option α} {other? : Nat → Nat → Option β} {carry : α → γ}
    {bring : β → γ} (same : ∀ generator instant,
      (item? generator instant).map carry = (other? generator instant).map bring) :
    (first.collect item?).map carry = (second.collect other?).map bring := by
  unfold Plant.collect
  rw [List.map_filterMap, List.map_filterMap, meets.cells]
  simp only [same]

theorem addGridIf (meets : first.Meets left right second) {store : Store K} {other : Store M}
    (same : store.map left = other.map right) {wanted desired : Bool} (will : wanted = desired)
    {proto : Variable K} {model : Variable M} (protos : proto.map left = model.map right) :
    (Plant.addGridIf store wanted first.generators first.horizon proto).1.map left =
        (Plant.addGridIf other desired second.generators second.horizon model).1.map right ∧
      (Plant.addGridIf store wanted first.generators first.horizon proto).2 =
        (Plant.addGridIf other desired second.generators second.horizon model).2 := by
  subst will
  cases wanted with
  | true => exact Store.addGrid_meets same meets.generators meets.horizon protos
  | false => exact ⟨same, rfl⟩

theorem withVariables (meets : first.Meets left right second) :
    first.withVariables.Meets left right second.withVariables := by
  have positive : (Variable.nonNegative : Variable K).map left =
      (Variable.nonNegative : Variable M).map right := by
    rw [Variable.map_nonNegative, Variable.map_nonNegative]
  have switch : (Variable.binary : Variable K).map left =
      (Variable.binary : Variable M).map right := by
    rw [Variable.map_binary, Variable.map_binary]
  obtain ⟨powered, activePower⟩ :=
    Store.addGrid_meets meets.store meets.generators meets.horizon positive
  obtain ⟨switched, commitment⟩ := meets.addGridIf powered meets.committed switch
  obtain ⟨reserved, primaryReserve⟩ := meets.addGridIf switched meets.primary positive
  obtain ⟨stored, secondaryReserve⟩ := meets.addGridIf reserved meets.secondary positive
  exact { meets with
    stage := rfl
    store := stored
    activePower := activePower
    commitment := commitment
    primaryReserve := primaryReserve
    secondaryReserve := secondaryReserve }

theorem withConstraints (meets : first.Meets left right second) :
    first.withConstraints.Meets left right second.withConstraints :=
  { meets with
    stage := rfl
    powerBounds := Family.map_withItems meets.powerBounds (meets.collect meets.powerBox?)
    minPowerRows := Family.map_withItems meets.minPowerRows (meets.collect meets.minPowerRow?)
    maxPowerRows := Family.map_withItems meets.maxPowerRows (meets.collect meets.maxPowerRow?) }

theorem costFunction (meets : first.Meets left right second) :
    first.costFunction.map left = second.costFunction.map right := by
  unfold Plant.costFunction
  rw [LinearFunction.map_ofTerms, LinearFunction.map_ofTerms, List.map_map, List.map_map,
    meets.cells]
  refine congrArg LinearFunction.ofTerms (List.map_congr_left fun cell _ => ?_)
  simp only [Function.comp_apply, Transport.term_mk, costCoefficient, Transport.number_mul,
    meets.power, meets.scale, meets.linearCost]

theorem withObjective (meets : first.Meets left right second) :
    first.withObjective.Meets left right second.withObjective :=
  { meets with
    stage := rfl
    objective := by
      simp only [Plant.withObjective, Option.map_some, Objective.map, meets.costFunction] }

theorem step (meets : first.Meets left right second) (target : Stage)
    {advance : Plant K → Plant K} {other : Plant M → Plant M}
    (advances : (advance first).Meets left right (other second)) :
    (Plant.step target advance first).Parallel (Meets left right)
      (Plant.step target other second) := by
  rw [step_apply, step_apply, meets.stage]
  cases second.stage.enter target with
  | error error => exact ⟨rfl, meets⟩
  | ok action =>
      cases action with
      | skip => exact ⟨rfl, meets⟩
      | run => exact ⟨rfl, advances⟩

end Steps

end Meets

end Plant

end Dispatch
