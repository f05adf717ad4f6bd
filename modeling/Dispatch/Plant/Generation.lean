import Dispatch.Error
import Dispatch.Plant.Basic

namespace Dispatch.Plant

/-! The generated representation of a plant. Without commitment variables the power range
is a box and reserves share the capacity; with them both ends of the range are rows that
the commitment variable switches. -/

variable {K : Type} [Scalar K]

def addGridIf (store : Store K) (wanted : Bool) (rows cols : Nat) (proto : Variable K) :
    Store K × Grid :=
  if wanted then store.addGrid rows cols proto else (store, Grid.none)

def withVariables (plant : Plant K) : Plant K :=
  let rows := plant.generators
  let cols := plant.horizon
  let data := plant.data
  let (store, activePower) := plant.store.addGrid rows cols Variable.nonNegative
  let (store, commitment) := addGridIf store data.commitment rows cols Variable.binary
  let (store, primaryReserve) :=
    addGridIf store data.primaryReserve rows cols Variable.nonNegative
  let (store, secondaryReserve) :=
    addGridIf store data.secondaryReserve rows cols Variable.nonNegative
  { plant with
    stage := .vars
    store, activePower, commitment, primaryReserve, secondaryReserve }

/-- The power variable, which every generated plant has. -/
def power (plant : Plant K) (generator instant : Nat) : VarRef :=
  plant.store.cell plant.activePower generator instant

def hasReserves (plant : Plant K) : Bool :=
  plant.data.primaryReserve || plant.data.secondaryReserve

def weighted (weight : K) (var? : Option VarRef) : List (VarRef × K) :=
  var?.toList.map fun var => (var, weight)

/-- Power and reserves together use the capacity. -/
def capacityUse (plant : Plant K) (generator instant : Nat) : List (VarRef × K) :=
  (plant.power generator instant, 1) ::
    (weighted 1 (plant.primaryReserveVar? generator instant) ++
      weighted 1 (plant.secondaryReserveVar? generator instant))

def powerBox? (plant : Plant K) (generator instant : Nat) : Option (Box K) :=
  match plant.commitmentVar? generator instant with
  | some _ => none
  | none => some ⟨plant.power generator instant, plant.minPower generator instant,
      plant.maxPower generator instant⟩

/-- A committed generator delivers at least its minimum. -/
def minPowerRow? (plant : Plant K) (generator instant : Nat) : Option (Row K) :=
  (plant.commitmentVar? generator instant).map fun commitment =>
    ⟨.ofTerms [(plant.power generator instant, 1),
      (commitment, -plant.minPower generator instant)], 0, Scalar.infinity⟩

/-- Capacity bounds power and reserves together; a committed generator has none of it
while it is off. -/
def maxPowerRow? (plant : Plant K) (generator instant : Nat) : Option (Row K) :=
  match plant.commitmentVar? generator instant with
  | some commitment =>
      some ⟨.ofTerms (plant.capacityUse generator instant ++
        [(commitment, -plant.maxPower generator instant)]), -Scalar.infinity, 0⟩
  | none =>
      if plant.hasReserves then
        some ⟨.ofTerms (plant.capacityUse generator instant), -Scalar.infinity,
          plant.maxPower generator instant⟩
      else none

def collect {α : Type} (plant : Plant K) (item? : Nat → Nat → Option α) : List α :=
  plant.data.cells.filterMap fun cell => item? cell.1 cell.2

def withConstraints (plant : Plant K) : Plant K :=
  { plant with
    stage := .constraints
    powerBounds := { plant.powerBounds with items := plant.collect plant.powerBox? }
    minPowerRows := { plant.minPowerRows with items := plant.collect plant.minPowerRow? }
    maxPowerRows := { plant.maxPowerRows with
      items := plant.collect plant.maxPowerRow? } }

def costCoefficient (plant : Plant K) (generator instant : Nat) : K :=
  plant.scale * plant.linearCost generator instant

def costCoefficients (plant : Plant K) : List K :=
  plant.data.cells.map fun cell => plant.costCoefficient cell.1 cell.2

def costFunction (plant : Plant K) : LinearFunction K :=
  .ofTerms (plant.data.cells.map fun cell =>
    (plant.power cell.1 cell.2, plant.costCoefficient cell.1 cell.2))

def withObjective (plant : Plant K) : Plant K :=
  { plant with
    stage := .objective
    objective := some ⟨plant.costFunction, .minimise⟩ }

/-- One generation step: nothing to do when it was taken before. -/
def step (target : Stage) (advance : Plant K → Plant K) : Change (Plant K) PUnit := do
  let plant ← Change.current
  match ← Change.require (plant.stage.enter target) with
  | .skip => return ⟨⟩
  | .run => Change.write advance

def generateVariables : Change (Plant K) PUnit := step .vars withVariables

def generateConstraints : Change (Plant K) PUnit := step .constraints withConstraints

def generateObjective : Change (Plant K) PUnit := step .objective withObjective

def generateAll : Change (Plant K) PUnit := do
  generateVariables
  generateConstraints
  generateObjective

end Dispatch.Plant
