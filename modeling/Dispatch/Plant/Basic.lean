import Dispatch.Change.Effect
import Dispatch.Group.Layouts
import Dispatch.Model

namespace Dispatch

/-! A plant: generators that are scheduled together over a horizon. Its scale multiplies
everything, so the parent sees that many copies of every generator. -/

/-- Every profile holds one value per generator and instant, generator by generator; an
empty optional one is zero everywhere. -/
structure PlantData (K : Type) where
  generators : Nat
  horizon : Nat
  minPower : List K
  maxPower : List K
  linearCost : List K
  commitment : Bool
  primaryReserve : Bool
  secondaryReserve : Bool
  fixedConsumption : List K
  inertiaPower : List K
  inertiaCommitment : List K

namespace PlantData

variable {K : Type}

def expanded (data : PlantData K) (values : List K) (what : String) :
    Except Error (List K) :=
  expand values data.generators data.horizon what

/-- A power range for every generator and nothing optional. -/
def new (generators horizon : Nat) (minPower maxPower : List K) :
    Except Error (PlantData K) := do
  let minPower ← expand minPower generators horizon "MinPower"
  let maxPower ← expand maxPower generators horizon "MaxPower"
  return {
    generators, horizon, minPower, maxPower
    linearCost := []
    commitment := false
    primaryReserve := false
    secondaryReserve := false
    fixedConsumption := []
    inertiaPower := []
    inertiaCommitment := [] }

def withLinearCost (data : PlantData K) (values : List K) :
    Except Error (PlantData K) := do
  return { data with linearCost := ← data.expanded values "LinearCost" }

def withCommitment (data : PlantData K) : PlantData K :=
  { data with commitment := true }

def withReserves (data : PlantData K) (primary secondary : Bool) : PlantData K :=
  { data with primaryReserve := primary, secondaryReserve := secondary }

def withFixedConsumption (data : PlantData K) (values : List K) :
    Except Error (PlantData K) := do
  return { data with fixedConsumption := ← data.expanded values "FixedConsumption" }

def withInertiaPower (data : PlantData K) (values : List K) :
    Except Error (PlantData K) := do
  return { data with inertiaPower := ← data.expanded values "InertiaPower" }

def withInertiaCommitment (data : PlantData K) (values : List K) :
    Except Error (PlantData K) := do
  return { data with inertiaCommitment := ← data.expanded values "InertiaCommitment" }

def withInertia (data : PlantData K) (power commitment : List K) :
    Except Error (PlantData K) := do
  (← data.withInertiaPower power).withInertiaCommitment commitment

/-- The generators and instants in storage order. -/
def cells (data : PlantData K) : List (Nat × Nat) :=
  (List.range data.generators).flatMap fun generator =>
    (List.range data.horizon).map fun instant => (generator, instant)

def position (data : PlantData K) (generator instant : Nat) : Nat :=
  generator * data.horizon + instant

/-- The entry of a profile, zero for an absent one; a place outside a given profile has
none. -/
def entry? [Zero K] (data : PlantData K) (profile : List K) (generator instant : Nat) :
    Option K :=
  if profile.isEmpty then some 0 else profile[data.position generator instant]?

def entry [Zero K] (data : PlantData K) (profile : List K) (generator instant : Nat) :
    K :=
  (data.entry? profile generator instant).getD 0

end PlantData

structure Plant (K : Type) where
  id : BlockId
  stage : Stage
  settings : Option (Settings K)
  notifier : NotifierKey
  data : PlantData K
  scale : K
  store : Store K
  activePower : Grid
  commitment : Grid
  primaryReserve : Grid
  secondaryReserve : Grid
  powerBounds : Family (Box K)
  minPowerRows : Family (Row K)
  maxPowerRows : Family (Row K)
  objective : Option (Objective K)
  layouts : Layouts

namespace Plant

variable {K : Type} [Scalar K]

/-- Nothing is generated yet, and the scale is one. -/
def ofData (id : BlockId) (data : PlantData K) : Plant K where
  id := id
  stage := .empty
  settings := none
  notifier := .own id
  data := data
  scale := 1
  store := Store.empty id
  activePower := Grid.none
  commitment := Grid.none
  primaryReserve := Grid.none
  secondaryReserve := Grid.none
  powerBounds := Family.empty "power_bounds" data.horizon
  minPowerRows := Family.empty "min_power" data.horizon
  maxPowerRows := Family.empty "max_power" data.horizon
  objective := none
  layouts := Layouts.none

def new (data : PlantData K) : Creation (Plant K) := do
  return ofData (← Creation.fresh) data

def generators (plant : Plant K) : Nat := plant.data.generators

def horizon (plant : Plant K) : Nat := plant.data.horizon

def minPower (plant : Plant K) (generator instant : Nat) : K :=
  plant.data.entry plant.data.minPower generator instant

def maxPower (plant : Plant K) (generator instant : Nat) : K :=
  plant.data.entry plant.data.maxPower generator instant

def linearCost (plant : Plant K) (generator instant : Nat) : K :=
  plant.data.entry plant.data.linearCost generator instant

def fixedConsumption (plant : Plant K) (generator instant : Nat) : K :=
  plant.data.entry plant.data.fixedConsumption generator instant

def inertiaPower (plant : Plant K) (generator instant : Nat) : K :=
  plant.data.entry plant.data.inertiaPower generator instant

def inertiaCommitment (plant : Plant K) (generator instant : Nat) : K :=
  plant.data.entry plant.data.inertiaCommitment generator instant

def hasFixedConsumption (plant : Plant K) : Bool :=
  !plant.data.fixedConsumption.isEmpty

def hasInertiaPower (plant : Plant K) : Bool :=
  !plant.data.inertiaPower.isEmpty

def hasInertiaCommitment (plant : Plant K) : Bool :=
  !plant.data.inertiaCommitment.isEmpty

def activePowerVar? (plant : Plant K) (generator instant : Nat) : Option VarRef :=
  plant.store.cell? plant.activePower generator instant

def commitmentVar? (plant : Plant K) (generator instant : Nat) : Option VarRef :=
  plant.store.cell? plant.commitment generator instant

def primaryReserveVar? (plant : Plant K) (generator instant : Nat) : Option VarRef :=
  plant.store.cell? plant.primaryReserve generator instant

def secondaryReserveVar? (plant : Plant K) (generator instant : Nat) : Option VarRef :=
  plant.store.cell? plant.secondaryReserve generator instant

/-- What the plant shows of its representation. -/
def model (plant : Plant K) : Model K where
  block := plant.id
  kind := "UnitBlock"
  stage := plant.stage
  settings := plant.settings
  vars := plant.store.entries
  lookup? := plant.store.lookup?
  constraints := plant.powerBounds.entries ++ plant.minPowerRows.entries ++
    plant.maxPowerRows.entries
  objectives := plant.objective.toList

end Plant

end Dispatch
