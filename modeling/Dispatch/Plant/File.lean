import Dispatch.Plant.Basic

namespace Dispatch.Plant

/-! Plants on file. A profile is written in the form it was read in, and otherwise in the
shortest of three: one value for all, one per generator, or all values. -/

def ifPresent (group : Group) (name : String) (data : PlantData Float)
    (extend : PlantData Float → List Float → Except Error (PlantData Float)) :
    Except Error (PlantData Float) := do
  match ← group.doubles? name with
  | none => return data
  | some values => extend data values

/-- A flag is on when its first count is not zero. -/
def flag (group : Group) (name : String) : Except Error Bool := do
  match ← group.counts? name with
  | some (value :: _) => return value != 0
  | _ => return false

def dataOfGroup (group : Group) : Except Error (PlantData Float) := do
  let generators := (group.dim? "NumberGenerators").getD 1
  let horizon ← group.dim "TimeHorizon"
  let minPower ← group.doubles "MinPower"
  let maxPower ← group.doubles "MaxPower"
  let data ← PlantData.new generators horizon minPower maxPower
  let data ← ifPresent group "LinearCost" data PlantData.withLinearCost
  let commitment ← flag group "Commitment"
  let primaryReserve ← flag group "PrimaryReserve"
  let secondaryReserve ← flag group "SecondaryReserve"
  let data := { data with commitment, primaryReserve, secondaryReserve }
  let data ← ifPresent group "FixedConsumption" data PlantData.withFixedConsumption
  let data ← ifPresent group "InertiaPower" data PlantData.withInertiaPower
  ifPresent group "InertiaCommitment" data PlantData.withInertiaCommitment

def scaleOfGroup (group : Group) : Except Error Float := do
  match ← group.doubles? "Scale" with
  | some (scale :: _) => return scale
  | _ => return 1

def ofGroup (group : Group) : Creation (Plant Float) := do
  let data ← Creation.require (dataOfGroup group)
  let plant ← new data
  let scale ← Creation.require (scaleOfGroup group)
  return { plant with scale, layouts := Layouts.ofGroup group }

/-- The dimensions and values of the shortest form of a profile that is not empty. -/
def shortForm (values : List Float) (horizon : Nat) : List String × List Float :=
  let perGenerator := pieces horizon values
  if isRun values then ([], values.take 1)
  else if perGenerator.all isRun then
    (["NumberGenerators"], perGenerator.filterMap List.head?)
  else (["NumberGenerators", "TimeHorizon"], values)

def putProfile (plant : Plant Float) (group : Group) (name : String)
    (values : List Float) : Group :=
  if plant.layouts.hasField name then
    plant.layouts.putDoubles group name ["NumberGenerators", "TimeHorizon"] values
  else if values.isEmpty then group
  else
    let (dims, values) := shortForm values plant.horizon
    group.putDoubles name dims values

def putFlag (plant : Plant Float) (group : Group) (name : String) (isOn : Bool) :
    Group :=
  if isOn || plant.layouts.hasField name then
    group.putCounts name (plant.layouts.dimsOr name []) [if isOn then 1 else 0]
  else group

def write (plant : Plant Float) (group : Group) : Group :=
  let data := plant.data
  let layouts := plant.layouts
  let group := group.setDim "TimeHorizon" plant.horizon
  let group :=
    if plant.generators ≠ 1 ∨ layouts.hasDim "NumberGenerators" then
      group.setDim "NumberGenerators" plant.generators
    else group
  let group := plant.putProfile group "MinPower" data.minPower
  let group := plant.putProfile group "MaxPower" data.maxPower
  let group :=
    if (data.linearCost.any fun cost => cost != 0) || layouts.hasField "LinearCost" then
      plant.putProfile group "LinearCost" data.linearCost
    else group
  let group := plant.putFlag group "Commitment" data.commitment
  let group := plant.putFlag group "PrimaryReserve" data.primaryReserve
  let group := plant.putFlag group "SecondaryReserve" data.secondaryReserve
  let group := plant.putProfile group "FixedConsumption" data.fixedConsumption
  let group := plant.putProfile group "InertiaPower" data.inertiaPower
  let group := plant.putProfile group "InertiaCommitment" data.inertiaCommitment
  if plant.scale != 1 || layouts.hasField "Scale" then
    layouts.putDoubles group "Scale" [] [plant.scale]
  else group

end Dispatch.Plant
