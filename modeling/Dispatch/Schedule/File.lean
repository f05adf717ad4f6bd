import Dispatch.Network.File
import Dispatch.Plant.File
import Dispatch.Schedule.Update

namespace Dispatch

/-! Schedules on file. Optional parts that were absent stay absent while they hold their
defaults, and arrays return in the form they were read in. -/

namespace Zoning

def countName (label : String) : String := "Number" ++ label ++ "Zones"

/-- Demand without a zone count means a single zone, and a single value holds for every
zone and instant. -/
def ofGroup (group : Group) (label : String) (horizon : Nat) :
    Except Error (Zoning Float) := do
  let name := label ++ "Demand"
  let demand := (← group.doubles? name).getD []
  let count := (group.dim? (countName label)).getD (if demand.isEmpty then 0 else 1)
  let demand ← if demand.isEmpty then pure [] else broadcast demand (count * horizon) name
  let zones := (← group.counts? (label ++ "Zones")).getD []
  return ⟨count, zones, demand⟩

def write (zoning : Zoning Float) (group : Group) (label : String) (layouts : Layouts) :
    Group :=
  let name := countName label
  let implied := if zoning.demand.isEmpty then 0 else 1
  let group :=
    if zoning.count ≠ implied ∨ layouts.hasDim name then group.setDim name zoning.count
    else group
  let group :=
    if zoning.zones.isEmpty then group
    else
      let zonesName := label ++ "Zones"
      group.putCounts zonesName (layouts.dimsOr zonesName ["NumberNodes"]) zoning.zones
  if zoning.demand.isEmpty then group
  else layouts.putDoubles group (label ++ "Demand") [name, "TimeHorizon"] zoning.demand

end Zoning

namespace Emissions

def ofGroup (group : Group) (horizon generators : Nat) :
    Except Error (Emissions Float) := do
  let pollutants := (group.dim? "NumberPollutants").getD 0
  if pollutants = 0 then return none
  let zoneCounts :=
    (← group.counts? "NumberPollutantZones").getD (List.replicate pollutants 1)
  checkSize "NumberPollutantZones" pollutants zoneCounts.length
  let budget ← group.doubles "PollutantBudget"
  let zones := (← group.counts? "PollutantZones").getD []
  let budget ← broadcast budget (zoneCounts.foldr (· + ·) 0) "PollutantBudget"
  let rates ← broadcast (← group.doubles "PollutantRho")
    (horizon * pollutants * generators) "PollutantRho"
  return { zoneCounts, zones, budget, rates }

def write (emissions : Emissions Float) (group : Group) (layouts : Layouts) : Group :=
  if emissions.pollutants = 0 then
    if layouts.hasDim "NumberPollutants" then group.setDim "NumberPollutants" 0 else group
  else
    let group := group.setDim "NumberPollutants" emissions.pollutants
    let group :=
      if (emissions.zoneCounts.any fun count => count != 1) ||
          layouts.hasField "NumberPollutantZones" then
        group.putCounts "NumberPollutantZones"
          (layouts.dimsOr "NumberPollutantZones" ["NumberPollutants"])
          emissions.zoneCounts
      else group
    let group :=
      if emissions.zones.isEmpty then group
      else
        group.putCounts "PollutantZones"
          (layouts.dimsOr "PollutantZones" ["NumberPollutants", "NumberNodes"])
          emissions.zones
    let group := layouts.putDoubles group "PollutantBudget"
      ["TotalNumberPollutantZones"] emissions.budget
    layouts.putDoubles group "PollutantRho"
      ["TimeHorizon", "NumberPollutants", "NumberElectricalGenerators"] emissions.rates

end Emissions

namespace Schedule

def plantName (index : Nat) : String := "UnitBlock_" ++ toString index

/-- A change made while a schedule is being put together. -/
def changed {α : Type} (schedule : Schedule Float) (change : Change (Schedule Float) α) :
    Creation (Schedule Float) :=
  let effect := change schedule
  Creation.require (effect.result.map fun _ => effect.state)

def addPlants (group : Group) : Nat → Nat → Schedule Float → Creation (Schedule Float)
  | 0, _, schedule => return schedule
  | remaining + 1, index, schedule => do
      let member ← Creation.require (group.member (plantName index))
      let plant ← Plant.ofGroup member
      let schedule ← schedule.changed (addPlant plant)
      addPlants group remaining (index + 1) schedule

def classnameOfGroup (group : Group) : Except Error String := do
  match ← group.texts? "NetworkDataClassname" with
  | some (name :: _) => return name
  | _ => return DcData.classname

def networkOfGroup (factory : DescriptorFactory) (group : Group) (nodes : Nat)
    (schedule : Schedule Float) : Creation (Schedule Float) := do
  let generatorNode ← Creation.require (group.counts? "GeneratorNode")
  if 1 < nodes then
    let classname ← Creation.require (classnameOfGroup group)
    let descriptor ← Creation.require (factory.build classname group)
    let generatorNode ← Creation.require (Group.orMissing "GeneratorNode" generatorNode)
    schedule.setNetwork descriptor generatorNode
  else return { schedule with generatorNode := generatorNode.getD [] }

def demandOfGroup (group : Group) (nodes : Nat) (schedule : Schedule Float) :
    Creation (Schedule Float) := do
  match ← Creation.require (group.doubles? "ActivePowerDemand") with
  | none => return schedule
  | some demand =>
      let extent := nodes * schedule.horizon
      let demand ← Creation.require (broadcast demand extent "ActivePowerDemand")
      schedule.changed (setDemand (.range 0 extent) demand .quiet .quiet)

def constantsOfGroup (group : Group) (schedule : Schedule Float) :
    Creation (Schedule Float) := do
  match ← Creation.require (group.doubles? "NetworkConstantTerms") with
  | none => return schedule
  | some constants =>
      let networks := schedule.networks.length
      let constants ←
        if schedule.isBus then pure constants
        else Creation.require (broadcast constants networks "NetworkConstantTerms")
      schedule.changed (setNetworkConstants constants)

def ofGroupWith (factory : DescriptorFactory) (group : Group) :
    Creation (Schedule Float) := do
  let horizon ← Creation.require (group.dim "TimeHorizon")
  let plants ← Creation.require (group.dim "NumberUnits")
  let nodes := (group.dim? "NumberNodes").getD 1
  let schedule ← new horizon
  let schedule ← addPlants group plants 0 schedule
  let schedule ← networkOfGroup factory group nodes schedule
  let schedule ← demandOfGroup group nodes schedule
  let primary ← Creation.require (Zoning.ofGroup group "Primary" horizon)
  let secondary ← Creation.require (Zoning.ofGroup group "Secondary" horizon)
  let inertia ← Creation.require (Zoning.ofGroup group "Inertia" horizon)
  let emissions ← Creation.require (Emissions.ofGroup group horizon schedule.generators)
  let schedule := { schedule with primary, secondary, inertia, emissions }
  let schedule ← constantsOfGroup group schedule
  return { schedule with layouts := Layouts.ofGroup group }

def ofGroup (group : Group) : Creation (Schedule Float) :=
  ofGroupWith .plain group

def classnameName : String := "NetworkDataClassname"

/-- The descriptor stands in the group of the schedule itself. -/
def writeNetwork (schedule : Schedule Float) (group : Group) : Group :=
  match schedule.networks.head?.bind Network.descriptor with
  | some holding =>
      let group := holding.value.write group
      if schedule.classname ≠ DcData.classname ∨
          schedule.layouts.hasField classnameName then
        group.putTexts classnameName [] [schedule.classname]
      else group
  | none =>
      if schedule.layouts.hasDim "NumberNodes" then
        group.setDim "NumberNodes" schedule.nodes
      else group

/-- Cut or filled up with zeros to one entry per node and instant. -/
def allDemands (schedule : Schedule Float) : List Float :=
  (schedule.demand ++
    List.replicate (schedule.extent - schedule.demand.length) 0).take schedule.extent

def writeDemand (schedule : Schedule Float) (group : Group) : Group :=
  if !schedule.demand.isEmpty || schedule.layouts.hasField "ActivePowerDemand" then
    let dims :=
      if schedule.isBus then ["TimeHorizon"] else ["NumberNodes", "TimeHorizon"]
    schedule.layouts.putDoubles group "ActivePowerDemand" dims schedule.allDemands
  else group

def writeConstants (schedule : Schedule Float) (group : Group) : Group :=
  if (schedule.networkConstants.any fun constant => constant != 0) ||
      schedule.layouts.hasField "NetworkConstantTerms" then
    schedule.layouts.putDoubles group "NetworkConstantTerms" ["NumberNetworks"]
      schedule.networkConstants
  else group

def writePlants (schedule : Schedule Float) (group : Group) : Group :=
  schedule.plants.zipIdx.foldl
    (fun group entry =>
      group.addMember (plantName entry.2) (entry.1.write Group.empty)) group

def write (schedule : Schedule Float) (group : Group) : Group :=
  let layouts := schedule.layouts
  let group := group.setDim "TimeHorizon" schedule.horizon
  let group := group.setDim "NumberUnits" schedule.plants.length
  let group := schedule.writeNetwork group
  let group :=
    if schedule.generatorNode.isEmpty then group
    else
      group.putCounts "GeneratorNode"
        (layouts.dimsOr "GeneratorNode" ["NumberElectricalGenerators"])
        schedule.generatorNode
  let group := schedule.writeDemand group
  let group := schedule.primary.write group "Primary" layouts
  let group := schedule.secondary.write group "Secondary" layouts
  let group := schedule.inertia.write group "Inertia" layouts
  let group := schedule.emissions.write group layouts
  schedule.writePlants (schedule.writeConstants group)

end Schedule

end Dispatch
