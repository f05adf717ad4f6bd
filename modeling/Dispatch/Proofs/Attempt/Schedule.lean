import Dispatch.Proofs.Attempt.Network
import Dispatch.Proofs.Attempt.Plant
import Dispatch.Proofs.Schedule.Update

namespace Dispatch

/-! The updates of a schedule with all of their lookups: nodes and zones of generators,
entries of profiles, rows of networks and columns of the term index. -/

variable {K : Type}

def Zoning.zoneAt? (zoning : Zoning K) (node : Nat) : Option (Option Nat) := do
  let zone ← if zoning.zones.isEmpty then some 0 else zoning.zones[node]?
  return if zone < zoning.count then some zone else Option.none

def Emissions.zoneAt? (emissions : Emissions K) (nodes pollutant node : Nat) :
    Option (Option Nat) := do
  let zone ←
    if emissions.zones.isEmpty then some 0 else emissions.zones[pollutant * nodes + node]?
  let count ← emissions.zoneCounts[pollutant]?
  return if zone < count then some zone else Option.none

def Emissions.rate? (emissions : Emissions K) (generators instant pollutant generator : Nat) :
    Option K :=
  emissions.rates[(instant * emissions.pollutants + pollutant) * generators + generator]?

namespace Schedule

open Attempt (look)

variable [Scalar K]

def nodeOf? (schedule : Schedule K) (generator : Nat) : Option Nat :=
  if schedule.generatorNode.isEmpty then some 0 else schedule.generatorNode[generator]?

def fixedConsumption? (schedule : Schedule K) (index : Nat) (plant : Plant K)
    (instant node : Nat) : Option K :=
  if plant.data.commitment && plant.hasFixedConsumption then do
    let here ← (List.range plant.generators).filterM fun generator => do
      return (← schedule.nodeOf? (schedule.offset index + generator)) == node
    let shares ← here.mapM fun generator => do
      return plant.scale *
        (← plant.data.entry? plant.data.fixedConsumption generator instant)
    return Scalar.sum shares
  else some 0

def balanceLevel? (schedule : Schedule K) (instant node : Nat) : Option K := do
  let demand := if schedule.isBus then schedule.demandAt node instant else 0
  let fixed ← schedule.plants.zipIdx.mapM fun entry =>
    schedule.fixedConsumption? entry.2 entry.1 instant node
  return demand - Scalar.sum fixed

def weighted? (var? : Option VarRef) (weight? : Option K) : Option (List (VarRef × K)) :=
  match var? with
  | none => some []
  | some var => weight?.map fun weight => [(var, weight)]

def balanceTerms? (plant : Plant K) (generator instant : Nat) :
    Option (List (VarRef × K)) := do
  let consumed ←
    if plant.hasFixedConsumption then
      weighted? (plant.commitmentVar? generator instant)
        ((plant.data.entry? plant.data.fixedConsumption generator instant).map
          fun consumption => -plant.scale * consumption)
    else some []
  return weighted (plant.activePowerVar? generator instant) plant.scale ++ consumed

def needTerms? (plant : Plant K) (need : Need) (generator instant : Nat) :
    Option (List (VarRef × K)) :=
  match need with
  | .primary => some (weighted (plant.primaryReserveVar? generator instant) plant.scale)
  | .secondary => some (weighted (plant.secondaryReserveVar? generator instant) plant.scale)
  | .inertia => do
      let commitment ←
        if plant.hasInertiaCommitment then
          weighted? (plant.commitmentVar? generator instant)
            ((plant.data.entry? plant.data.inertiaCommitment generator instant).map
              fun inertia => plant.scale * inertia)
        else some []
      let power ←
        if plant.hasInertiaPower then
          weighted? (plant.activePowerVar? generator instant)
            ((plant.data.entry? plant.data.inertiaPower generator instant).map
              fun inertia => plant.scale * inertia)
        else some []
      return commitment ++ power

def budgetTerms? (schedule : Schedule K) (plant : Plant K) (offset generator : Nat)
    (pollutant instant : Nat) : Option (List (VarRef × K)) :=
  weighted? (plant.activePowerVar? generator instant)
    ((schedule.emissions.rate? schedule.generators instant pollutant
      (offset + generator)).map fun rate => plant.scale * rate)

/-- The terms of the generators that a row is about. -/
def generatorTerms? (schedule : Schedule K) (index : Nat) (plant : Plant K)
    (belongs? : Nat → Option Bool) (terms? : Nat → Option (List (VarRef × K))) :
    Option (List (VarRef × K)) := do
  let runs ← (List.range plant.generators).mapM fun generator => do
    let node ← schedule.nodeOf? (schedule.offset index + generator)
    if ← belongs? node then terms? generator else some []
  return runs.flatten

def plantTerms? (schedule : Schedule K) (index : Nat) (plant : Plant K) (row : LinkRow) :
    Option (List (VarRef × K)) :=
  match row with
  | .balance instant node =>
      schedule.generatorTerms? index plant (fun place => some (place == node))
        fun generator => balanceTerms? plant generator instant
  | .zonal need instant zone =>
      schedule.generatorTerms? index plant
        (fun place => do return (← (schedule.zoning need).zoneAt? place) == some zone)
        fun generator => needTerms? plant need generator instant
  | .budget pollutant zone => do
      let runs ← (List.range schedule.horizon).mapM fun instant =>
        schedule.generatorTerms? index plant
          (fun place => do
            return (← schedule.emissions.zoneAt? schedule.nodes pollutant place) == some zone)
          fun generator =>
            schedule.budgetTerms? plant (schedule.offset index) generator pollutant instant
      return runs.flatten

def rowLevel? (schedule : Schedule K) : LinkRow → Option K
  | .balance instant node => schedule.balanceLevel? instant node
  | _ => some 0

def rowPatch? (schedule : Schedule K) (index : Nat) (plant : Plant K) (span : Span)
    (row : LinkRow) : Option (RowPatch K) := do
  let terms ← schedule.plantTerms? index plant row
  let level ←
    if movesLevel plant row then (schedule.rowLevel? row).map some else some none
  return ⟨schedule.rowPlace row, span, terms.map Prod.snd, level⟩

def linkPatches? (schedule : Schedule K) (index : Nat) (plant : Plant K) (link : Link K) :
    Option (List (RowPatch K)) := do
  let column ← link.spans[index]?
  let patches ← column.zipIdx.mapM fun entry =>
    if entry.1.isEmpty then some []
    else (schedule.keyRows link.kind entry.2).mapM (schedule.rowPatch? index plant entry.1)
  return patches.flatten

/-- What a generator adds to one of two lists of bounds. -/
def raise? (bounds : List K) (node : Nat) (amount : K) : Option (List K) := do
  let bound ← bounds[node]?
  return bounds.set node (bound + amount)

/-- Every generator with its plant and its running number. -/
def generatorPlaces (schedule : Schedule K) : List (Plant K × Nat × Nat) :=
  schedule.plants.zipIdx.flatMap fun entry =>
    (List.range entry.1.generators).map fun generator =>
      (entry.1, generator, schedule.offset entry.2 + generator)

def addBounds? (schedule : Schedule K) (instant : Nat) (bounds : List K × List K)
    (place : Plant K × Nat × Nat) : Option (List K × List K) := do
  let (plant, generator, number) := place
  let node ← schedule.nodeOf? number
  let minimum ←
    if plant.data.commitment then some bounds.1
    else do
      let power ← plant.data.entry? plant.data.minPower generator instant
      raise? bounds.1 node (plant.scale * power)
  let power ← plant.data.entry? plant.data.maxPower generator instant
  let maximum ← raise? bounds.2 node (plant.scale * power)
  return (minimum, maximum)

def injectionBounds? (schedule : Schedule K) (instant : Nat) : Option (List K × List K) :=
  schedule.generatorPlaces.foldlM (schedule.addBounds? instant)
    (List.replicate schedule.nodes 0, List.replicate schedule.nodes 0)

def onNetworks? {α : Type} (attempt : Attempt (List (Network K)) α) :
    Attempt (Schedule K) α :=
  Attempt.onPart Schedule.networks (fun networks schedule => { schedule with networks })
    attempt

def refreshInjectionBounds? (abstract : Mode) : Attempt (Schedule K) PUnit := do
  let schedule ← Attempt.current
  onNetworks? (Attempt.each fun instant => do
    let bounds ← look (schedule.injectionBounds? instant)
    Network.setInjectionBounds? bounds.1 bounds.2 .quiet abstract)

def patchPlant? (index : Nat) : Attempt (Schedule K) PUnit := do
  let schedule ← Attempt.current
  let plant ← look schedule.plants[index]?
  let patches ← look (schedule.links.mapM (schedule.linkPatches? index plant))
  Attempt.ofChange (Change.onPart Schedule.links
    (fun links schedule => { schedule with links })
    (Change.each fun place => Change.forAll (patches.getD place []) patchRow))

def afterScale? (index : Nat) (outcome : Outcome) (abstract : Mode) :
    Attempt (Schedule K) Outcome := do
  let schedule ← Attempt.current
  if outcome != .applied || !schedule.stage.hasConstraints then return outcome
  refreshInjectionBounds? abstract.silent
  if abstract.writes then patchPlant? index
  return outcome

def scalePlantAt? (index : Nat) (address : Address) (values : List K)
    (physical abstract : Mode) : Attempt (Schedule K) Outcome := do
  let outcome ← (do
    let schedule ← Attempt.current
    Attempt.onPart Schedule.plants (fun plants schedule => { schedule with plants })
      (Attempt.onMember index (some (.error (.outOfRange "unit" index schedule.plants.length)))
        (Plant.setScaleAt? address values physical abstract)))
  afterScale? index outcome abstract

def patchBusBalance? (schedule : Schedule K) (instants : List Nat) :
    Option (Schedule K) := do
  let levels ← instants.mapM fun instant => do
    return (instant, ← schedule.balanceLevel? instant 0)
  let patch (link : Link K) : Link K :=
    { link with
      rows := levels.foldl
        (fun rows entry => rows.modify entry.1 0 (Row.setBoth entry.2)) link.rows }
  return schedule.withLinks (schedule.links.map fun link =>
    if link.kind == .balance then patch link else link)

def forwardEntry? (schedule : Schedule K) (entry : Nat) (abstract : Mode) :
    Attempt (List (Network K)) Outcome := do
  let (node, instant) ← look (Lookup.divide? entry schedule.horizon)
  let level ← look schedule.demand[entry]?
  Attempt.onMember instant none
    (Network.setDemand? (.subset [node] true) [level] .quiet abstract)

def forwardDemand? (entries : List Nat) (abstract : Mode) : Attempt (Schedule K) PUnit := do
  let schedule ← Attempt.current
  onNetworks? (Attempt.forAll entries fun entry => schedule.forwardEntry? entry abstract)

def updateDemand? (selection : Selection) (values : List K) (physical abstract : Mode) :
    Attempt (Schedule K) Outcome := do
  let schedule ← Attempt.current
  let differs ← look (selection.differs? schedule.demand 0 values)
  if !differs then return .unchanged
  if !physical.writes then return .dryRun
  let demand ← look (selection.write? schedule.demand schedule.extent 0 values)
  Attempt.write fun schedule => { schedule with demand }
  if schedule.isBus then
    if abstract.writes && schedule.stage.hasConstraints then
      Attempt.revise fun schedule => schedule.patchBusBalance? selection.indices
  else forwardDemand? selection.indices abstract.silent
  Attempt.report physical schedule.notifier
    (selection.record schedule.id .activePowerDemand)
  return .applied

def setDemand? (address : Address) (values : List K) (physical abstract : Mode) :
    Attempt (Schedule K) Outcome := do
  let schedule ← Attempt.current
  match ← Attempt.require (address.select schedule.extent values.length "demand") with
  | none => return .unchanged
  | some selection => updateDemand? selection values physical abstract

end Schedule

end Dispatch
