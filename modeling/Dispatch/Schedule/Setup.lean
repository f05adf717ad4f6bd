import Dispatch.Network.Update
import Dispatch.Schedule.Basic

namespace Dispatch.Schedule

/-! Assembling a schedule. Everything but its constants, settings and notifier is fixed
once variables exist. -/

variable {K : Type} [Scalar K]

def checkOpen (schedule : Schedule K) (part : String) : Except Error PUnit :=
  if schedule.stage.hasVariables then .error (.frozen (.member part schedule.id))
  else .ok ⟨⟩

def whileOpen (part : String) (update : Schedule K → Schedule K) :
    Change (Schedule K) PUnit := do
  let schedule ← Change.current
  Change.require (schedule.checkOpen part)
  Change.write update

/-- The number of the plant, which joins the notifier of the schedule. -/
def addPlant (plant : Plant K) : Change (Schedule K) Nat := do
  let schedule ← Change.current
  Change.require (schedule.checkOpen "the units")
  Change.require (checkSize "unit time horizon" schedule.horizon plant.horizon)
  Change.write fun schedule =>
    { schedule with
      plants := schedule.plants ++ [{ plant with notifier := schedule.notifier }] }
  return schedule.plants.length

/-- Networks that share a descriptor and a notifier. -/
def networksFor (descriptor : Descriptor K) (notifier : NotifierKey) :
    Nat → Creation (List (Network K))
  | 0 => return []
  | count + 1 => do
      let network ← Network.ofDescriptor (.shared descriptor)
      return { network with notifier } :: (← networksFor descriptor notifier count)

/-- A network of several nodes gets one block per instant. Demands belong to the nodes and
are reset. -/
def setNetwork (schedule : Schedule K) (descriptor : Descriptor K)
    (generatorNode : List Nat) : Creation (Schedule K) := do
  Creation.require (schedule.checkOpen "the network")
  let nodes := descriptor.topology.nodes
  let networks ←
    if 1 < nodes then networksFor descriptor schedule.notifier schedule.horizon
    else pure []
  return { schedule with
    classname := descriptor.topology.classname
    nodes, generatorNode, networks
    demand := [] }

def zoningPart : Need → String
  | .primary => "the primary zones"
  | .secondary => "the secondary zones"
  | .inertia => "the inertia zones"

def setZoning (need : Need) (zoning : Zoning K) : Change (Schedule K) PUnit :=
  whileOpen (zoningPart need) fun schedule => schedule.withZoning zoning need

def setEmissions (emissions : Emissions K) : Change (Schedule K) PUnit :=
  whileOpen "the pollutant budgets" fun schedule => { schedule with emissions }

def onNetworks {α : Type} (change : Change (List (Network K)) α) :
    Change (Schedule K) α :=
  Change.onPart Schedule.networks (fun networks schedule => { schedule with networks })
    change

/-- One constant per network; a bus takes any number and adds them to its own objective. -/
def setNetworkConstants (constants : List K) : Change (Schedule K) PUnit := do
  let schedule ← Change.current
  if !schedule.isBus then
    Change.require
      (checkSize "NetworkConstantTerms" schedule.networks.length constants.length)
    onNetworks (Change.each fun instant =>
      Network.setConstantTerm (constants.getD instant 0))
  Change.write fun schedule => { schedule with networkConstants := constants }
  Change.write fun schedule =>
    { schedule with
      objective := schedule.objective.map fun objective =>
        { objective with
          function := { objective.function with constant := schedule.ownConstant } } }

/-- All members publish where the schedule does. -/
def withNotifier (schedule : Schedule K) (notifier : NotifierKey) : Schedule K :=
  { schedule with
    notifier
    plants := schedule.plants.map fun plant => { plant with notifier }
    networks := schedule.networks.map fun network => { network with notifier } }

end Dispatch.Schedule
