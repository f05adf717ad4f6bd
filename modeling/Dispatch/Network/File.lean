import Dispatch.Network.Basic
import Dispatch.Topology.File

namespace Dispatch.Network

/-! Networks on file. A group that gives a node count holds a descriptor too; without one
the number of nodes is read off the demand. -/

def descriptorOfGroup (group : Group) : Except Error (Option (Descriptor Float)) :=
  if group.hasDim "NumberNodes" then (DcData.ofGroup group).map fun data => some (.dc data)
  else .ok none

def withTopology (network : Network Float) (descriptor : Option (Descriptor Float))
    (demand : Option (List Float)) : Network Float :=
  match descriptor, demand with
  | some descriptor, _ => network.attach (.owned descriptor)
  | none, some demand =>
      withFreeInjections
        { network with looseNodes := max (demand.length / network.intervals) 1 }
  | none, none => network

def broadcastPresent (values : Option (List Float)) (size : Nat) (what : String) :
    Except Error (List Float) :=
  match values with
  | none => .ok []
  | some values => broadcast values size what

def constantOfGroup (group : Group) : Except Error Float := do
  match ← group.doubles? "ConstantTerm" with
  | some (constant :: _) => return constant
  | _ => return 0

def filled (network : Network Float) (group : Group) : Except Error (Network Float) := do
  let intervals := (group.dim? "NumberIntervals").getD 1
  if intervals = 0 then throw (.invalidTopology .noIntervalsOnFile)
  let given ← group.doubles? "ActiveDemand"
  let descriptor ← descriptorOfGroup group
  let network := withTopology { network with intervals } descriptor given
  let demand ← broadcastPresent given network.extent "ActiveDemand"
  let kappa ← broadcastPresent (← group.doubles? "Kappa") network.lines "Kappa"
  let constantTerm ← constantOfGroup group
  return { network with demand, kappa, constantTerm, layouts := Layouts.ofGroup group }

def ofGroup (group : Group) : Creation (Network Float) := do
  let network ← new
  Creation.require (network.filled group)

/-- A plain byte stream has no schema. -/
def ofStream : Except Error PUnit :=
  .error (.unsupported .plainStream)

def looseNodesName : String := "__NumberNodes__"

def allDemands (network : Network Float) : List Float :=
  Family.table network.intervals network.nodes network.demandAt

def write (network : Network Float) (group : Group) : Group :=
  let layouts := network.layouts
  let (group, nodesName) :=
    match network.descriptor with
    | some holding => (holding.value.write group, "NumberNodes")
    | none => (group.setDim looseNodesName network.nodes, looseNodesName)
  let group :=
    if 1 < network.intervals ∨ layouts.hasDim "NumberIntervals" then
      group.setDim "NumberIntervals" network.intervals
    else group
  let group :=
    if !network.demand.isEmpty || layouts.hasField "ActiveDemand" then
      let dims :=
        if 1 < network.intervals then ["NumberIntervals", nodesName] else [nodesName]
      layouts.putDoubles group "ActiveDemand" dims network.allDemands
    else group
  let group :=
    if !network.kappa.isEmpty || layouts.hasField "Kappa" then
      layouts.putDoubles group "Kappa" ["NumberLines"]
        ((List.range network.lines).map network.kappaAt)
    else group
  if network.constantTerm != 0 || layouts.hasField "ConstantTerm" then
    layouts.putDoubles group "ConstantTerm" [] [network.constantTerm]
  else group

end Dispatch.Network
