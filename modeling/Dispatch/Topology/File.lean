import Dispatch.Topology.Descriptor

namespace Dispatch

/-! Descriptors on file. -/

namespace DcData

def optional (group : Group) (name : String) (lines : Nat) :
    Except Error (List Float) := do
  match ← group.doubles? name with
  | none => return []
  | some values => broadcast values lines name

/-- Lines are read only for a network with more than one node. -/
def linesOfGroup (group : Group) (nodes : Nat) : Except Error (DcData Float) := do
  if nodes ≤ 1 then return { (bus : DcData Float) with nodes }
  let lines ← group.dim "NumberLines"
  let start ← group.counts "StartLine"
  let finish ← group.counts "EndLine"
  let minFlow ← broadcast (← group.doubles "MinPowerFlow") lines "MinPowerFlow"
  let maxFlow ← broadcast (← group.doubles "MaxPowerFlow") lines "MaxPowerFlow"
  Topology.checkLength "StartLine" lines start.length
  let susceptance ← optional group "Susceptance" lines
  let cost ← optional group "NetworkCost" lines
  let factors ← group.doubles? "PTDF"
  return { (bus : DcData Float) with
    nodes, start, finish, minFlow, maxFlow, susceptance, cost, factors }

def ofGroup (group : Group) : Except Error (DcData Float) := do
  let data ← linesOfGroup group ((group.dim? "NumberNodes").getD 1)
  data.validate
  let data ← data.edited (.factors data.factors)
  let data := { data with layouts := Layouts.ofGroup group }
  let data ← data.edited (.nodeNames ((← group.texts? "NodeName").getD []))
  data.edited (.lineNames ((← group.texts? "LineName").getD []))

def putNames (data : DcData Float) (group : Group) (name : String)
    (dims : List String) (names : List String) : Group :=
  if names.isEmpty then group
  else group.putTexts name (data.layouts.dimsOr name dims) names

def putOptional (data : DcData Float) (group : Group) (name : String)
    (values : List Float) : Group :=
  if values.isEmpty then group
  else data.layouts.putDoubles group name ["NumberLines"] values

def writeLines (data : DcData Float) (group : Group) : Group :=
  let lines := ["NumberLines"]
  let layouts := data.layouts
  let group := group.setDim "NumberLines" data.lines
  let group := group.putCounts "StartLine" (layouts.dimsOr "StartLine" lines) data.start
  let group := group.putCounts "EndLine" (layouts.dimsOr "EndLine" lines) data.finish
  let group := layouts.putDoubles group "MinPowerFlow" lines data.minFlow
  let group := layouts.putDoubles group "MaxPowerFlow" lines data.maxFlow
  let group := data.putOptional group "Susceptance" data.susceptance
  let group := data.putOptional group "NetworkCost" data.cost
  let group :=
    match data.factors with
    | none => group
    | some matrix =>
        layouts.putDoubles group "PTDF" ["NumberLines", "NumberNodes"] matrix
  data.putNames group "LineName" lines data.lineNames

def write (data : DcData Float) (group : Group) : Group :=
  let group :=
    if data.nodes ≠ 1 ∨ data.layouts.hasDim "NumberNodes" then
      group.setDim "NumberNodes" data.nodes
    else group
  let group := data.putNames group "NodeName" ["NumberNodes"] data.nodeNames
  if data.nodes ≤ 1 then group else data.writeLines group

end DcData

def Descriptor.write : Descriptor Float → Group → Group
  | .dc data, group => data.write group
  | .extension outside, group => outside.write group

/-- Builds descriptors by class name: the known class first, then the registered
extensions. -/
structure DescriptorFactory where
  extensions : List (String × (Group → Except Error (Extension Float)))

namespace DescriptorFactory

def plain : DescriptorFactory := ⟨[]⟩

def register (factory : DescriptorFactory) (classname : String)
    (build : Group → Except Error (Extension Float)) : DescriptorFactory :=
  ⟨(classname, build) :: factory.extensions⟩

def build (factory : DescriptorFactory) (classname : String) (group : Group) :
    Except Error (Descriptor Float) :=
  if classname = DcData.classname then (DcData.ofGroup group).map .dc
  else
    match factory.extensions.lookup classname with
    | some read => (read group).map .extension
    | none => .error (.unknownClass classname)

end DescriptorFactory

end Dispatch
