import Dispatch.Network.Basic

namespace Dispatch.Network

/-! What can be replaced while nothing is generated: the descriptor, parts of a descriptor
that is not shared, and the number of intervals. -/

variable {K : Type} [Scalar K]

def refuseIfGenerated (part : Network K → FrozenPart) : Change (Network K) PUnit := do
  let network ← Change.current
  if network.stage.hasVariables then Change.refuse (.frozen (part network))

def setDescriptor (descriptor : Holding (Descriptor K)) : Change (Network K) PUnit := do
  refuseIfGenerated fun network => .representation network.id
  Change.write fun network => network.attach descriptor

/-- The descriptor, if the network holds one that can be changed. -/
def editableDescriptor (network : Network K) : Except Error (Descriptor K) :=
  match network.descriptor with
  | none => .error (.invalidTopology .nothingAttached)
  | some holding =>
      match holding.editable? with
      | none => .error (.frozen .sharedData)
      | some descriptor => .ok descriptor

/-- Only DC data can be edited; whether the descriptor was of that kind. -/
def editDescriptor (edit : DcData.Edit K) : Change (Network K) Bool := do
  refuseIfGenerated fun network => .representation network.id
  let network ← Change.current
  match ← Change.require network.editableDescriptor with
  | .extension _ => return false
  | .dc data => do
      let data ← Change.require (data.edited edit)
      Change.write fun network =>
        { network with descriptor := some (.owned (.dc data)) }
      return true

/-- Demand and injection bounds are reset with the number of intervals. -/
def setIntervals (intervals : Nat) : Change (Network K) PUnit := do
  refuseIfGenerated fun _ => .intervals
  if intervals = 0 then Change.refuse (.invalidTopology .noIntervals)
  Change.write fun network => withFreeInjections { network with intervals, demand := [] }

end Dispatch.Network
