import Dispatch.Topology.DcData

namespace Dispatch

/-! Network descriptors: the checked DC data, or a descriptor from outside this library,
which only gives its answers and knows how to write itself. -/

structure Extension (K : Type) where
  topology : Topology K
  write : Group → Group

inductive Descriptor (K : Type)
  | dc (data : DcData K)
  | extension (extension : Extension K)

namespace Descriptor

variable {K : Type} [Scalar K]

def topology : Descriptor K → Topology K
  | .dc data => data.topology
  | .extension outside => outside.topology

end Descriptor

/-- A value with one holder or with many; only one that is not shared can be changed. -/
structure Holding (α : Type) where
  value : α
  isShared : Bool

namespace Holding

variable {α : Type}

def owned (value : α) : Holding α := ⟨value, false⟩

def shared (value : α) : Holding α := ⟨value, true⟩

def editable? (holding : Holding α) : Option α :=
  if holding.isShared then none else some holding.value

end Holding

end Dispatch
