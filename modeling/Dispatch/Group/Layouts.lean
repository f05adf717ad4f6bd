import Dispatch.Group.Basic
import Dispatch.Shape

namespace Dispatch

/-! What a group looked like when a block was read from it. Writing the block back checks
it, so that optional parts return only if they were there, in the short form they had. -/

structure Layout where
  dims : List String
  size : Nat
  isCounts : Bool
deriving DecidableEq, Repr

structure Layouts where
  dims : List String
  fields : Sorted Layout

namespace Layouts

def none : Layouts := ⟨[], []⟩

def ofGroup (group : Group) : Layouts where
  dims := group.dims.map Prod.fst
  fields := group.fields.map fun entry =>
    (entry.1, ⟨entry.2.dims, entry.2.size, entry.2.values.isCounts⟩)

def hasDim (layouts : Layouts) (name : String) : Bool :=
  layouts.dims.contains name

def layout? (layouts : Layouts) (name : String) : Option Layout :=
  Sorted.get? layouts.fields name

def hasField (layouts : Layouts) (name : String) : Bool :=
  (layouts.layout? name).isSome

def dimsOr (layouts : Layouts) (name : String) (default : List String) : List String :=
  ((layouts.layout? name).map Layout.dims).getD default

/-- A double without fraction as a count of at most 64 bits. -/
def countOf (value : Float) : Nat :=
  value.toUInt64.toNat

/-- The values in the form they were read in while they still expand from it; in full
over `dims` otherwise. -/
def fieldFor (layouts : Layouts) (name : String) (dims : List String)
    (values : List Float) : Field :=
  match layouts.layout? name with
  | .none => ⟨dims, .doubles values⟩
  | some layout =>
      match compact? values layout.size with
      | .none => ⟨dims, .doubles values⟩
      | some short =>
          if layout.isCounts && short.all Float.isCount then
            ⟨layout.dims, .counts (short.map countOf)⟩
          else ⟨layout.dims, .doubles short⟩

def putDoubles (layouts : Layouts) (group : Group) (name : String) (dims : List String)
    (values : List Float) : Group :=
  { group with
    fields := Sorted.insert group.fields name (layouts.fieldFor name dims values) }

end Layouts

end Dispatch
