import Dispatch.Change.Record
import Dispatch.Shape

namespace Dispatch

/-! A setter is told which entries it changes by a range or by a list of indices. The
checked form keeps the indices in the caller's order, since the values are paired with
them, beside the addressing that the record will show. -/

inductive Address
  | range (start stop : Nat)
  | subset (indices : List Nat) (sorted : Bool)
deriving DecidableEq, Repr

structure Selection where
  indices : List Nat
  addressing : Addressing
deriving DecidableEq, Repr

namespace Address

/-- The entries of a vector with `extent` entries; an empty address selects nothing,
whatever else is wrong with the call. -/
def select (address : Address) (extent valueCount : Nat) (what : String) :
    Except Error (Option Selection) :=
  match address with
  | .range start stop =>
      if stop ≤ start then .ok none
      else do
        checkRange stop extent what
        checkCount valueCount (stop - start) what
        return some ⟨List.range' start (stop - start), .range start stop⟩
  | .subset indices sorted =>
      if indices.isEmpty then .ok none
      else do
        checkIndices indices extent what
        checkCount valueCount indices.length what
        return some ⟨indices,
          .subset (if sorted then indices else indices.mergeSort fun first second =>
            decide (first ≤ second))⟩

end Address

namespace Selection

variable {K : Type} [Scalar K]

/-- A vector that was never written stands for `default` everywhere. -/
def stored (values : List K) (default : K) (index : Nat) : K :=
  if values.isEmpty then default else values.getD index default

/-- Whether writing would change some entry. -/
def differs (selection : Selection) (current : List K) (default : K)
    (values : List K) : Bool :=
  (selection.indices.zip values).any fun pair =>
    stored current default pair.1 != pair.2

def materialise (current : List K) (extent : Nat) (default : K) : List K :=
  if current.isEmpty then List.replicate extent default else current

/-- Writes the values pair by pair, after filling in a vector that was never written. -/
def write (selection : Selection) (current : List K) (extent : Nat) (default : K)
    (values : List K) : List K :=
  (selection.indices.zip values).foldl
    (fun written pair => written.set pair.1 pair.2)
    (materialise current extent default)

def record (selection : Selection) (block : BlockId) (quantity : Quantity) : Record :=
  ⟨block, quantity, selection.addressing⟩

end Selection

end Dispatch
