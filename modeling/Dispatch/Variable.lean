import Dispatch.Block
import Dispatch.Scalar

namespace Dispatch

/-! Scalar variables, stored per block in dense grids of slots. -/

inductive VariableKind
  | continuous
  | binary
deriving DecidableEq, Repr

structure Variable (K : Type) where
  kind : VariableKind
  lower : K
  upper : K
  value : K

namespace Variable

variable {K : Type} [Scalar K]

def continuous : Variable K where
  kind := .continuous
  lower := -Scalar.infinity
  upper := Scalar.infinity
  value := 0

def nonNegative : Variable K :=
  { continuous with lower := 0 }

def binary : Variable K where
  kind := .binary
  lower := 0
  upper := 1
  value := 0

def withinBounds (decision : Variable K) (tolerance : K) : Bool :=
  !(Scalar.below decision.value (decision.lower - tolerance)) &&
    !(Scalar.below (decision.upper + tolerance) decision.value)

def isWhole (decision : Variable K) (tolerance : K) : Bool :=
  Scalar.atMost (Scalar.magnitude (decision.value - Scalar.nearest decision.value))
    tolerance

def isFeasible (decision : Variable K) (tolerance : K) : Bool :=
  decision.withinBounds tolerance &&
    match decision.kind with
    | .continuous => true
    | .binary => decision.isWhole tolerance

end Variable

/-- A dense `rows × cols` block of consecutive slots, row by row. -/
structure Grid where
  first : Nat
  rows : Nat
  cols : Nat
deriving DecidableEq, Repr

namespace Grid

def none : Grid := ⟨0, 0, 0⟩

def slot (grid : Grid) (row col : Nat) : Nat :=
  grid.first + row * grid.cols + col

def size (grid : Grid) : Nat :=
  grid.rows * grid.cols

def isEmpty (grid : Grid) : Bool :=
  grid.size == 0

def slots (grid : Grid) : List Nat :=
  List.range' grid.first grid.size

end Grid

/-- Every variable of one block, by slot. -/
structure Store (K : Type) where
  block : BlockId
  vars : List (Variable K)

namespace Store

variable {K : Type}

def empty (block : BlockId) : Store K := ⟨block, []⟩

def size (store : Store K) : Nat :=
  store.vars.length

/-- The grid that the next `rows × cols` slots form. -/
def nextGrid (store : Store K) (rows cols : Nat) : Grid :=
  ⟨store.size, rows, cols⟩

def extend (store : Store K) (rows cols : Nat) (proto : Variable K) : Store K :=
  { store with vars := store.vars ++ List.replicate (rows * cols) proto }

/-- Appends a grid of copies of `proto`. -/
def addGrid (store : Store K) (rows cols : Nat) (proto : Variable K) :
    Store K × Grid :=
  (store.extend rows cols proto, store.nextGrid rows cols)

def ref (store : Store K) (slot : Nat) : VarRef :=
  ⟨store.block, slot⟩

def cell (store : Store K) (grid : Grid) (row col : Nat) : VarRef :=
  store.ref (grid.slot row col)

/-- A grid without slots holds no variable. -/
def cell? (store : Store K) (grid : Grid) (row col : Nat) : Option VarRef :=
  if grid.isEmpty then none else some (store.cell grid row col)

def lookup? (store : Store K) (var : VarRef) : Option (Variable K) :=
  if var.block = store.block then store.vars[var.slot]? else none

def entries (store : Store K) : List (VarRef × Variable K) :=
  store.vars.mapIdx fun slot decision => (store.ref slot, decision)

def setValue (store : Store K) (slot : Nat) (value : K) : Store K :=
  { store with
    vars := store.vars.modify slot fun decision => { decision with value } }

def allFeasible [Scalar K] (store : Store K) (tolerance : K) : Bool :=
  store.vars.all fun decision => decision.isFeasible tolerance

end Store

end Dispatch
