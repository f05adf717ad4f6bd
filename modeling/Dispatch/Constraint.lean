import Dispatch.LinearFunction

namespace Dispatch

/-! Two-sided bounds on linear functions and on single variables, and named families
of them. -/

/-- How far `value` lies outside `lhs` to `rhs`; a relative gap is measured against
the size of the violated bound where that exceeds one. -/
def boundViolation {K : Type} [Scalar K] (value lhs rhs : K) (relative : Bool) : K :=
  let measured (gap bound : K) : K :=
    if relative then gap / Scalar.larger (Scalar.magnitude bound) 1 else gap
  if Scalar.below value lhs then measured (lhs - value) lhs
  else if Scalar.below rhs value then measured (value - rhs) rhs
  else 0

/-- The function lies between `lhs` and `rhs`. -/
structure Row (K : Type) where
  function : LinearFunction K
  lhs : K
  rhs : K

namespace Row

variable {K : Type}

def equality (function : LinearFunction K) (value : K) : Row K :=
  ⟨function, value, value⟩

def setBounds (lhs rhs : K) (row : Row K) : Row K :=
  { row with lhs, rhs }

def setBoth (value : K) (row : Row K) : Row K :=
  row.setBounds value value

end Row

/-- The variable lies between `lhs` and `rhs`. -/
structure Box (K : Type) where
  var : VarRef
  lhs : K
  rhs : K

def Box.setBounds {K : Type} (lhs rhs : K) (box : Box K) : Box K :=
  { box with lhs, rhs }

inductive Constraint (K : Type)
  | row (row : Row K)
  | box (box : Box K)

namespace Constraint

variable {K : Type}

def lhs : Constraint K → K
  | .row item => item.lhs
  | .box item => item.lhs

def rhs : Constraint K → K
  | .row item => item.rhs
  | .box item => item.rhs

def nonzeros : Constraint K → Nat
  | .row item => item.function.terms.length
  | .box _ => 1

def setBounds (lhs rhs : K) : Constraint K → Constraint K
  | .row item => .row (item.setBounds lhs rhs)
  | .box item => .box (item.setBounds lhs rhs)

def level [Scalar K] (constraint : Constraint K)
    (lookup? : VarRef → Option (Variable K)) : Except Error K :=
  match constraint with
  | .row item => item.function.evaluate lookup?
  | .box item => LinearFunction.valueOf lookup? item.var

def violation [Scalar K] (constraint : Constraint K)
    (lookup? : VarRef → Option (Variable K)) (relative : Bool) : Except Error K :=
  (constraint.level lookup?).map fun level =>
    boundViolation level constraint.lhs constraint.rhs relative

end Constraint

/-- What can be read as a constraint. -/
class IsConstraint (α : Type) (K : outParam Type) where
  toConstraint : α → Constraint K

instance {K : Type} : IsConstraint (Row K) K := ⟨.row⟩

instance {K : Type} : IsConstraint (Box K) K := ⟨.box⟩

instance {K : Type} : IsConstraint (Constraint K) K := ⟨id⟩

/-- A constraint with the family it belongs to and its place there. -/
structure Entry (K : Type) where
  family : String
  index : Nat
  constraint : Constraint K

/-- A named `rows × cols` family of constraints, row by row. -/
structure Family (α : Type) where
  name : String
  cols : Nat
  items : List α

namespace Family

variable {α : Type} {K : Type}

def empty (name : String) (cols : Nat) : Family α := ⟨name, cols, []⟩

/-- The items of a `rows × cols` table, row by row. -/
def table (rows cols : Nat) (item : Nat → Nat → α) : List α :=
  (List.range rows).flatMap fun row => (List.range cols).map (item row)

def tabulate (name : String) (rows cols : Nat) (item : Nat → Nat → α) : Family α :=
  ⟨name, cols, table rows cols item⟩

def size (family : Family α) : Nat :=
  family.items.length

def isEmpty (family : Family α) : Bool :=
  family.items.isEmpty

def rows (family : Family α) : Nat :=
  if family.cols = 0 then 0 else family.size / family.cols

def get? (family : Family α) (row col : Nat) : Option α :=
  if col < family.cols then family.items[row * family.cols + col]? else none

/-- Changes one item; a place outside the family changes nothing. -/
def modify (family : Family α) (row col : Nat) (change : α → α) : Family α :=
  if col < family.cols then
    { family with items := family.items.modify (row * family.cols + col) change }
  else family

def clear (family : Family α) : Family α :=
  { family with items := [] }

def entries [IsConstraint α K] (family : Family α) : List (Entry K) :=
  family.items.mapIdx fun index item =>
    ⟨family.name, index, IsConstraint.toConstraint item⟩

def feasibleItems [Scalar K] [IsConstraint α K]
    (lookup? : VarRef → Option (Variable K)) (tolerance : K) (relative : Bool) :
    List α → Except Error Bool
  | [] => .ok true
  | item :: rest =>
      match (IsConstraint.toConstraint item).violation lookup? relative with
      | .error error => .error error
      | .ok violation =>
          if Scalar.below tolerance violation then .ok false
          else feasibleItems lookup? tolerance relative rest

/-- No item is violated by more than the tolerance. -/
def isFeasible [Scalar K] [IsConstraint α K] (family : Family α)
    (lookup? : VarRef → Option (Variable K)) (tolerance : K) (relative : Bool) :
    Except Error Bool :=
  feasibleItems lookup? tolerance relative family.items

end Family

end Dispatch
