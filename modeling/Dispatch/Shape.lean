import Dispatch.Error
import Dispatch.Scalar

namespace Dispatch

/-! Checks of indices against an extent, and the short forms in which a vector may
be given: one value for all, or one value for each run of equal length. -/

def checkIndices (indices : List Nat) (extent : Nat) (what : String) :
    Except Error PUnit :=
  match indices.find? fun index => decide (extent ≤ index) with
  | some index => .error (.outOfRange what index extent)
  | none => .ok ⟨⟩

def checkRange (stop extent : Nat) (what : String) : Except Error PUnit :=
  if extent < stop then .error (.outOfRange what (stop - 1) extent) else .ok ⟨⟩

/-- At least `needed` values have to be given. -/
def checkCount (found needed : Nat) (what : String) : Except Error PUnit :=
  if found < needed then .error (.shape what needed found) else .ok ⟨⟩

def broadcast {α : Type} (values : List α) (size : Nat) (what : String) :
    Except Error (List α) :=
  if values.length = size then .ok values
  else
    match values with
    | [value] => .ok (List.replicate size value)
    | _ => .error (.shape what size values.length)

/-- Repeats each value `count` times in a row. -/
def stretch {α : Type} (count : Nat) (values : List α) : List α :=
  values.flatMap fun value => List.replicate count value

/-- One value for all, one per member, or one per member and instant. -/
def expand {α : Type} (values : List α) (members horizon : Nat) (what : String) :
    Except Error (List α) :=
  let full := members * horizon
  match values with
  | [value] => .ok (List.replicate full value)
  | _ =>
      if values.length = full then .ok values
      else if values.length = members then .ok (stretch horizon values)
      else .error (.shape what full values.length)

/-- Consecutive pieces of length `size`, the last one possibly shorter. -/
def pieces {α : Type} (size : Nat) (values : List α) : List (List α) :=
  match size, values with
  | 0, _ => []
  | _, [] => []
  | size + 1, value :: rest =>
      (value :: rest.take size) :: pieces (size + 1) (rest.drop size)
termination_by values.length
decreasing_by simp only [List.length_drop, List.length_cons]; omega

/-- Every value equals the first; a value that differs from itself makes no run. -/
def isRun {K : Type} [Scalar K] (values : List K) : Bool :=
  match values.head? with
  | none => true
  | some first => values.all fun value => value == first

/-- The `size` values that give back `values` when each is repeated equally often. -/
def compact? {K : Type} [Scalar K] (values : List K) (size : Nat) : Option (List K) :=
  if size = values.length then some values
  else if size = 0 ∨ values.isEmpty ∨ values.length % size ≠ 0 then none
  else
    let runs := pieces (values.length / size) values
    if runs.all isRun then some (runs.filterMap List.head?) else none

end Dispatch
