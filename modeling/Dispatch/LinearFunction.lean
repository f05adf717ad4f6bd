import Dispatch.Error
import Dispatch.Variable

namespace Dispatch

/-! Linear expressions with ordered terms. The position of a term never changes, so
a coefficient can be replaced by position long after the row was built. -/

structure LinearFunction (K : Type) where
  terms : List (VarRef × K)
  constant : K

namespace LinearFunction

variable {K : Type} [Scalar K]

def ofTerms (terms : List (VarRef × K)) : LinearFunction K := ⟨terms, 0⟩

def add (function : LinearFunction K) (var : VarRef) (coefficient : K) :
    LinearFunction K :=
  { function with terms := function.terms ++ [(var, coefficient)] }

def coefficients (function : LinearFunction K) : List K :=
  function.terms.map Prod.snd

def coefficient? (function : LinearFunction K) (position : Nat) : Option K :=
  function.terms[position]?.map Prod.snd

def setCoefficient (function : LinearFunction K) (position : Nat) (value : K) :
    LinearFunction K :=
  { function with terms := function.terms.modify position fun term => (term.1, value) }

/-- Replaces the coefficients at `positions` by `values`, pair by pair; every position
is checked before anything is written. -/
def setCoefficients (function : LinearFunction K) (positions : List Nat)
    (values : List K) : Except Error (LinearFunction K) :=
  if values.length ≠ positions.length then
    .error (.shape "coefficient patch" positions.length values.length)
  else
    match positions.find? fun position => decide (function.terms.length ≤ position) with
    | some position => .error (.outOfRange "term" position function.terms.length)
    | none => .ok ((positions.zip values).foldl
        (fun function patch => function.setCoefficient patch.1 patch.2) function)

def valueOf (lookup? : VarRef → Option (Variable K)) (var : VarRef) :
    Except Error K :=
  match lookup? var with
  | some decision => .ok decision.value
  | none => .error (.unknownVariable var)

def addTerms (lookup? : VarRef → Option (Variable K)) :
    List (VarRef × K) → K → Except Error K
  | [], total => .ok total
  | (var, coefficient) :: rest, total =>
      match valueOf lookup? var with
      | .ok value => addTerms lookup? rest (total + coefficient * value)
      | .error error => .error error

/-- The value at the current variables: the constant first, then term by term. -/
def evaluate (function : LinearFunction K) (lookup? : VarRef → Option (Variable K)) :
    Except Error K :=
  addTerms lookup? function.terms function.constant

end LinearFunction

inductive Sense
  | minimise
  | maximise
deriving DecidableEq, Repr

structure Objective (K : Type) where
  function : LinearFunction K
  sense : Sense

end Dispatch
