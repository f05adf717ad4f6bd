import Dispatch.Block

namespace Dispatch

/-! The vocabulary of updates: how a setter treats the physical data and the generated
rows, what it reports back, and the record that observers get. A record says where
something changed and holds no values. -/

abbrev Channel := Nat

inductive Mode
  | dryRun
  | quiet
  | notify (channel : Channel)
deriving DecidableEq, Repr

namespace Mode

/-- Channel 0 is the default one. -/
def default : Mode := .notify 0

def writes : Mode → Bool
  | .dryRun => false
  | .quiet => true
  | .notify _ => true

def channel? : Mode → Option Channel
  | .notify channel => some channel
  | _ => none

/-- Writing without notice, or not at all. -/
def silent (mode : Mode) : Mode :=
  if mode.writes then .quiet else .dryRun

end Mode

inductive Quantity
  | activeDemand
  | kappa
  | scale
  | activePowerDemand
  | nodeInjectionBounds
deriving DecidableEq, Repr

def Quantity.name : Quantity → String
  | .activeDemand => "ActiveDemand"
  | .kappa => "Kappa"
  | .scale => "Scale"
  | .activePowerDemand => "ActivePowerDemand"
  | .nodeInjectionBounds => "NodeInjectionBounds"

inductive Addressing
  | range (start stop : Nat)
  | subset (indices : List Nat)
deriving DecidableEq, Repr

namespace Addressing

def size : Addressing → Nat
  | .range start stop => stop - start
  | .subset indices => indices.length

def isEmpty (addressing : Addressing) : Bool :=
  addressing.size == 0

end Addressing

structure Record where
  block : BlockId
  quantity : Quantity
  addressing : Addressing
deriving DecidableEq, Repr

inductive Outcome
  | unchanged
  | dryRun
  | applied
deriving DecidableEq, Repr

def Outcome.name : Outcome → String
  | .unchanged => "Unchanged"
  | .dryRun => "DryRun"
  | .applied => "Applied"

end Dispatch
