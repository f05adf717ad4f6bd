import Dispatch.Error
import Dispatch.Scalar

namespace Dispatch

/-! Zonal requirements. Each splits the nodes into zones of its own; without a list of
zones every node is in zone 0, and a zone past the count leaves its nodes out. -/

/-- The zonal needs that generators serve instant by instant. -/
inductive Need
  | primary
  | secondary
  | inertia
deriving DecidableEq, Repr

def Need.label : Need → String
  | .primary => "Primary"
  | .secondary => "Secondary"
  | .inertia => "Inertia"

def checkSize (what : String) (expected found : Nat) : Except Error PUnit :=
  if found = expected then .ok ⟨⟩ else .error (.shape what expected found)

structure Zoning (K : Type) where
  count : Nat
  zones : List Nat
  /-- One entry per zone and instant; empty stands for zero everywhere. -/
  demand : List K

namespace Zoning

variable {K : Type}

def none : Zoning K := ⟨0, [], []⟩

def zone? (zoning : Zoning K) (node : Nat) : Option Nat :=
  let zone := if zoning.zones.isEmpty then 0 else zoning.zones.getD node 0
  if zone < zoning.count then some zone else Option.none

def demandAt [Zero K] (zoning : Zoning K) (horizon zone instant : Nat) : K :=
  if zoning.demand.isEmpty then 0
  else zoning.demand.getD (zone * horizon + instant) 0

def validate (zoning : Zoning K) (nodes horizon : Nat) (label : String) :
    Except Error PUnit := do
  if !zoning.zones.isEmpty then checkSize (label ++ "Zones") nodes zoning.zones.length
  if !zoning.demand.isEmpty then
    checkSize (label ++ "Demand") (zoning.count * horizon) zoning.demand.length

end Zoning

/-- Emission budgets: every pollutant has zones and budgets of its own, and a rate per
instant, pollutant and generator. -/
structure Emissions (K : Type) where
  zoneCounts : List Nat
  /-- The zone of each node, pollutant by pollutant. -/
  zones : List Nat
  /-- One budget per pollutant and zone. -/
  budget : List K
  rates : List K

namespace Emissions

variable {K : Type}

def none : Emissions K := ⟨[], [], [], []⟩

def pollutants (emissions : Emissions K) : Nat :=
  emissions.zoneCounts.length

def zoneCount (emissions : Emissions K) (pollutant : Nat) : Nat :=
  emissions.zoneCounts.getD pollutant 0

def totalZones (emissions : Emissions K) : Nat :=
  emissions.zoneCounts.foldr (· + ·) 0

/-- The number of zones of the pollutants before this one. -/
def offset (emissions : Emissions K) (pollutant : Nat) : Nat :=
  (emissions.zoneCounts.take pollutant).foldr (· + ·) 0

def zone? (emissions : Emissions K) (nodes pollutant node : Nat) : Option Nat :=
  let zone :=
    if emissions.zones.isEmpty then 0
    else emissions.zones.getD (pollutant * nodes + node) 0
  if zone < emissions.zoneCount pollutant then some zone else Option.none

def rateAt [Zero K] (emissions : Emissions K) (generators instant pollutant
    generator : Nat) : K :=
  emissions.rates.getD
    ((instant * emissions.pollutants + pollutant) * generators + generator) 0

def budgetAt [Zero K] (emissions : Emissions K) (pollutant zone : Nat) : K :=
  emissions.budget.getD (emissions.offset pollutant + zone) 0

def validate (emissions : Emissions K) (nodes horizon generators : Nat) :
    Except Error PUnit := do
  if emissions.pollutants = 0 then return ⟨⟩
  if !emissions.zones.isEmpty then
    checkSize "PollutantZones" (emissions.pollutants * nodes) emissions.zones.length
  checkSize "PollutantBudget" emissions.totalZones emissions.budget.length
  checkSize "PollutantRho" (horizon * emissions.pollutants * generators)
    emissions.rates.length

end Emissions

end Dispatch
