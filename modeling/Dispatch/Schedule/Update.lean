import Dispatch.Plant.Update
import Dispatch.Schedule.Generation

namespace Dispatch.Schedule

/-! Updates of a generated schedule. A new scale reaches the linking rows through the term
index; a new demand reaches the balance rows of a bus or the networks. -/

variable {K : Type} [Scalar K]

/-- New coefficients of one plant in one linking row, and the new level of the row if that
depends on the plant. -/
structure RowPatch (K : Type) where
  place : Nat × Nat
  span : Span
  values : List K
  level : Option K

def movesLevel (plant : Plant K) : LinkRow → Bool
  | .balance _ _ => plant.data.commitment && plant.hasFixedConsumption
  | _ => false

def rowLevel (schedule : Schedule K) : LinkRow → K
  | .balance instant node => schedule.balanceLevel instant node
  | _ => 0

def rowPatch (schedule : Schedule K) (index : Nat) (plant : Plant K) (span : Span)
    (row : LinkRow) : RowPatch K where
  place := schedule.rowPlace row
  span := span
  values := (schedule.plantTerms index plant row).map Prod.snd
  level := if movesLevel plant row then some (schedule.rowLevel row) else none

/-- Only rows in which the plant has terms are visited. -/
def linkPatches (schedule : Schedule K) (index : Nat) (plant : Plant K) (link : Link K) :
    List (RowPatch K) :=
  (link.spans.getD index []).zipIdx.flatMap fun entry =>
    if entry.1.isEmpty then []
    else (schedule.keyRows link.kind entry.2).map (schedule.rowPatch index plant entry.1)

def RowPatch.applied (patch : RowPatch K) (row : Row K) : Except Error (Row K) := do
  let function ← row.function.setCoefficients patch.span.positions patch.values
  let row := { row with function }
  match patch.level with
  | none => return row
  | some level => return row.setBoth level

def patchRow (patch : RowPatch K) : Change (Link K) PUnit := do
  let link ← Change.current
  let (row, col) := patch.place
  match link.rows.get? row col with
  | none => Change.refuse (.outOfRange "linking row" row link.rows.rows)
  | some item => do
      let item ← Change.require (patch.applied item)
      Change.write fun link =>
        { link with rows := link.rows.modify row col fun _ => item }

/-- Every patch is computed before the first one is written. -/
def patchPlant (index : Nat) : Change (Schedule K) PUnit := do
  let schedule ← Change.current
  match schedule.plants[index]? with
  | none => return ⟨⟩
  | some plant =>
      let patches := schedule.links.map (schedule.linkPatches index plant)
      Change.onPart Schedule.links (fun links schedule => { schedule with links })
        (Change.each fun place => Change.forAll (patches.getD place []) patchRow)

/-- Network bounds are data derived from the plants and follow unless the abstract
representation is left alone. -/
def afterScale (index : Nat) (outcome : Outcome) (abstract : Mode) :
    Change (Schedule K) Outcome := do
  let schedule ← Change.current
  if outcome != .applied || !schedule.stage.hasConstraints then return outcome
  refreshInjectionBounds abstract.silent
  if abstract.writes then patchPlant index
  return outcome

def onPlant {α : Type} (index : Nat) (change : Change (Plant K) α) :
    Change (Schedule K) α := do
  let schedule ← Change.current
  onPlants (Change.onMember index
    (.error (.outOfRange "unit" index schedule.plants.length)) change)

def scalePlantAt (index : Nat) (address : Address) (values : List K)
    (physical abstract : Mode) : Change (Schedule K) Outcome := do
  let outcome ← onPlant index (Plant.setScaleAt address values physical abstract)
  afterScale index outcome abstract

def scalePlant (index : Nat) (scale : K) (physical abstract : Mode) :
    Change (Schedule K) Outcome :=
  scalePlantAt index (.range 0 1) [scale] physical abstract

/-- The balance rows of a bus at the given instants. -/
def patchBusBalance (schedule : Schedule K) (instants : List Nat) : Schedule K :=
  let patch (link : Link K) : Link K :=
    { link with
      rows := instants.foldl
        (fun rows instant =>
          rows.modify instant 0 (Row.setBoth (schedule.balanceLevel instant 0)))
        link.rows }
  { schedule with
    links := schedule.links.map fun link =>
      if link.kind == .balance then patch link else link }

/-- Hands one entry of the demand to the network of its instant. -/
def forwardEntry (horizon : Nat) (value : K) (entry : Nat) (abstract : Mode) :
    Change (List (Network K)) Outcome :=
  Change.onMember (entry % horizon) (.ok .unchanged)
    (Network.setDemand (.subset [entry / horizon] true) [value] .quiet abstract)

def forwardDemand (entries : List Nat) (abstract : Mode) : Change (Schedule K) PUnit := do
  let schedule ← Change.current
  onNetworks (Change.forAll entries fun entry =>
    forwardEntry schedule.horizon (schedule.demand.getD entry 0) entry abstract)

def updateDemand (selection : Selection) (values : List K) (physical abstract : Mode) :
    Change (Schedule K) Outcome := do
  let schedule ← Change.current
  if !selection.differs schedule.demand 0 values then return .unchanged
  if !physical.writes then return .dryRun
  let demand := selection.write schedule.demand schedule.extent 0 values
  Change.write fun schedule => { schedule with demand }
  if schedule.isBus then
    if abstract.writes && schedule.stage.hasConstraints then
      Change.write fun schedule => schedule.patchBusBalance selection.indices
  else forwardDemand selection.indices abstract.silent
  Change.report physical schedule.notifier
    (selection.record schedule.id .activePowerDemand)
  return .applied

/-- The address counts entries node by node, instant by instant; on a bus it is the
instant. -/
def setDemand (address : Address) (values : List K) (physical abstract : Mode) :
    Change (Schedule K) Outcome := do
  let schedule ← Change.current
  match ← Change.require (address.select schedule.extent values.length "demand") with
  | none => return .unchanged
  | some selection => updateDemand selection values physical abstract

end Dispatch.Schedule
