import Dispatch.Schedule.Basic

namespace Dispatch.Schedule

/-! The rows that tie the plants together. A row is named by what it balances, and each
plant contributes one run of terms to it, so the same function builds the rows and
recomputes the coefficients of a plant whose scale has changed. -/

variable {K : Type} [Scalar K]

/-- What a linking row is about. -/
inductive LinkRow
  | balance (instant node : Nat)
  | zonal (need : Need) (instant zone : Nat)
  | budget (pollutant zone : Nat)
deriving DecidableEq, Repr

def pollutantZones (emissions : Emissions K) : List (Nat × Nat) :=
  emissions.zoneCounts.zipIdx.flatMap fun entry =>
    (List.range entry.1).map fun zone => (entry.2, zone)

/-- The rows of a kind in storage order. -/
def linkRows (schedule : Schedule K) : LinkKind → List LinkRow
  | .balance => Family.table schedule.horizon schedule.nodes .balance
  | .zonal need =>
      Family.table schedule.horizon (schedule.zoning need).count (.zonal need)
  | .budget => (pollutantZones schedule.emissions).map fun entry =>
      .budget entry.1 entry.2

/-- The columns of the family. -/
def linkCols (schedule : Schedule K) : LinkKind → Nat
  | .balance => schedule.nodes
  | .zonal need => (schedule.zoning need).count
  | .budget => 1

/-- The number of keys: rows that differ only in the instant have the same key. -/
def linkKeys (schedule : Schedule K) : LinkKind → Nat
  | .balance => schedule.nodes
  | .zonal need => (schedule.zoning need).count
  | .budget => schedule.emissions.totalZones

def rowKey (schedule : Schedule K) : LinkRow → Nat
  | .balance _ node => node
  | .zonal _ _ zone => zone
  | .budget pollutant zone => schedule.emissions.offset pollutant + zone

/-- Row and column of a linking row in its family. -/
def rowPlace (schedule : Schedule K) (row : LinkRow) : Nat × Nat :=
  match row with
  | .balance instant node => (instant, node)
  | .zonal _ instant zone => (instant, zone)
  | .budget _ _ => (schedule.rowKey row, 0)

/-- The pollutant and zone of a running number. -/
def zoneOfKey? : List Nat → Nat → Nat → Option (Nat × Nat)
  | [], _, _ => none
  | count :: rest, pollutant, key =>
      if key < count then some (pollutant, key)
      else zoneOfKey? rest (pollutant + 1) (key - count)

/-- All rows of a kind with one key. -/
def keyRows (schedule : Schedule K) (kind : LinkKind) (key : Nat) : List LinkRow :=
  match kind with
  | .balance => (List.range schedule.horizon).map fun instant => .balance instant key
  | .zonal need => (List.range schedule.horizon).map fun instant =>
      .zonal need instant key
  | .budget => ((zoneOfKey? schedule.emissions.zoneCounts 0 key).map fun entry =>
      .budget entry.1 entry.2).toList

/-- Consumption that is due while a committed generator is off. The commitment variable
carries it with a minus sign, which leaves the whole of it on the right-hand side. -/
def fixedConsumption (schedule : Schedule K) (index : Nat) (plant : Plant K)
    (instant node : Nat) : K :=
  if plant.data.commitment && plant.hasFixedConsumption then
    let offset := schedule.offset index
    let here := (List.range plant.generators).filter fun generator =>
      schedule.nodeOf (offset + generator) == node
    Scalar.sum (here.map fun generator =>
      plant.scale * plant.fixedConsumption generator instant)
  else 0

/-- On a bus the demand, elsewhere the network child meets it; less the consumption of
generators that are off. -/
def balanceLevel (schedule : Schedule K) (instant node : Nat) : K :=
  let demand := if schedule.isBus then schedule.demandAt node instant else 0
  let fixed := Scalar.sum (schedule.plants.mapIdx fun index plant =>
    schedule.fixedConsumption index plant instant node)
  demand - fixed

def linkBounds (schedule : Schedule K) (row : LinkRow) : K × K :=
  match row with
  | .balance instant node =>
      let level := schedule.balanceLevel instant node
      (level, level)
  | .zonal need instant zone =>
      ((schedule.zoning need).demandAt schedule.horizon zone instant, Scalar.infinity)
  | .budget pollutant zone =>
      (-Scalar.infinity, schedule.emissions.budgetAt pollutant zone)

/-- The injection variable that a balance row of a network starts with. -/
def linkHead (schedule : Schedule K) (row : LinkRow) :
    Except Error (List (VarRef × K)) :=
  match row with
  | .balance instant node =>
      if schedule.isBus then .ok []
      else
        match schedule.networks[instant]?.bind fun network =>
            network.injectionVar? 0 node with
        | some injection => .ok [(injection, -1)]
        | none => .error (.invalidTopology (.noInjectionVariables instant))
  | _ => .ok []

def weighted (var? : Option VarRef) (weight : K) : List (VarRef × K) :=
  var?.toList.map fun var => (var, weight)

/-- What one generator adds to the balance of its node. -/
def balanceTerms (plant : Plant K) (generator instant : Nat) : List (VarRef × K) :=
  weighted (plant.activePowerVar? generator instant) plant.scale ++
    (if plant.hasFixedConsumption then
      weighted (plant.commitmentVar? generator instant)
        (-plant.scale * plant.fixedConsumption generator instant)
    else [])

/-- What one generator adds to a need of its zone. -/
def needTerms (plant : Plant K) (need : Need) (generator instant : Nat) :
    List (VarRef × K) :=
  match need with
  | .primary => weighted (plant.primaryReserveVar? generator instant) plant.scale
  | .secondary => weighted (plant.secondaryReserveVar? generator instant) plant.scale
  | .inertia =>
      (if plant.hasInertiaCommitment then
        weighted (plant.commitmentVar? generator instant)
          (plant.scale * plant.inertiaCommitment generator instant)
      else []) ++
      (if plant.hasInertiaPower then
        weighted (plant.activePowerVar? generator instant)
          (plant.scale * plant.inertiaPower generator instant)
      else [])

/-- What one generator adds to a pollutant's budget at one instant. -/
def budgetTerms (schedule : Schedule K) (plant : Plant K) (offset generator : Nat)
    (pollutant instant : Nat) : List (VarRef × K) :=
  weighted (plant.activePowerVar? generator instant)
    (plant.scale * schedule.emissions.rateAt schedule.generators instant pollutant
      (offset + generator))

/-- The terms of the generators that a row is about, in order. -/
def plantTerms (schedule : Schedule K) (index : Nat) (plant : Plant K) (row : LinkRow) :
    List (VarRef × K) :=
  let offset := schedule.offset index
  let each (belongs : Nat → Bool) (terms : Nat → List (VarRef × K)) :=
    (List.range plant.generators).flatMap fun generator =>
      if belongs (schedule.nodeOf (offset + generator)) then terms generator else []
  match row with
  | .balance instant node =>
      each (fun place => place == node) fun generator =>
        balanceTerms plant generator instant
  | .zonal need instant zone =>
      each (fun place => (schedule.zoning need).zone? place == some zone)
        fun generator => needTerms plant need generator instant
  | .budget pollutant zone =>
      (List.range schedule.horizon).flatMap fun instant =>
        each (fun place =>
            schedule.emissions.zone? schedule.nodes pollutant place == some zone)
          fun generator =>
            schedule.budgetTerms plant offset generator pollutant instant

/-- The runs of terms of all plants. -/
def runs (schedule : Schedule K) (row : LinkRow) : List (List (VarRef × K)) :=
  schedule.plants.mapIdx fun index plant => schedule.plantTerms index plant row

def linkRow (schedule : Schedule K) (row : LinkRow) : Except Error (Row K) := do
  let head ← schedule.linkHead row
  let bounds := schedule.linkBounds row
  return ⟨.ofTerms (head ++ (schedule.runs row).flatten), bounds.1, bounds.2⟩

/-- The positions of consecutive runs, the first of which starts at `start`. -/
def spansFrom : Nat → List (List (VarRef × K)) → List Span
  | _, [] => []
  | start, run :: rest => ⟨start, start + run.length⟩ :: spansFrom (start + run.length) rest

def headLength (schedule : Schedule K) : LinkRow → Nat
  | .balance _ _ => if schedule.isBus then 0 else 1
  | _ => 0

/-- Enters the positions of one row under its key, for every plant. -/
def enterSpans (schedule : Schedule K) (spans : List (List Span)) (row : LinkRow) :
    List (List Span) :=
  (spans.zip (spansFrom (schedule.headLength row) (schedule.runs row))).map
    fun entry => entry.1.set (schedule.rowKey row) entry.2

def emptySpans (schedule : Schedule K) (kind : LinkKind) : List (List Span) :=
  schedule.plants.map fun _ => List.replicate (schedule.linkKeys kind) ⟨0, 0⟩

def link (schedule : Schedule K) (kind : LinkKind) : Except Error (Link K) := do
  let rows := schedule.linkRows kind
  let items ← rows.mapM schedule.linkRow
  return {
    kind
    rows := ⟨kind.familyName, schedule.linkCols kind, items⟩
    spans := rows.foldl schedule.enterSpans (schedule.emptySpans kind) }

/-- The families that have rows. -/
def linksOf (schedule : Schedule K) : Except Error (List (Link K)) := do
  let links ← LinkKind.all.mapM schedule.link
  return links.filter fun link => !link.rows.isEmpty

end Dispatch.Schedule
