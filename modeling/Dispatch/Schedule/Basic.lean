import Dispatch.Network.Basic
import Dispatch.Plant.Basic
import Dispatch.Schedule.Zones

namespace Dispatch

/-! A schedule commits plants over a horizon. On a bus its balance rows meet the demand;
with several nodes there is one network per instant, and the balance rows tie what each
node injects to the generation there. -/

/-- The kinds of rows that tie plants together. -/
inductive LinkKind
  | balance
  | zonal (need : Need)
  | budget
deriving DecidableEq, Repr

namespace LinkKind

/-- In visiting order. -/
def all : List LinkKind :=
  [.balance, .zonal .primary, .zonal .secondary, .zonal .inertia, .budget]

def familyName : LinkKind → String
  | .balance => "node_injection"
  | .zonal .primary => "primary_demand"
  | .zonal .secondary => "secondary_demand"
  | .zonal .inertia => "inertia_demand"
  | .budget => "pollutant_budget"

end LinkKind

/-- The positions `start` to `stop`, the latter excluded. -/
structure Span where
  start : Nat
  stop : Nat
deriving DecidableEq, Repr

namespace Span

def isEmpty (span : Span) : Bool :=
  decide (span.stop ≤ span.start)

def positions (span : Span) : List Nat :=
  List.range' span.start (span.stop - span.start)

end Span

/-- A family of linking rows with its term index: the positions that a plant's terms have
in every row of one key. -/
structure Link (K : Type) where
  kind : LinkKind
  rows : Family (Row K)
  /-- By plant, then by key. -/
  spans : List (List Span)

structure Schedule (K : Type) where
  id : BlockId
  stage : Stage
  settings : Option (Settings K)
  notifier : NotifierKey
  horizon : Nat
  nodes : Nat
  plants : List (Plant K)
  networks : List (Network K)
  classname : String
  /-- The node of every generator, plant by plant; empty puts all at node 0. -/
  generatorNode : List Nat
  /-- One entry per node and instant; empty stands for zero everywhere. -/
  demand : List K
  primary : Zoning K
  secondary : Zoning K
  inertia : Zoning K
  emissions : Emissions K
  networkConstants : List K
  links : List (Link K)
  objective : Option (Objective K)
  layouts : Layouts

namespace Schedule

variable {K : Type} [Scalar K]

/-- A bus without plants. -/
def ofHorizon (id : BlockId) (horizon : Nat) : Schedule K where
  id := id
  stage := .empty
  settings := none
  notifier := .own id
  horizon := horizon
  nodes := 1
  plants := []
  networks := []
  classname := DcData.classname
  generatorNode := []
  demand := []
  primary := Zoning.none
  secondary := Zoning.none
  inertia := Zoning.none
  emissions := Emissions.none
  networkConstants := []
  links := []
  objective := none
  layouts := Layouts.none

def new (horizon : Nat) : Creation (Schedule K) := do
  return ofHorizon (← Creation.fresh) horizon

def isBus (schedule : Schedule K) : Bool :=
  schedule.networks.isEmpty

def zoning (schedule : Schedule K) : Need → Zoning K
  | .primary => schedule.primary
  | .secondary => schedule.secondary
  | .inertia => schedule.inertia

def withZoning (schedule : Schedule K) (zoning : Zoning K) : Need → Schedule K
  | .primary => { schedule with primary := zoning }
  | .secondary => { schedule with secondary := zoning }
  | .inertia => { schedule with inertia := zoning }

def generators (schedule : Schedule K) : Nat :=
  (schedule.plants.map Plant.generators).foldr (· + ·) 0

/-- The number of generators of the plants before this one. -/
def offset (schedule : Schedule K) (plant : Nat) : Nat :=
  ((schedule.plants.take plant).map Plant.generators).foldr (· + ·) 0

def nodeOf (schedule : Schedule K) (generator : Nat) : Nat :=
  if schedule.generatorNode.isEmpty then 0 else schedule.generatorNode.getD generator 0

def extent (schedule : Schedule K) : Nat :=
  schedule.nodes * schedule.horizon

def demandAt (schedule : Schedule K) (node instant : Nat) : K :=
  schedule.demand.getD (node * schedule.horizon + instant) 0

def demand? (schedule : Schedule K) (node instant : Nat) : Option K :=
  if node < schedule.nodes ∧ instant < schedule.horizon then
    some (schedule.demandAt node instant)
  else none

def link? (schedule : Schedule K) (kind : LinkKind) : Option (Link K) :=
  schedule.links.find? fun link => link.kind == kind

/-- The positions of a plant's terms in the rows of a key: a node, a zone, or the running
number of a pollutant's zone. -/
def span? (schedule : Schedule K) (kind : LinkKind) (plant key : Nat) : Option Span := do
  let link ← schedule.link? kind
  (← link.spans[plant]?)[key]?

/-- Network constants of a bus have no network to go to. -/
def ownConstant (schedule : Schedule K) : K :=
  if schedule.isBus then Scalar.sum schedule.networkConstants else 0

def lookup? (schedule : Schedule K) (var : VarRef) : Option (Variable K) :=
  match schedule.plants.find? fun plant => plant.id == var.block with
  | some plant => plant.store.lookup? var
  | none =>
      (schedule.networks.find? fun network => network.id == var.block).bind
        fun network => network.store.lookup? var

/-- What the schedule shows of its representation: its own rows and objective first, then
those of its plants and networks. -/
def model (schedule : Schedule K) : Model K where
  block := schedule.id
  kind := "UCBlock"
  stage := schedule.stage
  settings := schedule.settings
  vars := (schedule.plants.flatMap fun plant => plant.model.vars) ++
    schedule.networks.flatMap fun network => network.model.vars
  lookup? := schedule.lookup?
  constraints := (schedule.links.flatMap fun link => link.rows.entries) ++
    (schedule.plants.flatMap fun plant => plant.model.constraints) ++
    schedule.networks.flatMap fun network => network.model.constraints
  objectives := schedule.objective.toList ++
    (schedule.plants.flatMap fun plant => plant.model.objectives) ++
    schedule.networks.flatMap fun network => network.model.objectives

end Schedule

end Dispatch
