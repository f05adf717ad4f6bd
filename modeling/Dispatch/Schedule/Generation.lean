import Dispatch.Network.Generation
import Dispatch.Network.Update
import Dispatch.Plant.Generation
import Dispatch.Schedule.Linking
import Dispatch.Schedule.Setup

namespace Dispatch.Schedule

/-! Generation of a schedule and its members. The members take each step before the
schedule itself does, and what they generated before a refusal stays. -/

variable {K : Type} [Scalar K]

/-- Generators on nodes, one network per instant, and arrays that fit. -/
def validate (schedule : Schedule K) : Except Error PUnit := do
  if !schedule.isBus || !schedule.generatorNode.isEmpty then
    checkSize "GeneratorNode" schedule.generators schedule.generatorNode.length
    match schedule.generatorNode.find? fun node => decide (schedule.nodes ≤ node) with
    | none => pure ⟨⟩
    | some node => throw (.outOfRange "node" node schedule.nodes)
  if !schedule.isBus && schedule.networks.length != schedule.horizon then
    throw (.invalidTopology (.networkCount schedule.networks.length schedule.horizon))
  schedule.primary.validate schedule.nodes schedule.horizon "Primary"
  schedule.secondary.validate schedule.nodes schedule.horizon "Secondary"
  schedule.inertia.validate schedule.nodes schedule.horizon "Inertia"
  schedule.emissions.validate schedule.nodes schedule.horizon schedule.generators

/-- The generators at a node, each with its plant. -/
def generatorsAt (schedule : Schedule K) (node : Nat) : List (Plant K × Nat) :=
  schedule.plants.zipIdx.flatMap fun entry =>
    ((List.range entry.1.generators).filter fun generator =>
      schedule.nodeOf (schedule.offset entry.2 + generator) == node).map
      fun generator => (entry.1, generator)

/-- A committed generator may be off and so guarantees no minimum. -/
def minInjection (schedule : Schedule K) (instant node : Nat) : K :=
  (schedule.generatorsAt node).foldl
    (fun total entry =>
      if entry.1.data.commitment then total
      else total + entry.1.scale * entry.1.minPower entry.2 instant) 0

def maxInjection (schedule : Schedule K) (instant node : Nat) : K :=
  (schedule.generatorsAt node).foldl
    (fun total entry => total + entry.1.scale * entry.1.maxPower entry.2 instant) 0

/-- Injection bounds of the networks follow from the plants. -/
def refreshInjectionBounds (abstract : Mode) : Change (Schedule K) PUnit := do
  let schedule ← Change.current
  let nodes := List.range schedule.nodes
  onNetworks (Change.each fun instant =>
    Network.setInjectionBounds (nodes.map (schedule.minInjection instant))
      (nodes.map (schedule.maxInjection instant)) .quiet abstract)

def onPlants {α : Type} (change : Change (List (Plant K)) α) : Change (Schedule K) α :=
  Change.onPart Schedule.plants (fun plants schedule => { schedule with plants }) change

def stepMembers (plantStep : Change (Plant K) PUnit)
    (networkStep : Change (Network K) PUnit) : Change (Schedule K) PUnit := do
  onPlants (Change.each fun _ => plantStep)
  onNetworks (Change.each fun _ => networkStep)

/-- One generation step: nothing to do when it was taken before. -/
def step (target : Stage) (advance : Change (Schedule K) PUnit) :
    Change (Schedule K) PUnit := do
  let schedule ← Change.current
  match ← Change.require (schedule.stage.enter target) with
  | .skip => return ⟨⟩
  | .run => do
      advance
      Change.write fun schedule => { schedule with stage := target }

def generateVariables : Change (Schedule K) PUnit :=
  step .vars (stepMembers Plant.generateVariables Network.generateVariables)

def buildConstraints : Change (Schedule K) PUnit := do
  let schedule ← Change.current
  Change.require schedule.validate
  refreshInjectionBounds .quiet
  stepMembers Plant.generateConstraints Network.generateConstraints
  let schedule ← Change.current
  let links ← Change.require schedule.linksOf
  Change.write fun schedule => { schedule with links }

def generateConstraints : Change (Schedule K) PUnit :=
  step .constraints buildConstraints

def buildObjective : Change (Schedule K) PUnit := do
  stepMembers Plant.generateObjective Network.generateObjective
  Change.write fun schedule =>
    { schedule with objective := some ⟨⟨[], schedule.ownConstant⟩, .minimise⟩ }

def generateObjective : Change (Schedule K) PUnit :=
  step .objective buildObjective

def generateAll : Change (Schedule K) PUnit := do
  generateVariables
  generateConstraints
  generateObjective

end Dispatch.Schedule
