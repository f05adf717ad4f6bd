import Dispatch.Proofs.Attempt.Linking
import Dispatch.Proofs.Reachable.Networks

namespace Dispatch

/-! Generation of a schedule with all of its lookups. Every step finds what it looks up, also
where it is refused, and leaves a schedule whose next step does. -/

namespace Network

variable {K : Type} [Scalar K]

/-- A schedule hands its networks bounds for each interval and node. -/
theorem Fenced.lasting : Lasting Schedule.anyMode (Fenced : Network K → Prop) where
  quiet := trivial
  withNotifier fenced _ := ⟨fenced.minimum, fenced.maximum⟩
  withConstant fenced _ := ⟨fenced.minimum, fenced.maximum⟩
  generateVariables _ fenced := fenced.generateVariables
  generateConstraints _ fenced := fenced.generateConstraints
  generateObjective _ fenced := fenced.step fun _ advanced => by
    cases advanced
    exact ⟨fenced.minimum, fenced.maximum⟩
  setDemand {network} fenced address values abstract _ := by
    rcases setDemand_state address values .quiet abstract network with still | ⟨_, moved⟩
    · rwa [still]
    · rw [moved, withDemand_rest]
      exact ⟨fenced.minimum, fenced.maximum⟩
  setInjectionBounds fenced minimum maximum abstract _ :=
    fenced.setInjectionBounds minimum maximum .quiet abstract

end Network

namespace Schedule

open Attempt (current require)

variable {K : Type} [Scalar K]

def onPlants? {α : Type} (attempt : Attempt (List (Plant K)) α) : Attempt (Schedule K) α :=
  Attempt.onPart Schedule.plants (fun plants schedule => { schedule with plants }) attempt

def stepMembers? (plantStep? : Attempt (Plant K) PUnit)
    (networkStep? : Attempt (Network K) PUnit) : Attempt (Schedule K) PUnit := do
  onPlants? (Attempt.each fun _ => plantStep?)
  onNetworks? (Attempt.each fun _ => networkStep?)

def step? (target : Stage) (advance? : Attempt (Schedule K) PUnit) :
    Attempt (Schedule K) PUnit := do
  let schedule ← current
  match ← require (schedule.stage.enter target) with
  | .skip => return ⟨⟩
  | .run => do
      advance?
      Attempt.write fun schedule => { schedule with stage := target }

def generateVariables? : Attempt (Schedule K) PUnit :=
  step? .vars (stepMembers? Plant.generateVariables? Network.generateVariables?)

def buildConstraints? : Attempt (Schedule K) PUnit := do
  let schedule ← current
  require schedule.validate
  refreshInjectionBounds? .quiet
  stepMembers? Plant.generateConstraints? Network.generateConstraints?
  let schedule ← current
  let links ← Attempt.demand schedule.families?
  Attempt.write fun schedule => { schedule with links }

def generateConstraints? : Attempt (Schedule K) PUnit :=
  step? .constraints buildConstraints?

def buildObjective? : Attempt (Schedule K) PUnit := do
  stepMembers? Plant.generateObjective? Network.generateObjective?
  Attempt.write fun schedule =>
    { schedule with objective := some ⟨⟨[], schedule.ownConstant⟩, .minimise⟩ }

def generateObjective? : Attempt (Schedule K) PUnit :=
  step? .objective buildObjective?

def generateAll? : Attempt (Schedule K) PUnit := do
  generateVariables?
  generateConstraints?
  generateObjective?

variable {schedule : Schedule K}

/-- A schedule whose next step finds what it looks up. -/
structure Ready (schedule : Schedule K) : Prop where
  sound : schedule.Sound
  grounded : schedule.Grounded
  fenced : schedule.EachNetwork Network.Fenced

omit [Scalar K] in
theorem completes_stepMembers {plantStep? : Attempt (Plant K) PUnit}
    {plantStep : Change (Plant K) PUnit} {networkStep? : Attempt (Network K) PUnit}
    {networkStep : Change (Network K) PUnit}
    (plants : ∀ plant ∈ schedule.plants, Attempt.Completes plantStep? plantStep plant)
    (networks : ∀ network ∈ schedule.networks,
      Attempt.Completes networkStep? networkStep network) :
    Attempt.Completes (stepMembers? plantStep? networkStep?)
      (stepMembers plantStep networkStep) schedule := by
  refine Attempt.Completes.bind ?_ fun _ _ => ?_
  · exact Attempt.Completes.onPart (Attempt.Completes.each fun _ plant found =>
      plants plant (List.mem_of_getElem? found))
  · exact Attempt.Completes.onPart (Attempt.Completes.each fun _ network found =>
      networks network (List.mem_of_getElem? found))

omit [Scalar K] in
theorem completes_step {target : Stage} {advance? : Attempt (Schedule K) PUnit}
    {advance : Change (Schedule K) PUnit}
    (advances : Attempt.Completes advance? advance schedule) :
    Attempt.Completes (step? target advance?) (step target advance) schedule := by
  apply Attempt.Completes.current
  refine Attempt.Completes.require fun action _ => ?_
  cases action with
  | skip => rfl
  | run => exact Attempt.Completes.bind advances fun _ _ => rfl

theorem completes_generateVariables (schedule : Schedule K) :
    Attempt.Completes generateVariables? generateVariables schedule :=
  completes_step (completes_stepMembers
    (fun plant _ => Plant.completes_generateVariables plant)
    fun network _ => Network.completes_generateVariables network)

omit [Scalar K] in
/-- A schedule laid out as one that is valid, with members of its own. -/
theorem linkable_of_layout (valid : schedule.validate = .ok ()) {after : Schedule K}
    (stocked : after.Stocked) (grounded : after.Grounded) (layout : SameLayout after schedule)
    (isBus : after.isBus = schedule.isBus) : after.Linkable where
  filled := stocked.filled
  placed := (placed_of_validate valid).congr layout isBus
  grounded := grounded
  count := stocked.count
  demand need := by
    rw [layout.zoning, layout.horizon]
    exact (zoning_of_valid valid need).2
  budget some := by
    rw [layout.emissions] at some ⊢
    exact (emissions_of_valid valid some).2.1

theorem Ready.completes_buildConstraints (ready : schedule.Ready) :
    Attempt.Completes buildConstraints? buildConstraints schedule := by
  apply Attempt.Completes.current
  refine Attempt.Completes.require fun _ valid => ?_
  have stocked := ready.sound.stocked
  have bounds := ready.fenced.refreshed Network.Fenced.lasting (show anyMode .quiet from trivial)
  have still := ready.grounded.moves (moves_refreshInjectionBounds .quiet schedule)
  have steps := moves_stepMembers Plant.Follows.generateConstraints
    Network.Follows.generateConstraints (refreshInjectionBounds .quiet schedule).state
  refine Attempt.Completes.bind
    (stocked.completes_refreshInjectionBounds (placed_of_validate valid) .quiet) fun _ _ => ?_
  obtain ⟨networks, refreshes, members⟩ :=
    ready.sound.refreshInjectionBounds_accepted .quiet
  rw [refreshes] at bounds still steps ⊢
  dsimp only at bounds still steps ⊢
  have refreshed := ready.sound.withNetworks members
  refine Attempt.Completes.bind (completes_stepMembers ?plants ?networks) fun _ _ => ?links
  case plants =>
    exact fun plant member => Plant.completes_generateConstraints (still.plants plant member)
      (refreshed.stocked.plants plant member)
  case networks =>
    exact fun network member => Network.completes_generateConstraints
      (still.networks network member) (refreshed.stocked.networks network member).shaped
      (bounds network member)
  case links =>
    obtain ⟨plants, others, stepped, plantsKept, networksKept⟩ := stepMembers_forall₂
      (fun before after => Plant.Kept before after ∧ Plant.SameFrame before after) Network.Kept
      (fun plant => ⟨Plant.Kept.refl plant, Plant.SameFrame.refl plant⟩) Network.Kept.refl
      (fun plant => ⟨Plant.Kept.generateConstraints plant,
        Plant.SameFrame.generateConstraints plant⟩)
      Network.Kept.generateConstraints (schedule.withNetworks networks)
    rw [stepped] at steps ⊢
    have linkable := linkable_of_layout valid
      (refreshed.stocked.moved
        (show List.Forall₂ Plant.Kept (schedule.withNetworks networks).plants
          ((schedule.withNetworks networks).withMembers plants others).plants from
          plantsKept.imp fun _ _ kept => kept.1) networksKept rfl rfl refreshed.stocked.demand)
      (still.moves steps)
      ⟨rfl, rfl, rfl, fun need => by cases need <;> rfl, rfl,
        generators_of_forall₂ (plantsKept.imp fun _ _ kept => kept.2)⟩
      ((Change.isEmpty_of_forall₂ networksKept).trans (Change.isEmpty_of_forall₂ members))
    apply Attempt.Completes.current
    exact Attempt.Completes.demand (completes_families linkable) fun _ _ => rfl

theorem Ready.completes_buildObjective (ready : schedule.Ready) :
    Attempt.Completes buildObjective? buildObjective schedule :=
  Attempt.Completes.bind
    (completes_stepMembers
      (fun plant member => Plant.completes_generateObjective (ready.grounded.plants plant member)
        (ready.sound.stocked.plants plant member))
      fun network member =>
        Network.completes_generateObjective (ready.grounded.networks network member))
    fun _ _ => rfl

theorem Ready.generateVariables (ready : schedule.Ready) :
    (Schedule.generateVariables schedule).state.Ready :=
  ⟨ready.sound.generateVariables, ready.grounded.generateVariables,
    ready.fenced.generateVariables Network.Fenced.lasting⟩

theorem Ready.generateConstraints (ready : schedule.Ready) :
    (Schedule.generateConstraints schedule).state.Ready :=
  ⟨ready.sound.generateConstraints, ready.grounded.generateConstraints,
    ready.fenced.generateConstraints Network.Fenced.lasting⟩

theorem Ready.completes_generateAll (ready : schedule.Ready) :
    Attempt.Completes generateAll? generateAll schedule := by
  refine Attempt.Completes.bind (completes_generateVariables schedule) fun _ _ => ?_
  have first := ready.generateVariables
  refine Attempt.Completes.bind (completes_step first.completes_buildConstraints) fun _ _ => ?_
  exact completes_step first.generateConstraints.completes_buildObjective

end Schedule

end Dispatch
