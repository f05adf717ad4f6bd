import Dispatch.Network.File
import Dispatch.Network.Setup
import Dispatch.Proofs.Network.Update
import Dispatch.Proofs.Transport.Network

namespace Dispatch.Network

/-! Any run of generation steps and writing updates ends with the rows and the objective
that the data of the end generate at once. -/

variable {K : Type}

/-- Nothing is generated. -/
def Bare (network : Network K) : Prop :=
  network.stripped = network

variable [Scalar K]

/-! Whatever is attached, read or reset before the first step, a network stays bare. -/

theorem bare_bus (id : BlockId) : (bus id : Network K).Bare := rfl

omit [Scalar K] in
/-- A change of the data alone commutes with stripping. -/
theorem Bare.change {network : Network K} (bare : network.Bare)
    (update : Network K → Network K)
    (commutes : (update network).stripped = update network.stripped) :
    (update network).Bare := by
  rw [Bare, commutes, show network.stripped = network from bare]

theorem Bare.attach {network : Network K} (bare : network.Bare)
    (descriptor : Holding (Descriptor K)) : (network.attach descriptor).Bare :=
  bare.change (fun n => n.attach descriptor) rfl

omit [Scalar K] in
theorem Bare.stage {network : Network K} (bare : network.Bare) : network.stage = .empty := by
  rw [← show network.stripped = network from bare]
  rfl

omit [Scalar K] in
theorem Bare.early {network : Network K} (bare : network.Bare) :
    network.stage.hasVariables = false := by
  rw [← bare]
  rfl

omit [Scalar K] in
theorem refuseIfGenerated_of_early {network : Network K}
    (early : network.stage.hasVariables = false) (part : Network K → FrozenPart) :
    refuseIfGenerated part network = ⟨network, [], .ok ⟨⟩⟩ := by
  unfold refuseIfGenerated
  rw [Change.current_bind, early]
  rfl

theorem Bare.setIntervals {network : Network K} (bare : network.Bare) (intervals : Nat) :
    (Network.setIntervals intervals network).state.Bare := by
  unfold Network.setIntervals
  rw [Change.bind_ok (refuseIfGenerated_of_early bare.early _)]
  by_cases none : intervals = 0
  · rw [if_pos none]
    exact bare
  · rw [if_neg none]
    exact bare.change
      (fun n => withFreeInjections { n with intervals, demand := [] }) rfl

theorem Bare.setDemand {network : Network K} (bare : network.Bare) (address : Address)
    (values : List K) (physical abstract : Mode) :
    (Network.setDemand address values physical abstract network).state.Bare := by
  cases setDemand_state address values physical abstract network with
  | inl still => rwa [still]
  | inr moved =>
      obtain ⟨selection, moved⟩ := moved
      have early : network.stage.hasConstraints = false := by
        rw [bare.stage]
        rfl
      rw [moved, withDemand, early, Bool.and_false, if_neg (by simp)]
      exact bare.change (fun n => n.reloaded _ _) rfl

inductive Call (K : Type)
  | generateVariables
  | generateConstraints
  | generateObjective
  | setKappa (address : Address) (values : List K) (physical abstract : Mode)
  | setDemand (address : Address) (values : List K) (physical abstract : Mode)
  | setInjectionBounds (minimum maximum : List K) (physical abstract : Mode)
  | setConstantTerm (constant : K)

namespace Call

/-- An update follows through in the rows. Its physical mode is free, since a dry run of
the data moves nothing. -/
def Writes : Call K → Prop
  | .setKappa _ _ _ abstract => abstract.writes = true
  | .setDemand _ _ _ abstract => abstract.writes = true
  | .setInjectionBounds _ _ _ abstract => abstract.writes = true
  | _ => True

/-- The network afterwards, whether the call was refused or not. -/
def perform (network : Network K) : Call K → Network K
  | .generateVariables => (Network.generateVariables network).state
  | .generateConstraints => (Network.generateConstraints network).state
  | .generateObjective => (Network.generateObjective network).state
  | .setKappa address values physical abstract =>
      (Network.setKappa address values physical abstract network).state
  | .setDemand address values physical abstract =>
      (Network.setDemand address values physical abstract network).state
  | .setInjectionBounds minimum maximum physical abstract =>
      (Network.setInjectionBounds minimum maximum physical abstract network).state
  | .setConstantTerm constant => (Network.setConstantTerm constant network).state

end Call

def play (network : Network K) (calls : List (Call K)) : Network K :=
  calls.foldl Call.perform network

theorem InStep.setKappa {network : Network K} (inStep : network.InStep) (address : Address)
    (values : List K) (physical : Mode) {abstract : Mode} (writes : abstract.writes = true) :
    (Network.setKappa address values physical abstract network).state.InStep := by
  cases setKappa_state address values physical abstract network with
  | inl still => rwa [still]
  | inr moved =>
      obtain ⟨selection, moved⟩ := moved
      rw [moved]
      exact inStep.withKappa selection values writes

theorem InStep.setDemand {network : Network K} (inStep : network.InStep) (address : Address)
    (values : List K) (physical : Mode) {abstract : Mode} (writes : abstract.writes = true) :
    (Network.setDemand address values physical abstract network).state.InStep := by
  cases setDemand_state address values physical abstract network with
  | inl still => rwa [still]
  | inr moved =>
      obtain ⟨selection, moved⟩ := moved
      rw [moved]
      exact inStep.withDemand selection values writes

theorem InStep.setInjectionBounds {network : Network K} (inStep : network.InStep)
    (minimum maximum : List K) (physical : Mode) {abstract : Mode}
    (writes : abstract.writes = true) :
    (Network.setInjectionBounds minimum maximum physical abstract network).state.InStep := by
  cases setInjectionBounds_state minimum maximum physical abstract network with
  | inl still => rwa [still]
  | inr moved =>
      rw [moved]
      exact inStep.withInjectionBounds minimum maximum writes

theorem InStep.perform {network : Network K} (inStep : network.InStep) {call : Call K}
    (writes : call.Writes) : (call.perform network).InStep := by
  cases call with
  | generateVariables => exact inStep.generateVariables
  | generateConstraints => exact inStep.generateConstraints
  | generateObjective => exact inStep.generateObjective
  | setKappa address values physical abstract =>
      exact inStep.setKappa address values physical writes
  | setDemand address values physical abstract =>
      exact inStep.setDemand address values physical writes
  | setInjectionBounds minimum maximum physical abstract =>
      exact inStep.setInjectionBounds minimum maximum physical writes
  | setConstantTerm constant => exact inStep.withConstant constant

theorem InStep.play {network : Network K} (inStep : network.InStep) {calls : List (Call K)}
    (writes : ∀ call ∈ calls, call.Writes) : (network.play calls).InStep := by
  induction calls generalizing network with
  | nil => exact inStep
  | cons call rest induction =>
      exact induction (inStep.perform (writes call (by simp)))
        fun other member => writes other (by simp [member])

def fresh (network : Network K) (id : BlockId) : Network K :=
  { (bus id : Network K) with
    descriptor := network.descriptor
    looseNodes := network.looseNodes
    intervals := network.intervals
    demand := network.demand
    kappa := network.kappa
    constantTerm := network.constantTerm
    minInjection := network.minInjection
    maxInjection := network.maxInjection }

/-- What generation has no use for. -/
def anonymous (network : Network K) : Network K :=
  { network with settings := none, notifier := .own network.id, layouts := Layouts.none }

theorem generatedTo_anonymous (network : Network K) (stage : Stage) :
    network.anonymous.generatedTo stage = (network.generatedTo stage).map anonymous := by
  have constrained (network : Network K) : network.anonymous.withConstraints =
      network.withConstraints.map anonymous := by
    have checked : network.anonymous.checkTopology = network.checkTopology := rfl
    have nodes : network.anonymous.nodes = network.nodes := rfl
    unfold withConstraints
    rw [checked, nodes]
    split
    · cases network.checkTopology <;> rfl
    · rfl
  cases stage with
  | empty => rfl
  | vars => rfl
  | constraints => exact constrained network.withVariables
  | objective =>
      have anonymity := constrained network.withVariables
      simp only [generatedTo]
      rw [show network.anonymous.withVariables = network.withVariables.anonymous from rfl,
        anonymity]
      cases network.withVariables.withConstraints <;> rfl

theorem fresh_eq (network : Network K) (renumber : BlockId → BlockId) :
    network.fresh (renumber network.id) =
      (network.map (.renumbering renumber)).stripped.anonymous := by
  have numbers (values : List K) :
      values.map (Transport.renumbering (K := K) renumber).number = values := List.map_id values
  have descriptor : (network.map (.renumbering renumber)).descriptor = network.descriptor := by
    simp [Network.map]
  simp only [fresh, anonymous, stripped, descriptor]
  simp only [Network.map, numbers]
  rfl

/-- Updating and generating in any order is generating once, up to identities. -/
theorem generateAll_fresh_of_play {start : Network K} (bare : start.Bare)
    {calls : List (Call K)} (writes : ∀ call ∈ calls, call.Writes)
    (complete : (start.play calls).stage = .objective) (renumber : BlockId → BlockId) :
    ∃ twin, generateAll ((start.play calls).fresh (renumber (start.play calls).id)) =
        ⟨twin, [], .ok ⟨⟩⟩ ∧
      twin.rows = (start.play calls).rows.map (.renumbering renumber) ∧
      twin.objective = (start.play calls).objective.map fun objective =>
        objective.map (.renumbering renumber) := by
  have inStep : (start.play calls).InStep := (inStep_of_stripped bare).play writes
  generalize start.play calls = final at inStep complete ⊢
  rw [InStep, complete] at inStep
  have carried := final.stripped.generatedTo_map (.renumbering renumber) .objective
  rw [inStep] at carried
  have generated : (final.fresh (renumber final.id)).generatedTo .objective =
      .ok (final.map (.renumbering renumber)).anonymous := by
    rw [fresh_eq, generatedTo_anonymous]
    exact congrArg (fun result => result.map anonymous) carried
  exact ⟨_, generateAll_apply rfl generated, rfl, rfl⟩

/-- Three nodes in a ring of one direct line and two AC lines, over two intervals. -/
def ring : Network Float :=
  { (bus ⟨0⟩ : Network Float) with
    descriptor := some (.owned (.dc
      { (DcData.bus : DcData Float) with
        nodes := 3
        start := [0, 1, 2]
        finish := [1, 2, 0]
        minFlow := [-1, -1, -1]
        maxFlow := [1, 1, 1]
        susceptance := [0, 1, 1]
        factors := some [0, 0, 0, 1, 0, 0, 0, 1, 0] }))
    intervals := 2 }

/-- Kappa moves before and the demand after the rows exist. -/
def ringCalls : List (Call Float) :=
  [.generateVariables, .setKappa (.range 0 2) [2, 3] .quiet .quiet, .generateConstraints,
    .setDemand (.subset [4, 1] false) [5, 6] .quiet .quiet, .generateObjective,
    .setConstantTerm 7]

theorem generateAll_fresh_of_play_ring :
    ring.lineKind = .hybrid ∧
    ∃ twin, generateAll ((ring.play ringCalls).fresh ⟨8⟩) = ⟨twin, [], .ok ⟨⟩⟩ ∧
      twin.rows = (ring.play ringCalls).rows.map (.renumbering fun _ => ⟨8⟩) ∧
      twin.objective = (ring.play ringCalls).objective.map fun objective =>
        objective.map (.renumbering fun _ => ⟨8⟩) :=
  ⟨by decide +kernel, generateAll_fresh_of_play (show ring.Bare from rfl)
    (show ∀ call ∈ ringCalls, call.Writes by simp [ringCalls, Call.Writes, Mode.writes])
    (by decide +kernel) fun _ => ⟨8⟩⟩

end Dispatch.Network
