import Dispatch.Proofs.Reachable.Networks

namespace Dispatch

/-! While all abstract modes write, the networks of a schedule are in step, so that the rows of a
late one are those that its data would generate now. -/

variable {K : Type} [Scalar K]

namespace Network

theorem withConstraints_withNotifier (notifier : NotifierKey) (network : Network K) :
    ({ network with notifier } : Network K).withConstraints =
      network.withConstraints.map fun generated => { generated with notifier } := by
  have nodes : ({ network with notifier } : Network K).nodes = network.nodes := rfl
  have checked : ({ network with notifier } : Network K).checkTopology =
      network.checkTopology := rfl
  unfold withConstraints
  rw [nodes, checked]
  split
  · cases network.checkTopology <;> rfl
  · rfl

/-- Where a network publishes is no part of what it generates. -/
theorem generatedTo_withNotifier (notifier : NotifierKey) (network : Network K) (stage : Stage) :
    ({ network with notifier } : Network K).generatedTo stage =
      (network.generatedTo stage).map fun generated => { generated with notifier } := by
  have constrained : ({ network with notifier } : Network K).withVariables.withConstraints =
      network.withVariables.withConstraints.map fun generated => { generated with notifier } :=
    withConstraints_withNotifier notifier network.withVariables
  cases stage with
  | empty => rfl
  | vars => rfl
  | constraints => exact constrained
  | objective =>
      change Except.map withObjective _ = Except.map _ (Except.map withObjective _)
      rw [constrained]
      cases network.withVariables.withConstraints <;> rfl

theorem InStep.withNotifier {network : Network K} (inStep : network.InStep)
    (notifier : NotifierKey) : ({ network with notifier } : Network K).InStep := by
  have generated := generatedTo_withNotifier notifier network.stripped network.stage
  rw [show network.stripped.generatedTo network.stage = .ok network from inStep] at generated
  exact generated

/-- The rows of a network of several nodes in step, once there are any. -/
theorem InStep.rows_eq {network : Network K} (inStep : network.InStep)
    (late : network.stage.hasConstraints = true) (several : 1 < network.nodes) :
    ∃ topology, network.checkTopology = .ok topology ∧
      network.rows = network.rowsOf topology := by
  have constrained {result : Network K}
      (generated : network.stripped.withVariables.withConstraints = .ok result) :
      ∃ topology, result.checkTopology = .ok topology ∧ result.rows = result.rowsOf topology := by
    obtain ⟨single, -⟩ | ⟨topology, -, checked, -, rfl⟩ := withConstraints_cases generated
    · exact absurd several single
    · exact ⟨topology, checked, rfl⟩
  rw [InStep] at inStep
  cases reached : network.stage with
  | empty =>
      rw [reached] at late
      cases late
  | vars =>
      rw [reached] at late
      cases late
  | constraints =>
      rw [reached] at inStep
      exact constrained inStep
  | objective =>
      rw [reached] at inStep
      obtain ⟨middle, generated, equality⟩ := Except.map_eq_ok.mp inStep
      obtain ⟨topology, checked, rows⟩ := constrained generated
      rw [← equality]
      exact ⟨topology, checked, rows⟩

end Network

/-- A network in step stays so while the modes that reach it write. -/
theorem Network.InStep.lasting :
    Network.Lasting (fun mode => mode.writes = true) (Network.InStep : Network K → Prop) where
  quiet := rfl
  withNotifier inStep := inStep.withNotifier
  withConstant inStep := inStep.withConstant
  generateVariables _ inStep := inStep.generateVariables
  generateConstraints _ inStep := inStep.generateConstraints
  generateObjective _ inStep := inStep.generateObjective
  setDemand inStep address values _ writes := inStep.setDemand address values .quiet writes
  setInjectionBounds inStep minimum maximum _ writes :=
    inStep.setInjectionBounds minimum maximum .quiet writes

namespace Schedule

variable {schedule : Schedule K} {allowed : Mode → Prop}

theorem Arises.attuned (arises : schedule.Arises allowed)
    (writes : ∀ mode, allowed mode → mode.writes = true) :
    schedule.EachNetwork Network.InStep :=
  arises.eachNetwork Network.InStep.lasting
    (fun mode allows => by rw [Mode.writes_silent, writes mode allows])
    fun _ _ _ => Network.inStep_of_stripped rfl

/-- The rows of a network are those of the topology that it shares with its siblings. -/
theorem Arises.networkRows (arises : schedule.Arises allowed)
    (writes : ∀ mode, allowed mode → mode.writes = true)
    (late : schedule.stage.hasConstraints = true) {network : Network K}
    (member : network ∈ schedule.networks) :
    ∃ topology, network.checkTopology = .ok topology ∧
      network.rows = network.rowsOf topology ∧ network.Sibling topology schedule.stage := by
  obtain ⟨shared, siblings⟩ := arises.paced.networks
  have sibling := siblings network member
  obtain ⟨topology, checked, rows⟩ := (arises.attuned writes network member).rows_eq
    (by rw [sibling.paced, late]) (by rw [sibling.nodes]; exact sibling.several)
  have same : topology = shared :=
    Option.some.inj ((Network.checkTopology_ok checked).symm.trans sibling.attached)
  exact ⟨topology, checked, rows, same ▸ sibling⟩

end Schedule

end Dispatch
