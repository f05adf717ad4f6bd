import Dispatch.Proofs.Reachable.Classified
import Dispatch.Proofs.Reachable.Networks

namespace Dispatch

/-! The networks of a schedule are new when it attaches them, and it has no other means than
their operations to move them on. -/

theorem Network.Arrived.lasting : Network.Lasting Schedule.anyMode Network.Arrived where
  quiet := trivial
  withNotifier arrived notifier := arrived.step (.withNotifier notifier) trivial
  withConstant arrived constant := arrived.step (.call (.setConstantTerm constant)) trivial
  generateVariables _ arrived := arrived.step (.call .generateVariables) trivial
  generateConstraints _ arrived := arrived.step (.call .generateConstraints) trivial
  generateObjective _ arrived := arrived.step (.call .generateObjective) trivial
  setDemand arrived address values abstract _ :=
    arrived.step (.call (.setDemand address values .quiet abstract)) trivial
  setInjectionBounds arrived minimum maximum abstract _ :=
    arrived.step (.call (.setInjectionBounds minimum maximum .quiet abstract)) trivial

theorem Schedule.Reachable.arrived {schedule : Schedule Float} (reachable : schedule.Reachable) :
    schedule.EachNetwork Network.Arrived := by
  refine reachable.arises.eachNetwork Network.Arrived.lasting (fun _ _ => trivial)
    fun id descriptor notifier => ?_
  have made : ((Network.bus id : Network Float).attach (.shared descriptor)).Made :=
    .ofDescriptor (show Network.ofDescriptor _ id.number = (.ok _, id.number + 1) from rfl)
  exact Reached.step (.start made) (Network.Operation.withNotifier notifier) trivial

namespace Network

/-- A network with constraints, on its own or as a member of a schedule, has the families that
its descriptor calls for, and a bus has none. -/
theorem census_of_arrived {network : Network Float}
    (arises : network.Arrived ∨
      ∃ schedule : Schedule Float, schedule.Reachable ∧ network ∈ schedule.networks)
    (generated : network.stage.hasConstraints = true) :
    (1 < network.nodes → ∃ topology, network.topology? = some topology ∧
        0 < network.intervals * topology.lines ∧
        network.rows.census = topology.census network.intervals) ∧
      (network.nodes ≤ 1 → network.rows.census = .none) := by
  have arrived : network.Arrived := by
    rcases arises with alone | ⟨schedule, reachable, member⟩
    · exact alone
    · exact reachable.arrived network member
  have classified := arrived.classified
  refine ⟨fun several => ?_, classified.single generated⟩
  obtain ⟨topology, attached, lines, census⟩ := classified.several generated several
  exact ⟨topology, attached, Nat.mul_pos classified.intervals lines, census⟩

/-- Three nodes with a direct line between AC lines. -/
def mesh : Network Float :=
  (bus ⟨0⟩).attach (.owned (.dc
    { (DcData.bus : DcData Float) with
      nodes := 3
      start := [0, 1, 2]
      finish := [1, 2, 0]
      minFlow := [-1, -1, -1]
      maxFlow := [1, 1, 1]
      susceptance := [1, 0, 1]
      factors := some [0, 0, 0, 1, 0, 0, 0, 1, 0] }))

/-- The operations that come too late are refused. -/
def meshOperations : List (Operation Float) :=
  [.setIntervals 2, .editDescriptor (.cost [0, 4, 0]), .call .generateVariables, .setIntervals 3,
    .call .generateConstraints, .overwriteDescriptor (.dc DcData.bus),
    .call (.setKappa (.range 0 2) [5, 6] .quiet .quiet)]

theorem census_of_arrived_mesh :
    let final := mesh.run meshOperations
    final.Arrived ∧ final.stage.hasConstraints = true ∧
      (∃ topology, final.topology? = some topology ∧
        0 < final.intervals * topology.lines ∧
        final.rows.census = topology.census final.intervals) ∧
      final.rows.census = ⟨.hybrid, 6, 0, 4, 2, 12, 6⟩ := by
  intro final
  have made : mesh.Made := .ofDescriptor (show Network.ofDescriptor _ 0 = (.ok _, 1) from rfl)
  have arrived : final.Arrived := Reached.play (.start made) fun _ _ => trivial
  have generated : final.stage.hasConstraints = true := by decide +kernel
  exact ⟨arrived, generated,
    (census_of_arrived (.inl arrived) generated).1 (by decide +kernel), by decide +kernel⟩

end Network

end Dispatch
