import Dispatch.Proofs.Change.Laws
import Dispatch.Proofs.Except
import Dispatch.Schedule.File

namespace Dispatch.Schedule

/-! How a schedule on file is put together: by the changes that a program has too, and by
data that no member is about. -/

variable {K : Type}

/-- Networks of a schedule are new and share its descriptor. -/
theorem networksFor_new [Scalar K] {descriptor : Descriptor K} {notifier : NotifierKey}
    {count : Nat} {networks : List (Network K)} {before after : Nat}
    (created : networksFor descriptor notifier count before = (.ok networks, after)) :
    networks.length = count ∧ ∀ network ∈ networks, ∃ id,
      network = { (Network.bus id).attach (.shared descriptor) with notifier } := by
  induction count generalizing networks before after with
  | zero =>
      cases Creation.pure_eq_ok created
      exact ⟨rfl, fun network member => by cases member⟩
  | succ count induction =>
      obtain ⟨network, _, first, created⟩ := Creation.bind_eq_ok created
      obtain ⟨rest, _, others, created⟩ := Creation.bind_eq_ok created
      cases Creation.pure_eq_ok created
      obtain ⟨length, new⟩ := induction others
      refine ⟨by simp [length], fun member listed => ?_⟩
      cases List.mem_cons.mp listed with
      | inr later => exact new member later
      | inl same =>
          subst same
          obtain ⟨fresh, _, opened, first⟩ := Creation.bind_eq_ok first
          obtain ⟨id, _, _, opened⟩ := Creation.bind_eq_ok opened
          cases Creation.pure_eq_ok opened
          cases Creation.pure_eq_ok first
          exact ⟨id, rfl⟩

/-- Only an open schedule is updated. -/
theorem whileOpen_preserves {Invariant : Schedule K → Prop} {schedule : Schedule K}
    (holds : Invariant schedule) {part : String} {update : Schedule K → Schedule K}
    (updates : schedule.checkOpen part = .ok () → Invariant (update schedule)) :
    Invariant (whileOpen part update schedule).state := by
  unfold whileOpen
  rw [Change.current_bind]
  cases opened : schedule.checkOpen part with
  | error error => exact holds
  | ok answer => exact updates opened

/-- A plant joins an open schedule of its horizon, and nothing else moves. -/
theorem addPlant_state (plant : Plant K) (schedule : Schedule K) :
    (addPlant plant schedule).state = schedule ∨
      schedule.checkOpen "the units" = .ok () ∧ plant.horizon = schedule.horizon ∧
        (addPlant plant schedule).state =
          { schedule with
            plants := schedule.plants ++ [{ plant with notifier := schedule.notifier }] } := by
  unfold addPlant
  rw [Change.current_bind]
  cases opened : schedule.checkOpen "the units" with
  | error error => exact .inl rfl
  | ok answer =>
      rw [Change.require_ok_bind, checkSize]
      split
      · rename_i fits
        rw [Change.require_ok_bind, Change.write_bind]
        exact .inr ⟨rfl, fits, rfl⟩
      · exact .inl rfl

theorem addPlant_preserves {Invariant : Schedule K → Prop} {schedule : Schedule K}
    (holds : Invariant schedule) {plant : Plant K}
    (joins : schedule.checkOpen "the units" = .ok () → plant.horizon = schedule.horizon →
      Invariant { schedule with
        plants := schedule.plants ++ [{ plant with notifier := schedule.notifier }] }) :
    Invariant (addPlant plant schedule).state := by
  rcases addPlant_state plant schedule with still | ⟨opened, fits, moved⟩
  · rw [still]
    exact holds
  · rw [moved]
    exact joins opened fits

/-- An open schedule takes on the topology and new networks, one per instant or none. -/
theorem setNetwork_eq_ok [Scalar K] {schedule result : Schedule K} {descriptor : Descriptor K}
    {generatorNode : List Nat} {before after : Nat}
    (created : schedule.setNetwork descriptor generatorNode before = (.ok result, after)) :
    schedule.checkOpen "the network" = .ok () ∧ ∃ networks,
      result = { schedule with
        classname := descriptor.topology.classname
        nodes := descriptor.topology.nodes
        generatorNode, networks
        demand := [] } ∧
      (1 < descriptor.topology.nodes ∧ networksFor descriptor schedule.notifier
          schedule.horizon before = (.ok networks, after) ∨
        ¬1 < descriptor.topology.nodes ∧ networks = [] ∧ after = before) := by
  obtain ⟨_, _, opened, created⟩ := Creation.bind_eq_ok created
  obtain ⟨isOpen, rfl⟩ := Creation.require_eq_ok opened
  refine ⟨isOpen, ?_⟩
  dsimp only at created
  split at created
  · rename_i several
    obtain ⟨networks, _, attached, created⟩ := Creation.bind_eq_ok created
    cases created
    exact ⟨networks, rfl, .inl ⟨several, attached⟩⟩
  · rename_i single
    cases created
    exact ⟨[], rfl, .inr ⟨single, rfl, rfl⟩⟩

theorem changed_eq_ok {α : Type} {schedule result : Schedule Float}
    {change : Change (Schedule Float) α} {before after : Nat}
    (created : schedule.changed change before = (.ok result, after)) :
    result = (change schedule).state := by
  obtain ⟨accepted, -⟩ := Creation.require_eq_ok created
  obtain ⟨answer, -, same⟩ := Except.map_eq_ok.mp accepted
  exact same.symm

end Dispatch.Schedule
