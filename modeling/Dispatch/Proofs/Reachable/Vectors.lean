import Dispatch.Proofs.Attempt.NetworkRows
import Dispatch.Proofs.Network.Reloading

namespace Dispatch.Network

/-! The sizes of what a network keeps per entry and per line, in any state that a program can
arrive at. Demand and kappa always have theirs. Injection bounds have theirs too, except those of
a network that was read from a group with several intervals and nothing that says anything of its
nodes: its bounds stay those of one interval until something replaces them. -/

variable {network : Network Float}

/-- The bounds of one interval, on a lone node without descriptor. -/
structure Unwidened (network : Network Float) : Prop where
  detached : network.descriptor = none
  lone : network.looseNodes = 1
  minimum : network.minInjection.length = 1
  maximum : network.maxInjection.length = 1

def Edged (network : Network Float) : Prop :=
  network.Fenced ∨ network.Unwidened

theorem Unwidened.extent (unwidened : network.Unwidened) : network.extent = network.intervals := by
  rw [Network.extent, nodes, topology?, unwidened.detached, Option.map_none]
  dsimp only
  rw [unwidened.lone, Nat.mul_one]

theorem Unwidened.fenced_iff (unwidened : network.Unwidened) :
    network.Fenced ↔ network.intervals = 1 := by
  constructor
  · intro fenced
    rw [← unwidened.extent, ← fenced.minimum, unwidened.minimum]
  · intro single
    rw [← unwidened.extent] at single
    exact ⟨unwidened.minimum.trans single.symm, unwidened.maximum.trans single.symm⟩

theorem Edged.congr {other : Network Float} (edged : network.Edged)
    (same : network.SameSetup other) (minimum : other.minInjection = network.minInjection)
    (maximum : other.maxInjection = network.maxInjection) : other.Edged := by
  refine edged.imp (fun fenced => ?_) fun unwidened => ?_
  · exact ⟨by rw [minimum, same.extent, fenced.minimum],
      by rw [maximum, same.extent, fenced.maximum]⟩
  · exact ⟨same.descriptor.trans unwidened.detached, same.looseNodes.trans unwidened.lone,
      minimum ▸ unwidened.minimum, maximum ▸ unwidened.maximum⟩

theorem edged_bus (block : BlockId) : (bus block : Network Float).Edged :=
  .inl ⟨rfl, rfl⟩

theorem fenced_attach (network : Network Float) (descriptor : Holding (Descriptor Float)) :
    (network.attach descriptor).Fenced :=
  fenced_withFreeInjections _

theorem Edged.setDescriptor (edged : network.Edged) (descriptor : Holding (Descriptor Float)) :
    (Network.setDescriptor descriptor network).state.Edged := by
  rcases setDescriptor_cases descriptor network with still | ⟨-, attached⟩
  · rwa [still]
  · rw [attached]
    exact .inl (fenced_attach network descriptor)

theorem Edged.setIntervals (edged : network.Edged) (intervals : Nat) :
    (Network.setIntervals intervals network).state.Edged := by
  rcases setIntervals_cases intervals network with still | ⟨-, -, reset⟩
  · rwa [still]
  · rw [reset]
    exact .inl (fenced_withFreeInjections _)

theorem Edged.editDescriptor (edged : network.Edged) (edit : DcData.Edit Float) :
    (Network.editDescriptor edit network).state.Edged := by
  rcases editDescriptor_cases edit network with still | ⟨-, data, result, held, edited, state⟩
  · rwa [still]
  · rw [state]
    rcases edged with fenced | unwidened
    · have extent : ({ network with descriptor := some (.owned (.dc result)) } :
          Network Float).extent = network.extent :=
        congrArg (network.intervals * ·) (sizes_of_edited held edited).1
      exact .inl ⟨fenced.minimum.trans extent.symm, fenced.maximum.trans extent.symm⟩
    · have attached := topology_of_editable held
      rw [topology?, unwidened.detached] at attached
      cases attached

theorem isSome_of_descriptorOfGroup {group : Group} {descriptor : Option (Descriptor Float)}
    (read : descriptorOfGroup group = .ok descriptor) :
    descriptor.isSome = group.hasDim "NumberNodes" := by
  unfold descriptorOfGroup at read
  cases counted : group.hasDim "NumberNodes" with
  | true =>
      rw [if_pos counted] at read
      obtain ⟨data, -, rfl⟩ := Except.map_eq_ok.mp read
      rfl
  | false =>
      rw [if_neg (by rw [counted]; exact Bool.false_ne_true)] at read
      cases read
      rfl

theorem fenced_located (block : BlockId) (group : Group) {descriptor : Option (Descriptor Float)}
    {given : Option (List Float)} (placed : descriptor.isSome ∨ given.isSome) :
    ((bus block).located group descriptor given).Fenced := by
  cases descriptor with
  | some descriptor => exact fenced_attach _ _
  | none =>
      cases given with
      | some values => exact fenced_withFreeInjections _
      | none => simp at placed

theorem unwidened_located (block : BlockId) (group : Group) :
    ((bus block).located group none none).Unwidened := ⟨rfl, rfl, rfl, rfl⟩

/-- A group that says anything of its nodes gives bounds of their size. -/
theorem ofGroup_cases {group : Group} {before after : Nat}
    (created : Network.ofGroup group before = (.ok network, after)) :
    (group.hasDim "NumberNodes" = true ∨ (group.field? "ActiveDemand").isSome) ∧
        network.Fenced ∨
      (group.hasDim "NumberNodes" = false ∧ group.field? "ActiveDemand" = none) ∧
        network.Unwidened := by
  obtain ⟨-, given, hasDemand, descriptor, read, -, -, -, -, -, -, -, -, rfl⟩ :=
    filled_eq_ok.mp (ofGroup_eq_ok.mp created).1
  rw [← isSome_of_descriptorOfGroup read]
  by_cases placed : descriptor.isSome ∨ given.isSome
  · have fenced := fenced_located ⟨before⟩ group placed
    refine .inl ⟨placed.imp_right fun present => ?_, fenced.minimum, fenced.maximum⟩
    obtain ⟨values, rfl⟩ := Option.isSome_iff_exists.mp present
    exact Group.isSome_field?_of_doubles? hasDemand
  · rw [not_or, Option.not_isSome_iff_eq_none, Option.not_isSome_iff_eq_none] at placed
    obtain ⟨rfl, rfl⟩ := placed
    have unwidened := unwidened_located ⟨before⟩ group
    exact .inr ⟨⟨rfl, Group.doubles?_eq_none.mp hasDemand⟩, unwidened.detached, unwidened.lone,
      unwidened.minimum, unwidened.maximum⟩

theorem edged_ofGroup {group : Group} {before after : Nat}
    (created : Network.ofGroup group before = (.ok network, after)) : network.Edged :=
  (ofGroup_cases created).imp And.right And.right

/-- Exactly when the bounds of what is read have their size. -/
theorem fenced_ofGroup_iff {group : Group} {before after : Nat}
    (created : Network.ofGroup group before = (.ok network, after)) :
    network.Fenced ↔ network.intervals = 1 ∨ group.hasDim "NumberNodes" = true ∨
      (group.field? "ActiveDemand").isSome := by
  rcases ofGroup_cases created with ⟨placed, fenced⟩ | ⟨⟨unplaced, unset⟩, unwidened⟩
  · exact iff_of_true fenced (.inr placed)
  · rw [unwidened.fenced_iff, unplaced, unset]
    simp

/-- Bounds are accepted in their size or not at all. -/
theorem setInjectionBounds_cases (minimum maximum : List Float) (physical abstract : Mode)
    (network : Network Float) :
    (Network.setInjectionBounds minimum maximum physical abstract network).state = network ∨
      (Network.setInjectionBounds minimum maximum physical abstract network).state.Fenced := by
  have extent := (SameFrame.withInjectionBounds network minimum maximum abstract).extent
  have rest := withInjectionBounds_rest network minimum maximum abstract
  rw [setInjectionBounds_apply]
  split
  · exact .inl rfl
  · rename_i minimumFits
    split
    · exact .inl rfl
    · rename_i maximumFits
      split
      · exact .inl rfl
      · split
        · exact .inl rfl
        · rw [not_not] at minimumFits maximumFits
          refine .inr ⟨?_, ?_⟩
          · rw [extent, rest, ← minimumFits]
          · rw [extent, rest, ← maximumFits]

theorem Edged.call (edged : network.Edged) (call : Call Float) :
    (call.perform network).Edged := by
  have same := sameSetup_perform call network
  cases call with
  | generateVariables =>
      exact step_preserves edged fun _ _ advanced => by
        cases advanced
        exact edged.congr ⟨rfl, rfl, rfl, rfl⟩ rfl rfl
  | generateConstraints =>
      exact step_preserves edged fun _ _ advanced => by
        rw [withConstraints_ok advanced]
        exact edged.congr ⟨rfl, rfl, rfl, rfl⟩ rfl rfl
  | generateObjective =>
      exact step_preserves edged fun _ _ advanced => by
        cases advanced
        exact edged.congr ⟨rfl, rfl, rfl, rfl⟩ rfl rfl
  | setKappa address values physical abstract =>
      have rest := (kappaPatched_setKappa address values physical abstract network).1.rest
      exact edged.congr same (congrArg Network.minInjection rest :)
        (congrArg Network.maxInjection rest :)
  | setDemand address values physical abstract =>
      have rest := (demandPatched_setDemand address values physical abstract network).1.rest
      exact edged.congr same (congrArg Network.minInjection rest :)
        (congrArg Network.maxInjection rest :)
  | setInjectionBounds minimum maximum physical abstract =>
      rcases setInjectionBounds_cases minimum maximum physical abstract network with still | fenced
      · rw [Call.perform, still]
        exact edged
      · exact .inl fenced
  | setConstantTerm constant => exact edged.congr same rfl rfl

theorem Made.edged (made : network.Made) : network.Edged := by
  cases made with
  | new created =>
      cases created
      exact edged_bus _
  | ofDescriptor created =>
      cases created
      exact .inl (fenced_attach _ _)
  | ofGroup created => exact edged_ofGroup created

theorem Edged.perform (edged : network.Edged) {operation : Operation Float}
    (keeps : operation.KeepsSizes) : (operation.perform network).Edged := by
  cases operation with
  | setDescriptor descriptor => exact edged.setDescriptor descriptor
  | editDescriptor edit => exact edged.editDescriptor edit
  | overwriteDescriptor descriptor => exact keeps.elim
  | setIntervals intervals => exact edged.setIntervals intervals
  | withSettings settings => exact edged.congr ⟨rfl, rfl, rfl, rfl⟩ rfl rfl
  | withNotifier notifier => exact edged.congr ⟨rfl, rfl, rfl, rfl⟩ rfl rfl
  | editStore edit => exact edged.congr ⟨rfl, rfl, rfl, rfl⟩ rfl rfl
  | call step => exact edged.call step

theorem Reachable.edged (reachable : network.Reachable) : network.Edged := by
  induction reachable with
  | start made => exact made.edged
  | step _ operation keeps edged => exact edged.perform keeps

/-- What a network keeps has its size. -/
structure Measured (network : Network Float) : Prop where
  demand : network.demand = [] ∨ network.demand.length = network.extent
  kappa : network.kappa = [] ∨ network.kappa.length = network.lines
  bounds : network.Fenced ∨
    network.Unwidened ∧ 1 < network.intervals ∧ network.extent = network.intervals

/-- Only a lone node without descriptor can have bounds of another size, over several
intervals. -/
theorem Reachable.measured (reachable : network.Reachable) : network.Measured := by
  have shaped := reachable.sound.shaped
  refine ⟨shaped.demand, shaped.kappa, ?_⟩
  rcases reachable.edged with fenced | unwidened
  · exact .inl fenced
  · by_cases single : network.intervals = 1
    · exact .inl (unwidened.fenced_iff.mpr single)
    · have timed := (counted_of_reachable reachable).timed
      exact .inr ⟨unwidened, by omega, unwidened.extent⟩

theorem Reachable.fenced (reachable : network.Reachable)
    (placed : network.descriptor ≠ none ∨ 1 < network.looseNodes ∨ network.intervals = 1) :
    network.Fenced := by
  rcases reachable.measured.bounds with fenced | ⟨unwidened, several, -⟩
  · exact fenced
  · rcases placed with attached | nodes | single
    · exact absurd unwidened.detached attached
    · rw [unwidened.lone] at nodes
      exact absurd nodes (lt_irrefl 1)
    · omega

/-- Two intervals, and nothing on nodes. -/
def hourlyGroup : Group where
  dims := [("NumberIntervals", 2)]
  fields := []
  groups := []

/-- One pair of bounds for two intervals. -/
theorem unfenced_ofGroup_hourly : ∃ network, Network.ofGroup hourlyGroup 0 = (.ok network, 1) ∧
    network.Reachable ∧ network.extent = 2 ∧ network.minInjection.length = 1 ∧
    network.maxInjection.length = 1 := by
  obtain ⟨network, read⟩ : ∃ network, Network.ofGroup hourlyGroup 0 = (.ok network, 1) := ⟨_, rfl⟩
  refine ⟨network, read, .start (.ofGroup read), ?_⟩
  cases read
  exact ⟨rfl, rfl, rfl⟩

end Dispatch.Network
