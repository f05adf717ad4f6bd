import Dispatch.Proofs.Network.Census
import Dispatch.Proofs.Reachable.Accounted

namespace Dispatch.Network

/-! The lines of a network are classified when its constraints are generated, and its auxiliary
variables are allocated before that. Nothing that either depends on can change once there are
variables, so after every run of operations the families are those that the descriptor of that
state calls for. -/

variable {K : Type} [Scalar K] {network : Network K}

/-- The auxiliary variables are allocated before the lines are classified, so the invariant
has to carry what they were allocated for. -/
structure Classified (network : Network K) : Prop where
  intervals : 0 < network.intervals
  bare : network.stage.hasConstraints = false → network.rows.census = .none
  auxiliary : network.stage.hasVariables = true → ∀ topology,
    network.topology? = some topology → 1 < topology.nodes → 0 < topology.lines →
      network.auxiliary.isEmpty = !topology.hasCost
  several : network.stage.hasConstraints = true → 1 < network.nodes → ∃ topology,
    network.topology? = some topology ∧ 0 < topology.lines ∧
      network.rows.census = topology.census network.intervals
  single : network.stage.hasConstraints = true → network.nodes ≤ 1 →
    network.rows.census = .none

/-- What the families of a network depend on is as it was, and so are their sizes. -/
structure Frozen (before after : Network K) : Prop where
  stage : after.stage = before.stage
  intervals : after.intervals = before.intervals
  topology : after.topology? = before.topology?
  nodes : after.nodes = before.nodes
  auxiliary : after.auxiliary = before.auxiliary
  census : after.rows.census = before.rows.census

theorem Classified.congr {before after : Network K} (classified : before.Classified)
    (frozen : Frozen before after) : after.Classified where
  intervals := by
    rw [frozen.intervals]
    exact classified.intervals
  bare := by
    rw [frozen.stage, frozen.census]
    exact classified.bare
  auxiliary := by
    rw [frozen.stage, frozen.topology, frozen.auxiliary]
    exact classified.auxiliary
  several := by
    rw [frozen.stage, frozen.nodes, frozen.topology, frozen.intervals, frozen.census]
    exact classified.several
  single := by
    rw [frozen.stage, frozen.nodes, frozen.census]
    exact classified.single

omit [Scalar K] in
theorem Frozen.refl (network : Network K) : Frozen network network :=
  ⟨rfl, rfl, rfl, rfl, rfl, rfl⟩

/-- Before there are variables, a network may become anything that has intervals. -/
theorem Classified.reset {before after : Network K} (classified : before.Classified)
    (bare : before.stage.hasVariables = false) (stage : after.stage = before.stage)
    (rows : after.rows = before.rows) (intervals : 0 < after.intervals) :
    after.Classified := by
  have early := Stage.hasConstraints_of_bare bare
  refine ⟨intervals, fun _ => ?_, fun generated => ?_, fun late => ?_, fun late => ?_⟩
  · rw [rows]
    exact classified.bare early
  · rw [stage, bare] at generated
    cases generated
  · rw [stage, early] at late
    cases late
  · rw [stage, early] at late
    cases late

theorem classified_bus (id : BlockId) : (bus id : Network K).Classified where
  intervals := Nat.zero_lt_one
  bare _ := rfl
  auxiliary generated := by cases generated
  several late := by cases late
  single late := by cases late

theorem Classified.attach (classified : network.Classified)
    (bare : network.stage.hasVariables = false) (descriptor : Holding (Descriptor K)) :
    (network.attach descriptor).Classified :=
  classified.reset bare rfl rfl classified.intervals

theorem Classified.setDescriptor (classified : network.Classified)
    (descriptor : Holding (Descriptor K)) :
    (Network.setDescriptor descriptor network).state.Classified := by
  rcases setDescriptor_cases descriptor network with still | ⟨bare, attached⟩
  · rwa [still]
  · rw [attached]
    exact classified.attach bare descriptor

theorem Classified.editDescriptor (classified : network.Classified) (edit : DcData.Edit K) :
    (Network.editDescriptor edit network).state.Classified := by
  rcases editDescriptor_cases edit network with still | ⟨bare, _, _, -, -, edited⟩
  · rwa [still]
  · rw [edited]
    exact classified.reset bare rfl rfl classified.intervals

theorem Classified.overwriteDescriptor (classified : network.Classified)
    (descriptor : Descriptor K) :
    (Network.overwriteDescriptor descriptor network).state.Classified := by
  rcases overwriteDescriptor_cases descriptor network with still | ⟨bare, overwritten⟩
  · rwa [still]
  · rw [overwritten]
    exact classified.reset bare rfl rfl classified.intervals

theorem Classified.setIntervals (classified : network.Classified) (intervals : Nat) :
    (Network.setIntervals intervals network).state.Classified := by
  rcases setIntervals_cases intervals network with still | ⟨bare, some, reset⟩
  · rwa [still]
  · rw [reset]
    exact classified.reset bare rfl rfl (Nat.pos_of_ne_zero some)

theorem classified_filled {start result : Network Float} {group : Group}
    (classified : start.Classified) (bare : start.stage.hasVariables = false)
    (filled : start.filled group = .ok result) : result.Classified := by
  unfold Network.filled at filled
  dsimp only at filled
  split at filled
  · cases filled
  · rename_i some
    obtain ⟨given, -, filled⟩ := Except.bind_eq_ok.mp filled
    obtain ⟨descriptor, -, filled⟩ := Except.bind_eq_ok.mp filled
    obtain ⟨demand, -, filled⟩ := Except.bind_eq_ok.mp filled
    obtain ⟨levels, -, filled⟩ := Except.bind_eq_ok.mp filled
    obtain ⟨kappa, -, filled⟩ := Except.bind_eq_ok.mp filled
    obtain ⟨constantTerm, -, filled⟩ := Except.bind_eq_ok.mp filled
    cases filled
    have positive := Nat.pos_of_ne_zero some
    cases descriptor with
    | none => cases given <;> exact classified.reset bare rfl rfl positive
    | some descriptor => exact classified.reset bare rfl rfl positive

omit [Scalar K] in
theorem isEmpty_of_pos {rows cols first : Nat} (rows_pos : 0 < rows) (cols_pos : 0 < cols) :
    (⟨first, rows, cols⟩ : Grid).isEmpty = false :=
  beq_eq_false_iff_ne.mpr (Nat.ne_of_gt (Nat.mul_pos rows_pos cols_pos))

theorem Classified.withVariables (classified : network.Classified)
    (entered : network.stage.enter .vars = .ok .run) : network.withVariables.Classified where
  intervals := classified.intervals
  bare _ := classified.bare (by rw [Stage.enter_vars entered]; rfl)
  auxiliary _ topology attached several lines := by
    have attached : network.topology? = some topology := attached
    have nodes : 1 < network.nodes := by rwa [nodes_of_topology attached]
    have count : 0 < network.lines := by rwa [lines_of_topology attached]
    have cost : network.hasCost = topology.hasCost := by
      unfold Network.hasCost
      rw [attached]
    unfold Network.withVariables
    simp only [nodes, count, decide_true, Bool.true_and, cost]
    cases topology.hasCost with
    | false => rfl
    | true => exact isEmpty_of_pos classified.intervals count
  several late := by cases late
  single late := by cases late

theorem Classified.withConstraints {result : Network K} (classified : network.Classified)
    (entered : network.stage.enter .constraints = .ok .run)
    (generated : network.withConstraints = .ok result) : result.Classified := by
  have start := Stage.enter_constraints entered
  have variables? : network.stage.hasVariables = true := by
    rw [start]
    rfl
  have none := classified.bare (by rw [start]; rfl)
  rcases withConstraints_cases generated with
    ⟨single, rfl⟩ | ⟨topology, several, checked, attached, rfl⟩
  · exact ⟨classified.intervals, fun _ => none, fun _ => classified.auxiliary variables?,
      fun _ more => absurd more single, fun _ _ => none⟩
  · have lines : 0 < topology.lines := by
      unfold checkTopology at checked
      rw [attached] at checked
      dsimp only at checked
      split at checked
      · cases checked
      · exact Nat.pos_of_ne_zero ‹_›
    have nodes : 1 < topology.nodes := by rwa [← nodes_of_topology attached]
    have auxiliary := classified.auxiliary variables? topology attached nodes lines
    refine ⟨classified.intervals, fun early => ?_, fun _ => classified.auxiliary variables?,
      fun _ _ => ⟨topology, attached, lines, network.census_rowsOf lines auxiliary⟩,
      fun _ one => ?_⟩
    · cases early
    · exact absurd several (Nat.not_lt.mpr one)

theorem Classified.withObjective (classified : network.Classified)
    (entered : network.stage.enter .objective = .ok .run) :
    network.withObjective.Classified := by
  have start := Stage.enter_objective entered
  have late : network.stage.hasConstraints = true := by
    rw [start]
    rfl
  refine ⟨classified.intervals, fun early => ?_, fun _ =>
    classified.auxiliary (Stage.hasVariables_of_late late), fun _ => classified.several late,
    fun _ => classified.single late⟩
  cases early

theorem Classified.step (classified : network.Classified) {target : Stage}
    {advance : Network K → Except Error (Network K)}
    (advances : network.stage.enter target = .ok .run → ∀ result,
      advance network = .ok result → result.Classified) :
    (Network.step target advance network).state.Classified :=
  step_preserves classified advances

theorem Classified.generateVariables (classified : network.Classified) :
    (Network.generateVariables network).state.Classified :=
  classified.step fun entered result advanced => by
    cases advanced
    exact classified.withVariables entered

theorem Classified.generateConstraints (classified : network.Classified) :
    (Network.generateConstraints network).state.Classified :=
  classified.step fun entered _ advanced => classified.withConstraints entered advanced

theorem Classified.generateObjective (classified : network.Classified) :
    (Network.generateObjective network).state.Classified :=
  classified.step fun entered result advanced => by
    cases advanced
    exact classified.withObjective entered

theorem frozen_setKappa (address : Address) (values : List K) (physical abstract : Mode)
    (network : Network K) :
    Frozen network (Network.setKappa address values physical abstract network).state := by
  cases setKappa_state address values physical abstract network with
  | inl still =>
      rw [still]
      exact Frozen.refl network
  | inr moved =>
      obtain ⟨selection, moved⟩ := moved
      have census : (network.withKappa selection values abstract).rows.census =
          network.rows.census := by
        unfold Network.withKappa
        dsimp only
        split
        · exact census_patchFlowLimits _ _
        · rfl
      rw [moved]
      rw [withKappa_rest] at census ⊢
      exact ⟨rfl, rfl, rfl, rfl, rfl, census⟩

theorem frozen_setDemand (address : Address) (values : List K) (physical abstract : Mode)
    (network : Network K) :
    Frozen network (Network.setDemand address values physical abstract network).state := by
  cases setDemand_state address values physical abstract network with
  | inl still =>
      rw [still]
      exact Frozen.refl network
  | inr moved =>
      obtain ⟨selection, moved⟩ := moved
      have census : (network.withDemand selection values abstract).rows.census =
          network.rows.census := by
        unfold Network.withDemand
        dsimp only
        split
        · exact census_patchDemand _ _
        · rfl
      rw [moved]
      rw [withDemand_rest] at census ⊢
      exact ⟨rfl, rfl, rfl, rfl, rfl, census⟩

theorem frozen_setInjectionBounds (minimum maximum : List K) (physical abstract : Mode)
    (network : Network K) :
    Frozen network
      (Network.setInjectionBounds minimum maximum physical abstract network).state := by
  cases setInjectionBounds_state minimum maximum physical abstract network with
  | inl still =>
      rw [still]
      exact Frozen.refl network
  | inr moved =>
      have census : (network.withInjectionBounds minimum maximum abstract).rows.census =
          network.rows.census := by
        unfold Network.withInjectionBounds
        dsimp only
        split
        · exact census_patchInjectionBounds _ _ _
        · rfl
      rw [moved]
      rw [withInjectionBounds_rest] at census ⊢
      exact ⟨rfl, rfl, rfl, rfl, rfl, census⟩

theorem Classified.call (classified : network.Classified) (call : Call K) :
    (call.perform network).Classified := by
  cases call with
  | generateVariables => exact classified.generateVariables
  | generateConstraints => exact classified.generateConstraints
  | generateObjective => exact classified.generateObjective
  | setKappa address values physical abstract =>
      exact classified.congr (frozen_setKappa address values physical abstract network)
  | setDemand address values physical abstract =>
      exact classified.congr (frozen_setDemand address values physical abstract network)
  | setInjectionBounds minimum maximum physical abstract =>
      exact classified.congr (frozen_setInjectionBounds minimum maximum physical abstract network)
  | setConstantTerm constant => exact classified.congr ⟨rfl, rfl, rfl, rfl, rfl, rfl⟩

theorem Classified.perform (classified : network.Classified) (operation : Operation K) :
    (operation.perform network).Classified := by
  cases operation with
  | setDescriptor descriptor => exact classified.setDescriptor descriptor
  | editDescriptor edit => exact classified.editDescriptor edit
  | overwriteDescriptor descriptor => exact classified.overwriteDescriptor descriptor
  | setIntervals intervals => exact classified.setIntervals intervals
  | withSettings settings => exact classified.congr ⟨rfl, rfl, rfl, rfl, rfl, rfl⟩
  | withNotifier notifier => exact classified.congr ⟨rfl, rfl, rfl, rfl, rfl, rfl⟩
  | editStore edit => exact classified.congr ⟨rfl, rfl, rfl, rfl, rfl, rfl⟩
  | call step => exact classified.call step

theorem Made.classified {network : Network Float} (made : network.Made) :
    network.Classified := by
  cases made with
  | new created =>
      cases created
      exact classified_bus _
  | ofDescriptor created =>
      cases created
      exact (classified_bus _).attach rfl _
  | ofGroup created =>
      obtain ⟨start, _, fresh, created⟩ := Creation.bind_eq_ok created
      obtain ⟨id, _, _, fresh⟩ := Creation.bind_eq_ok fresh
      cases Creation.pure_eq_ok fresh
      exact classified_filled (classified_bus id) rfl (Creation.require_eq_ok created).1

/-- Whatever operations have led to, that of an overwritten descriptor included. -/
def Arrived : Network Float → Prop :=
  Reached Made Operation.perform fun _ => True

theorem Arrived.classified {network : Network Float} (arrived : network.Arrived) :
    network.Classified := by
  induction arrived with
  | start made => exact made.classified
  | step _ operation _ classified => exact classified.perform operation

def run (network : Network K) (operations : List (Operation K)) : Network K :=
  operations.foldl Operation.perform network

end Dispatch.Network
