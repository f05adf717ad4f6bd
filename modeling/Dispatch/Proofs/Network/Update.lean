import Dispatch.Proofs.Change.Selection
import Dispatch.Proofs.Network.Rows

namespace Dispatch.Network

/-! What an update does, written down once, and that it keeps a network in step when its
abstract mode writes. -/

variable {K : Type} [Scalar K]

def withKappa (network : Network K) (selection : Selection) (values : List K)
    (abstract : Mode) : Network K :=
  let written := network.reloaded network.demand
    (selection.write network.kappa network.lines 1 values)
  if abstract.writes && network.stage.hasConstraints then
    written.patchFlowLimits selection.indices
  else written

theorem updateKappa_apply (selection : Selection) (values : List K)
    (physical abstract : Mode) (network : Network K) :
    updateKappa selection values physical abstract network =
      if !selection.differs network.kappa 1 values then ⟨network, [], .ok .unchanged⟩
      else if !physical.writes then ⟨network, [], .ok .dryRun⟩
      else ⟨network.withKappa selection values abstract,
        physical.notices network.notifier (selection.record network.id .kappa),
        .ok .applied⟩ := by
  unfold updateKappa withKappa
  simp only [Change.current_bind]
  split
  · rfl
  · split
    · rfl
    · simp only [Change.write_bind]
      split <;> simp [reloaded]

theorem setKappa_apply (address : Address) (values : List K) (physical abstract : Mode)
    (network : Network K) :
    setKappa address values physical abstract network =
      match address.select network.lines values.length "line" with
      | .error error => ⟨network, [], .error error⟩
      | .ok none => ⟨network, [], .ok .unchanged⟩
      | .ok (some selection) => updateKappa selection values physical abstract network := by
  unfold setKappa
  rw [Change.current_bind]
  cases address.select network.lines values.length "line" with
  | error error => rfl
  | ok selected => cases selected <;> rfl

def withDemand (network : Network K) (selection : Selection) (values : List K)
    (abstract : Mode) : Network K :=
  let written := network.reloaded
    (selection.write network.demand network.extent 0 values) network.kappa
  if abstract.writes && network.stage.hasConstraints then
    written.patchDemand selection.indices
  else written

theorem updateDemand_apply (selection : Selection) (values : List K)
    (physical abstract : Mode) (network : Network K) :
    updateDemand selection values physical abstract network =
      if !selection.differs network.demand 0 values then ⟨network, [], .ok .unchanged⟩
      else if !physical.writes then ⟨network, [], .ok .dryRun⟩
      else ⟨network.withDemand selection values abstract,
        physical.notices network.notifier (selection.record network.id .activeDemand),
        .ok .applied⟩ := by
  unfold updateDemand withDemand
  simp only [Change.current_bind]
  split
  · rfl
  · split
    · rfl
    · simp only [Change.write_bind]
      split <;> simp [reloaded]

theorem setDemand_apply (address : Address) (values : List K) (physical abstract : Mode)
    (network : Network K) :
    setDemand address values physical abstract network =
      match address.select network.extent values.length "demand" with
      | .error error => ⟨network, [], .error error⟩
      | .ok none => ⟨network, [], .ok .unchanged⟩
      | .ok (some selection) => updateDemand selection values physical abstract network := by
  unfold setDemand
  rw [Change.current_bind]
  cases address.select network.extent values.length "demand" with
  | error error => rfl
  | ok selected => cases selected <;> rfl

theorem setKappa_state (address : Address) (values : List K) (physical abstract : Mode)
    (network : Network K) :
    (setKappa address values physical abstract network).state = network ∨
      ∃ selection, (setKappa address values physical abstract network).state =
        network.withKappa selection values abstract := by
  rw [setKappa_apply]
  split
  · exact .inl rfl
  · exact .inl rfl
  · rw [updateKappa_apply]
    split
    · exact .inl rfl
    · split
      · exact .inl rfl
      · exact .inr ⟨_, rfl⟩

theorem setDemand_state (address : Address) (values : List K) (physical abstract : Mode)
    (network : Network K) :
    (setDemand address values physical abstract network).state = network ∨
      ∃ selection, (setDemand address values physical abstract network).state =
        network.withDemand selection values abstract := by
  rw [setDemand_apply]
  split
  · exact .inl rfl
  · exact .inl rfl
  · rw [updateDemand_apply]
    split
    · exact .inl rfl
    · split
      · exact .inl rfl
      · exact .inr ⟨_, rfl⟩

def rebounded (network : Network K) (minInjection maxInjection : List K) : Network K :=
  { network with minInjection, maxInjection }

def withInjectionBounds (network : Network K) (minimum maximum : List K)
    (abstract : Mode) : Network K :=
  let written := network.rebounded minimum maximum
  if abstract.writes then written.patchInjectionBounds minimum maximum else written

theorem setInjectionBounds_apply (minimum maximum : List K) (physical abstract : Mode)
    (network : Network K) :
    setInjectionBounds minimum maximum physical abstract network =
      if minimum.length ≠ network.extent then
        ⟨network, [], .error (.shape "MinNodeInjection" network.extent minimum.length)⟩
      else if maximum.length ≠ network.extent then
        ⟨network, [], .error (.shape "MaxNodeInjection" network.extent maximum.length)⟩
      else if Scalar.same minimum network.minInjection &&
          Scalar.same maximum network.maxInjection then
        ⟨network, [], .ok .unchanged⟩
      else if !physical.writes then ⟨network, [], .ok .dryRun⟩
      else ⟨network.withInjectionBounds minimum maximum abstract,
        physical.notices network.notifier
          ⟨network.id, .nodeInjectionBounds, .range 0 network.extent⟩,
        .ok .applied⟩ := by
  unfold setInjectionBounds withInjectionBounds Topology.checkLength
  simp only [Change.current_bind]
  by_cases minimumFits : minimum.length = network.extent
  · by_cases maximumFits : maximum.length = network.extent
    · simp only [minimumFits, maximumFits, if_true, Change.require_ok_bind]
      simp only [ne_eq, not_true, if_false]
      split
      · rfl
      · split
        · rfl
        · simp only [Change.write_bind]
          split <;> simp [rebounded]
    · simp [minimumFits, maximumFits]
  · simp [minimumFits]

theorem setInjectionBounds_state (minimum maximum : List K) (physical abstract : Mode)
    (network : Network K) :
    (setInjectionBounds minimum maximum physical abstract network).state = network ∨
      (setInjectionBounds minimum maximum physical abstract network).state =
        network.withInjectionBounds minimum maximum abstract := by
  rw [setInjectionBounds_apply]
  split
  · exact .inl rfl
  · split
    · exact .inl rfl
    · split
      · exact .inl rfl
      · split
        · exact .inl rfl
        · exact .inr rfl

def withConstant (network : Network K) (constant : K) : Network K :=
  { network with
    constantTerm := constant
    objective := network.objective.map fun objective =>
      { objective with function := { objective.function with constant } } }

omit [Scalar K] in
theorem setConstantTerm_apply (constant : K) (network : Network K) :
    setConstantTerm constant network = ⟨network.withConstant constant, [], .ok ⟨⟩⟩ := rfl

theorem checkTopology_ok {network : Network K} {topology : Topology K}
    (checked : network.checkTopology = .ok topology) :
    network.topology? = some topology := by
  unfold checkTopology at checked
  split at checked
  · cases checked
  · rename_i found attached
    rw [attached]
    dsimp only at checked
    split at checked
    · cases checked
    · obtain ⟨-, -, checked⟩ := Except.bind_eq_ok.mp checked
      split at checked
      · cases checked
      · cases checked
        rfl

theorem checkShape_of_checkTopology {network : Network K} {topology : Topology K}
    (checked : network.checkTopology = .ok topology) :
    topology.lines ≠ 0 ∧ ∃ answer : PUnit.{1}, topology.checkShape = .ok answer := by
  have attached := checkTopology_ok checked
  unfold checkTopology at checked
  rw [attached] at checked
  dsimp only at checked
  split at checked
  · cases checked
  · rename_i lines
    obtain ⟨answer, shape, _⟩ := Except.bind_eq_ok.mp checked
    exact ⟨lines, answer, shape⟩

/-- The constraints of a network of several nodes are its rows. -/
theorem withConstraints_cases {network result : Network K}
    (generated : network.withConstraints = .ok result) :
    (¬1 < network.nodes ∧ result = { network with stage := .constraints }) ∨
      ∃ topology, 1 < network.nodes ∧ network.checkTopology = .ok topology ∧
        network.topology? = some topology ∧
        result = { network with stage := .constraints, rows := network.rowsOf topology } := by
  unfold withConstraints at generated
  split at generated
  · rename_i several
    obtain ⟨topology, checked, equality⟩ := Except.bind_eq_ok.mp generated
    cases equality
    exact .inr ⟨topology, several, checked, checkTopology_ok checked, rfl⟩
  · rename_i single
    cases generated
    exact .inl ⟨single, rfl⟩

/-- The same network over other data. -/
def given (network : Network K) (demand kappa : List K) (constantTerm : K)
    (minInjection maxInjection : List K) : Network K :=
  { network with demand, kappa, constantTerm, minInjection, maxInjection }

omit [Scalar K] in
theorem data_of_stripped {first second : Network K}
    (data : first.stripped = second.stripped) :
    first.demand = second.demand ∧ first.kappa = second.kappa ∧
      first.constantTerm = second.constantTerm ∧
      first.minInjection = second.minInjection ∧ first.maxInjection = second.maxInjection := by
  simp only [stripped, Network.mk.injEq] at data
  obtain ⟨-, -, -, -, -, -, -, demand, kappa, constant, minimum, maximum, -⟩ := data
  exact ⟨demand, kappa, constant, minimum, maximum⟩

/-- A change of the data that is followed through in the rows and in the objective. Rows
are only asked about where there are any. -/
theorem InStep.follow {network : Network K} (inStep : network.InStep)
    (demand kappa : List K) (constantTerm : K) (minInjection maxInjection : List K)
    (follow : Network K → Network K)
    (stage : ∀ n, (follow n).stage = n.stage)
    (data : (follow network).stripped =
      network.stripped.given demand kappa constantTerm minInjection maxInjection)
    (objective : ∀ n, n.stripped = network.stripped →
      (follow n).withObjective = follow n.withObjective)
    (bare : ∀ n, n.stripped = network.stripped → n.rows = NetworkRows.none →
      n.objective = none →
      follow n = n.given demand kappa constantTerm minInjection maxInjection)
    (rows : ∀ n topology, n.stripped = network.stripped → n.topology? = some topology →
      n.rows = n.rowsOf topology → n.objective = none →
      follow n = (n.given demand kappa constantTerm minInjection maxInjection).withRows
        ((n.given demand kappa constantTerm minInjection maxInjection).rowsOf topology)) :
    (follow network).InStep := by
  have constrained {result : Network K}
      (generated : network.stripped.withVariables.withConstraints = .ok result) :
      (network.stripped.given demand kappa constantTerm minInjection
        maxInjection).withVariables.withConstraints = .ok (follow result) := by
    obtain ⟨single, rfl⟩ | ⟨topology, several, checked, attached, rfl⟩ :=
      withConstraints_cases generated
    · have followed := bare { network.stripped.withVariables with stage := .constraints }
        rfl rfl rfl
      exact (if_neg single).trans (congrArg Except.ok followed.symm)
    · have followed := rows
        { network.stripped.withVariables with
          stage := .constraints
          rows := network.stripped.withVariables.rowsOf topology }
        topology rfl attached rfl rfl
      rw [followed]
      refine (if_pos several).trans ?_
      rw [show (network.stripped.given demand kappa constantTerm minInjection
        maxInjection).withVariables.checkTopology = .ok topology from checked]
      rfl
  rw [InStep, stage, data]
  rw [InStep] at inStep
  cases reached : network.stage with
  | empty =>
      rw [reached] at inStep
      have equality : network.stripped = network := Except.ok.inj inStep
      rw [bare network rfl (by rw [← equality]; rfl) (by rw [← equality]; rfl), equality]
      rfl
  | vars =>
      rw [reached] at inStep
      have equality : network.stripped.withVariables = network := Except.ok.inj inStep
      rw [bare network rfl (by rw [← equality]; rfl) (by rw [← equality]; rfl)]
      exact congrArg (fun n => Except.ok (n.given demand kappa constantTerm minInjection
        maxInjection)) equality
  | constraints =>
      rw [reached] at inStep
      exact constrained inStep
  | objective =>
      rw [reached] at inStep
      obtain ⟨middle, generated, equality⟩ := Except.map_eq_ok.mp inStep
      exact Except.map_eq_ok.mpr ⟨follow middle, constrained generated, by
        rw [objective middle (generatedTo_ok .constraints rfl generated).2,
          equality]⟩

/-- A network in step has no rows before its constraints are generated. -/
theorem InStep.rows_eq_none {network : Network K} (inStep : network.InStep)
    (early : network.stage.hasConstraints = false) : network.rows = NetworkRows.none := by
  rw [InStep] at inStep
  cases reached : network.stage with
  | empty =>
      rw [reached] at inStep
      rw [← Except.ok.inj inStep]
      rfl
  | vars =>
      rw [reached] at inStep
      rw [← Except.ok.inj inStep]
      rfl
  | constraints => simp [reached, Stage.hasConstraints, Stage.reached] at early
  | objective => simp [reached, Stage.hasConstraints, Stage.reached, Stage.rank] at early

/-- New data followed by a patch of the rows alone. -/
theorem InStep.patched {network : Network K} (inStep : network.InStep)
    (demand kappa minInjection maxInjection : List K) (patch : Network K → Network K)
    (only : ∀ n, patch n = n.withRows (patch n).rows)
    (objective : ∀ n, (patch n).withObjective = patch n.withObjective)
    (bare : ∀ n, n.rows = NetworkRows.none → patch n = n)
    (rows : ∀ (n : Network K) topology, n.stripped = network.stripped →
      n.topology? = some topology → n.rows = n.rowsOf topology →
      patch (n.given demand kappa network.constantTerm minInjection maxInjection) =
        (n.given demand kappa network.constantTerm minInjection maxInjection).withRows
          ((n.given demand kappa network.constantTerm minInjection
            maxInjection).rowsOf topology)) :
    (patch (network.given demand kappa network.constantTerm minInjection
      maxInjection)).InStep := by
  refine inStep.follow demand kappa network.constantTerm minInjection maxInjection
    (fun n => patch (n.given demand kappa network.constantTerm minInjection maxInjection))
    ?stage ?data ?objective ?bare ?rows
  case stage =>
    intro n
    rw [only]
    rfl
  case data =>
    rw [only]
    rfl
  case objective =>
    intro n data
    rw [objective]
    obtain ⟨-, -, constant, -, -⟩ := data_of_stripped data
    rw [← constant]
    rfl
  case bare =>
    exact fun n _ absent _ => bare
      (n.given demand kappa network.constantTerm minInjection maxInjection) absent
  case rows =>
    exact fun n topology data attached generated _ => rows n topology data attached generated

theorem patchFlowLimits_none {network : Network K} (limits : network.rows.flowLimits = .none)
    (lines : List Nat) : network.patchFlowLimits lines = network := by
  have unmoved (targets : List (Nat × Nat)) (range : LineKind → Nat → Nat → K × K) :
      targets.foldl
          (fun (limits : FlowLimits K) place => limits.setBounds place.1 place.2
            (range limits.kind place.1 place.2).1 (range limits.kind place.1 place.2).2)
          .none = .none := by
    induction targets with
    | nil => rfl
    | cons place rest induction => exact induction
  unfold patchFlowLimits
  split
  · rfl
  · rename_i topology _
    dsimp only
    rw [foldl_places fun (limits : FlowLimits K) interval line =>
      limits.setBounds interval line
        (network.flowRange topology limits.kind interval line).1
        (network.flowRange topology limits.kind interval line).2, limits,
      unmoved, ← limits]

theorem patchFlowLimits_withRows (network : Network K) (lines : List Nat) :
    network.patchFlowLimits lines =
      network.withRows (network.patchFlowLimits lines).rows := by
  unfold patchFlowLimits
  split <;> rfl

theorem InStep.withKappa {network : Network K} (inStep : network.InStep)
    (selection : Selection) (values : List K) {abstract : Mode}
    (writes : abstract.writes = true) :
    (network.withKappa selection values abstract).InStep := by
  let kappa := selection.write network.kappa network.lines 1 values
  have equality : network.withKappa selection values abstract =
      (network.given network.demand kappa network.constantTerm network.minInjection
        network.maxInjection).patchFlowLimits selection.indices := by
    unfold Network.withKappa
    rw [writes, Bool.true_and]
    cases late : network.stage.hasConstraints with
    | true => rfl
    | false =>
        have absent : (network.reloaded network.demand kappa).rows = NetworkRows.none :=
          inStep.rows_eq_none late
        exact (patchFlowLimits_none (congrArg NetworkRows.flowLimits absent) _).symm
  rw [equality]
  refine inStep.patched _ _ _ _ (fun n => n.patchFlowLimits selection.indices)
    ?only ?objective ?bare ?rows
  case only => exact fun n => patchFlowLimits_withRows n _
  case objective =>
    intro n
    have topology : n.withObjective.topology? = n.topology? := rfl
    unfold patchFlowLimits
    rw [topology]
    cases n.topology? <;> rfl
  case bare =>
    exact fun n absent => patchFlowLimits_none (congrArg NetworkRows.flowLimits absent) _
  case rows =>
    intro n topology data attached generated
    obtain ⟨demands, kappas, constant, minimum, maximum⟩ := data_of_stripped data
    rw [← demands, ← constant, ← minimum, ← maximum]
    exact patchFlowLimits_rowsOf attached generated fun line outside =>
      (Selection.getD_write_of_not_mem selection _ _ 1 values outside).trans
        (by rw [kappas])

theorem patchDemand_none {network : Network K} (absent : network.rows = NetworkRows.none)
    (entries : List Nat) : network.patchDemand entries = network := by
  have limits : network.rows.flowLimits.kind = .none := by rw [absent]; rfl
  unfold patchDemand
  rw [limits]
  split <;> rfl

theorem patchDemand_withRows (network : Network K) (entries : List Nat) :
    network.patchDemand entries = network.withRows (network.patchDemand entries).rows := by
  unfold patchDemand
  split
  · rfl
  · split <;> rfl

theorem InStep.withDemand {network : Network K} (inStep : network.InStep)
    (selection : Selection) (values : List K) {abstract : Mode}
    (writes : abstract.writes = true) :
    (network.withDemand selection values abstract).InStep := by
  let demand := selection.write network.demand network.extent 0 values
  have equality : network.withDemand selection values abstract =
      (network.given demand network.kappa network.constantTerm network.minInjection
        network.maxInjection).patchDemand selection.indices := by
    unfold Network.withDemand
    rw [writes, Bool.true_and]
    cases late : network.stage.hasConstraints with
    | true => rfl
    | false =>
        have absent : (network.reloaded demand network.kappa).rows = NetworkRows.none :=
          inStep.rows_eq_none late
        exact (patchDemand_none absent _).symm
  rw [equality]
  refine inStep.patched _ _ _ _ (fun n => n.patchDemand selection.indices)
    ?only ?objective ?bare ?rows
  case only => exact fun n => patchDemand_withRows n _
  case objective =>
    intro n
    have topology : n.withObjective.topology? = n.topology? := rfl
    have kind : n.withObjective.rows.flowLimits.kind = n.rows.flowLimits.kind := rfl
    unfold patchDemand
    rw [topology, kind]
    cases n.topology? with
    | none => rfl
    | some topology => cases n.rows.flowLimits.kind <;> rfl
  case bare => exact fun n absent => patchDemand_none absent _
  case rows =>
    intro n topology data attached generated
    obtain ⟨demands, kappas, constant, minimum, maximum⟩ := data_of_stripped data
    rw [← kappas, ← constant, ← minimum, ← maximum]
    exact patchDemand_rowsOf attached generated fun entry outside =>
      (Selection.getD_write_of_not_mem selection _ _ 0 values outside).trans
        (by rw [demands])

theorem InStep.withInjectionBounds {network : Network K} (inStep : network.InStep)
    (minimum maximum : List K) {abstract : Mode} (writes : abstract.writes = true) :
    (network.withInjectionBounds minimum maximum abstract).InStep := by
  unfold Network.withInjectionBounds
  rw [if_pos writes]
  refine inStep.patched network.demand network.kappa minimum maximum
    (fun n => n.patchInjectionBounds minimum maximum) ?only ?objective ?bare ?rows
  case only => exact fun n => rfl
  case objective => exact fun n => rfl
  case bare =>
    intro n absent
    have boxes : n.rows.injectionBounds = Family.empty NetworkRows.boundsName 0 := by
      rw [absent]
      rfl
    unfold patchInjectionBounds
    rw [boxes]
    exact congrArg n.withRows (by rw [absent]; rfl)
  case rows =>
    intro n topology data attached generated
    obtain ⟨demands, kappas, constant, -, -⟩ := data_of_stripped data
    rw [← demands, ← kappas, ← constant]
    exact patchInjectionBounds_rowsOf generated minimum maximum

theorem InStep.withConstant {network : Network K} (inStep : network.InStep)
    (constant : K) : (network.withConstant constant).InStep := by
  refine inStep.follow network.demand network.kappa constant network.minInjection
    network.maxInjection (fun n => n.withConstant constant) ?stage ?data ?objective ?bare ?rows
  case stage => exact fun n => rfl
  case data => rfl
  case objective => exact fun n _ => rfl
  case bare =>
    intro n data _ unset
    obtain ⟨demands, kappas, -, minimum, maximum⟩ := data_of_stripped data
    unfold Network.withConstant given
    rw [← demands, ← kappas, ← minimum, ← maximum, unset]
    rfl
  case rows =>
    intro n topology data attached generated unset
    obtain ⟨demands, kappas, -, minimum, maximum⟩ := data_of_stripped data
    unfold Network.withConstant given
    rw [← demands, ← kappas, ← minimum, ← maximum, unset, generated]
    rfl

/-- Giving these bounds to the network again would leave it as it is. -/
structure Settled (network : Network K) (minimum maximum : List K) : Prop where
  minFits : minimum.length = network.extent
  maxFits : maximum.length = network.extent
  kept : (Scalar.same minimum network.minInjection &&
      Scalar.same maximum network.maxInjection) = true ∨
    (network.minInjection = minimum ∧ network.maxInjection = maximum)

theorem Settled.congr {first second : Network K} {minimum maximum : List K}
    (settled : first.Settled minimum maximum) (extent : second.extent = first.extent)
    (minInjection : second.minInjection = first.minInjection)
    (maxInjection : second.maxInjection = first.maxInjection) :
    second.Settled minimum maximum where
  minFits := by rw [settled.minFits, extent]
  maxFits := by rw [settled.maxFits, extent]
  kept := by
    rw [minInjection, maxInjection]
    exact settled.kept

theorem extent_withInjectionBounds (network : Network K) (minimum maximum : List K)
    (abstract : Mode) :
    (network.withInjectionBounds minimum maximum abstract).extent = network.extent := by
  unfold Network.withInjectionBounds
  dsimp only
  split <;> rfl

theorem settled_withInjectionBounds {network : Network K} {minimum maximum : List K}
    (minFits : minimum.length = network.extent) (maxFits : maximum.length = network.extent)
    (abstract : Mode) :
    (network.withInjectionBounds minimum maximum abstract).Settled minimum maximum where
  minFits := by rw [extent_withInjectionBounds, minFits]
  maxFits := by rw [extent_withInjectionBounds, maxFits]
  kept := by
    right
    unfold Network.withInjectionBounds
    dsimp only
    split <;> exact ⟨rfl, rfl⟩

/-- Once bounds were accepted and written the network is settled on them. -/
theorem settled_of_setInjectionBounds {network : Network K} {minimum maximum : List K}
    {physical abstract : Mode} {outcome : Outcome} (writes : physical.writes = true)
    (accepted : (setInjectionBounds minimum maximum physical abstract network).result =
      .ok outcome) :
    (setInjectionBounds minimum maximum physical abstract network).state.Settled
      minimum maximum := by
  rw [setInjectionBounds_apply] at accepted ⊢
  split at accepted
  · cases accepted
  · rename_i minFits
    split at accepted
    · cases accepted
    · rename_i maxFits
      have fits := And.intro (not_not.mp minFits) (not_not.mp maxFits)
      rw [if_neg minFits, if_neg maxFits]
      split
      · rename_i same
        exact ⟨fits.1, fits.2, .inl same⟩
      · rw [if_neg (by simp [writes])]
        exact settled_withInjectionBounds fits.1 fits.2 abstract

/-- Bounds of the right lengths are never refused. -/
theorem setInjectionBounds_ok {network : Network K} {minimum maximum : List K}
    (minFits : minimum.length = network.extent) (maxFits : maximum.length = network.extent)
    (abstract : Mode) :
    ∃ outcome, setInjectionBounds minimum maximum .quiet abstract network =
      ⟨(setInjectionBounds minimum maximum .quiet abstract network).state, [],
        .ok outcome⟩ := by
  rw [setInjectionBounds_apply, if_neg (not_not.mpr minFits), if_neg (not_not.mpr maxFits)]
  split
  · exact ⟨_, rfl⟩
  · exact ⟨_, rfl⟩

/-- Bounds that a network is settled on change nothing before there are rows. -/
theorem Settled.setInjectionBounds_atVars {network : Network K} {minimum maximum : List K}
    (settled : network.Settled minimum maximum) :
    ∃ outcome, setInjectionBounds minimum maximum .quiet .quiet network.atVars =
      ⟨network.atVars, [], .ok outcome⟩ := by
  have extent : network.atVars.extent = network.extent := rfl
  rw [setInjectionBounds_apply, extent, if_neg (not_not.mpr settled.minFits),
    if_neg (not_not.mpr settled.maxFits)]
  split
  · exact ⟨_, rfl⟩
  · rename_i differs
    cases settled.kept with
    | inl same => exact absurd same differs
    | inr equal =>
        have unmoved : network.atVars.withInjectionBounds minimum maximum .quiet =
            network.atVars := by
          rw [← equal.1, ← equal.2]
          rfl
        refine ⟨.applied, ?_⟩
        rw [unmoved]
        rfl

end Dispatch.Network
