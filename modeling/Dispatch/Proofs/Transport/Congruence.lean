import Dispatch.Proofs.Change.Parallel
import Dispatch.Proofs.Network.Update
import Dispatch.Proofs.Transport.Network

namespace Dispatch

/-! Networks over numbers of their own, carried over to common ones. What generation makes of
networks that are congruent there is congruent again, whatever their nodes and lines are called. -/

variable {K L M : Type} [Scalar K] [Scalar L] [Scalar M]

/-- What generation reads of a topology. -/
def Topology.unnamed (topology : Topology K) : Topology K :=
  { topology with classname := "", nodeNames := [], lineNames := [] }

omit [Scalar L] in
theorem Topology.congr_unnamed {α : Type} (view : Topology L → α)
    (blind : ∀ topology, view topology.unnamed = view topology) {topology other : Topology L}
    (same : topology.unnamed = other.unnamed) : view topology = view other := by
  rw [← blind, same, blind]

namespace Network

/-- The same in all that is generated of them and from them. -/
structure Congruent (first second : Network L) : Prop where
  stage : first.stage = second.stage
  nodes : first.nodes = second.nodes
  intervals : first.intervals = second.intervals
  topology : first.topology?.map Topology.unnamed = second.topology?.map Topology.unnamed
  demandAt : first.demandAt = second.demandAt
  kappaAt : first.kappaAt = second.kappaAt
  constantTerm : first.constantTerm = second.constantTerm
  minInjection : first.minInjection = second.minInjection
  maxInjection : first.maxInjection = second.maxInjection
  store : first.store = second.store
  nodeInjection : first.nodeInjection = second.nodeInjection
  powerFlow : first.powerFlow = second.powerFlow
  auxiliary : first.auxiliary = second.auxiliary
  rows : first.rows = second.rows
  objective : first.objective = second.objective

namespace Congruent

variable {first second : Network L}

theorem rowsOf (same : first.Congruent second) {topology other : Topology L}
    (lines : topology.unnamed = other.unnamed) :
    first.rowsOf topology = second.rowsOf other := by
  have injection : first.injection = second.injection := by
    unfold Network.injection
    rw [same.store, same.nodeInjection]
  have flow : first.flow = second.flow := by
    unfold Network.flow
    rw [same.store, same.powerFlow]
  have demandFlow : first.demandFlow topology = second.demandFlow topology := by
    unfold Network.demandFlow demandRow
    rw [same.demandAt]
  have flowRange : first.flowRange topology = second.flowRange topology := by
    unfold Network.flowRange
    rw [same.kappaAt, demandFlow]
  have distribution : first.distribution topology = second.distribution topology := by
    unfold Network.distribution transferTerm?
    rw [injection, flow]
  rw [← Topology.congr_unnamed second.rowsOf (fun _ => rfl) lines]
  unfold Network.rowsOf flowLimitsOf limitRows limitBox limitRow injectionBalanceOf balanceRow
    Network.balanceTerms incidence flowDefinitionOf definitions definitionRow systemBalanceOf
    systemRow totalDemand relaxedFlowsOf relaxedRow injectionBoundsOf boundsBox
  rw [injection, flow, demandFlow, flowRange, distribution, same.intervals, same.nodes,
    same.demandAt, same.minInjection, same.maxInjection, same.store, same.auxiliary]

theorem topologies (same : first.Congruent second) :
    first.topology? = none ∧ second.topology? = none ∨
      ∃ topology other, first.topology? = some topology ∧ second.topology? = some other ∧
        topology.unnamed = other.unnamed := by
  have topology := same.topology
  cases here : first.topology? with
  | none =>
      rw [here] at topology
      exact .inl ⟨rfl, Option.map_eq_none_iff.mp topology.symm⟩
  | some lines =>
      rw [here] at topology
      obtain ⟨others, there, unnamed⟩ := Option.map_eq_some_iff.mp topology.symm
      exact .inr ⟨lines, others, rfl, there, unnamed.symm⟩

theorem lines (same : first.Congruent second) : first.lines = second.lines := by
  unfold Network.lines
  rcases same.topologies with ⟨here, there⟩ | ⟨topology, other, here, there, unnamed⟩
  · rw [here, there]
  · rw [here, there]
    exact Topology.congr_unnamed Topology.lines (fun _ => rfl) unnamed

theorem hasCost (same : first.Congruent second) : first.hasCost = second.hasCost := by
  unfold Network.hasCost
  rcases same.topologies with ⟨here, there⟩ | ⟨topology, other, here, there, unnamed⟩
  · rw [here, there]
  · rw [here, there]
    exact Topology.congr_unnamed Topology.hasCost (fun _ => rfl) unnamed

theorem withVariables (same : first.Congruent second) :
    first.withVariables.Congruent second.withVariables := by
  have stores : first.withVariables.store = second.withVariables.store ∧
      first.withVariables.nodeInjection = second.withVariables.nodeInjection ∧
      first.withVariables.powerFlow = second.withVariables.powerFlow ∧
      first.withVariables.auxiliary = second.withVariables.auxiliary := by
    simp only [Network.withVariables, same.store, same.intervals, same.nodes, same.lines,
      same.hasCost, and_self]
  obtain ⟨store, nodeInjection, powerFlow, auxiliary⟩ := stores
  exact { same with
    stage := rfl
    store := store
    nodeInjection := nodeInjection
    powerFlow := powerFlow
    auxiliary := auxiliary }

/-- A topology is refused for its lines and never for their names. -/
theorem checkTopology (same : first.Congruent second) :
    first.checkTopology.map Topology.unnamed = second.checkTopology.map Topology.unnamed := by
  unfold Network.checkTopology
  rcases same.topologies with ⟨here, there⟩ | ⟨topology, other, here, there, unnamed⟩
  · rw [here, there]
  · have lines : topology.lines = other.lines :=
      Topology.congr_unnamed Topology.lines (fun _ => rfl) unnamed
    have nodes : topology.nodes = other.nodes :=
      Topology.congr_unnamed Topology.nodes (fun _ => rfl) unnamed
    have shape : topology.checkShape = other.checkShape :=
      Topology.congr_unnamed Topology.checkShape (fun _ => rfl) unnamed
    have ac : hasAcLines topology = hasAcLines other :=
      Topology.congr_unnamed hasAcLines (fun _ => rfl) unnamed
    have factors : topology.factors = other.factors :=
      Topology.congr_unnamed Topology.factors (fun _ => rfl) unnamed
    simp only [here, there, lines, nodes, shape, ac, factors]
    split
    · rfl
    · cases other.checkShape with
      | error error => rfl
      | ok checked =>
          simp only [Except.ok_bind]
          split
          · rfl
          · exact congrArg Except.ok unnamed

theorem withConstraints (same : first.Congruent second) :
    (∃ error, first.withConstraints = .error error ∧ second.withConstraints = .error error) ∨
      ∃ result other, first.withConstraints = .ok result ∧
        second.withConstraints = .ok other ∧ result.Congruent other := by
  have checked := same.checkTopology
  unfold Network.withConstraints
  rw [same.nodes]
  split
  · cases here : first.checkTopology with
    | error error =>
        rw [here] at checked
        cases there : second.checkTopology with
        | error other =>
            rw [there] at checked
            cases checked
            exact .inl ⟨error, rfl, rfl⟩
        | ok other =>
            rw [there] at checked
            cases checked
    | ok topology =>
        rw [here] at checked
        obtain ⟨other, there, unnamed⟩ := Except.map_eq_ok.mp checked.symm
        rw [there]
        exact .inr ⟨_, _, rfl, rfl,
          { same with stage := rfl, rows := same.rowsOf unnamed.symm }⟩
  · exact .inr ⟨_, _, rfl, rfl, { same with stage := rfl }⟩

theorem costFunction (same : first.Congruent second) :
    first.costFunction = second.costFunction := by
  unfold Network.costFunction costTerms
  rw [same.constantTerm, same.auxiliary, same.store, same.intervals]
  rcases same.topologies with ⟨here, there⟩ | ⟨topology, other, here, there, unnamed⟩
  · rw [here, there]
  · have cost : topology.cost = other.cost :=
      Topology.congr_unnamed Topology.cost (fun _ => rfl) unnamed
    simp only [here, there, cost]

theorem withObjective (same : first.Congruent second) :
    first.withObjective.Congruent second.withObjective :=
  { same with
    stage := rfl
    objective := by
      rw [Network.withObjective, Network.withObjective, same.costFunction] }

theorem withInjectionBounds (same : first.Congruent second) (minimum maximum : List L)
    (abstract : Mode) :
    (first.withInjectionBounds minimum maximum abstract).Congruent
      (second.withInjectionBounds minimum maximum abstract) := by
  unfold Network.withInjectionBounds
  dsimp only
  split
  · exact { same with
      minInjection := rfl
      maxInjection := rfl
      rows := by
        simp only [patchInjectionBounds, rebounded, same.rows] }
  · exact { same with
      minInjection := rfl
      maxInjection := rfl }

end Congruent

theorem withInjectionBounds_map (network : Network K) (transport : Transport K L)
    (minimum maximum : List K) (abstract : Mode) :
    (network.withInjectionBounds minimum maximum abstract).map transport =
      (network.map transport).withInjectionBounds (minimum.map transport.number)
        (maximum.map transport.number) abstract := by
  unfold withInjectionBounds
  dsimp only
  split
  · have items : (network.rows.injectionBounds.items.mapIdx fun entry box =>
          box.setBounds (minimum.getD entry 0) (maximum.getD entry 0)).map
            (fun box => box.map transport) =
        (network.rows.injectionBounds.items.map fun box => box.map transport).mapIdx
          fun entry box => box.setBounds ((minimum.map transport.number).getD entry 0)
            ((maximum.map transport.number).getD entry 0) := by
      apply List.ext_getElem?
      intro entry
      simp only [List.getElem?_map, List.getElem?_mapIdx, Option.map_map, Transport.getD_zero]
      rfl
    have bounds := congrArg (Family.mk network.rows.injectionBounds.name
      network.rows.injectionBounds.cols) items
    exact congrArg (fun bounds => ({ (network.map transport).rebounded
      (minimum.map transport.number) (maximum.map transport.number) with
        rows := { network.rows.map transport with injectionBounds := bounds } } : Network L))
      bounds
  · rfl

/-- Carried over, the two networks are congruent. -/
def Meets (left : Transport K L) (right : Transport M L) (first : Network K)
    (second : Network M) : Prop :=
  (first.map left).Congruent (second.map right)

namespace Meets

variable {left : Transport K L} {right : Transport M L} {first : Network K} {second : Network M}

theorem stage (meets : first.Meets left right second) : first.stage = second.stage :=
  Congruent.stage meets

theorem extent (meets : first.Meets left right second) : first.extent = second.extent := by
  have intervals : first.intervals = second.intervals := Congruent.intervals meets
  have nodes := Congruent.nodes meets
  rw [nodes_map, nodes_map] at nodes
  rw [Network.extent, Network.extent, intervals, nodes]

theorem injectionVar? (meets : first.Meets left right second) (interval node : Nat) :
    (first.injectionVar? interval node).map left.var =
      (second.injectionVar? interval node).map right.var := by
  have stores : first.store.map left = second.store.map right := Congruent.store meets
  have grids : first.nodeInjection = second.nodeInjection := Congruent.nodeInjection meets
  rw [Network.injectionVar?, Network.injectionVar?, ← Store.cell?_map, ← Store.cell?_map, stores,
    grids]

theorem step (meets : first.Meets left right second) (target : Stage)
    {advance : Network K → Except Error (Network K)}
    {other : Network M → Except Error (Network M)}
    (advances :
      (∃ error, advance first = .error error ∧ other second = .error error) ∨
        ∃ result twin, advance first = .ok result ∧ other second = .ok twin ∧
          result.Meets left right twin) :
    (Network.step target advance first).Parallel (Meets left right)
      (Network.step target other second) := by
  rw [step_apply, step_apply, meets.stage]
  cases second.stage.enter target with
  | error error => exact ⟨rfl, meets⟩
  | ok action =>
      cases action with
      | skip => exact ⟨rfl, meets⟩
      | run =>
          rcases advances with ⟨error, here, there⟩ | ⟨result, twin, here, there, ahead⟩
          · rw [here, there]
            exact ⟨rfl, meets⟩
          · rw [here, there]
            exact ⟨rfl, ahead⟩

theorem generateVariables (meets : first.Meets left right second) :
    (Network.generateVariables first).Parallel (Meets left right)
      (Network.generateVariables second) := by
  refine meets.step .vars (.inr ⟨_, _, rfl, rfl, ?_⟩)
  rw [Meets, ← withVariables_map, ← withVariables_map]
  exact Congruent.withVariables meets

theorem generateConstraints (meets : first.Meets left right second) :
    (Network.generateConstraints first).Parallel (Meets left right)
      (Network.generateConstraints second) := by
  refine meets.step .constraints ?_
  rcases Congruent.withConstraints meets with
    ⟨error, here, there⟩ | ⟨result, other, here, there, ahead⟩
  · rw [withConstraints_map] at here there
    exact .inl ⟨error, Except.map_eq_error.mp here, Except.map_eq_error.mp there⟩
  · rw [withConstraints_map] at here there
    obtain ⟨generated, built, rfl⟩ := Except.map_eq_ok.mp here
    obtain ⟨twin, made, rfl⟩ := Except.map_eq_ok.mp there
    exact .inr ⟨generated, twin, built, made, ahead⟩

theorem generateObjective (meets : first.Meets left right second) :
    (Network.generateObjective first).Parallel (Meets left right)
      (Network.generateObjective second) := by
  refine meets.step .objective (.inr ⟨_, _, rfl, rfl, ?_⟩)
  rw [Meets, ← withObjective_map, ← withObjective_map]
  exact Congruent.withObjective meets

theorem setInjectionBounds (meets : first.Meets left right second) {minimum maximum : List K}
    {lowest highest : List M} (low : minimum.map left.number = lowest.map right.number)
    (high : maximum.map left.number = highest.map right.number) (physical abstract : Mode) :
    (Network.setInjectionBounds minimum maximum physical abstract first).Parallel
      (Meets left right)
      (Network.setInjectionBounds lowest highest physical abstract second) := by
  have count : minimum.length = lowest.length := by simpa using congrArg List.length low
  have total : maximum.length = highest.length := by simpa using congrArg List.length high
  have minima : Scalar.same minimum first.minInjection =
      Scalar.same lowest second.minInjection := by
    rw [← left.same_map, ← right.same_map, low]
    exact congrArg _ (Congruent.minInjection meets)
  have maxima : Scalar.same maximum first.maxInjection =
      Scalar.same highest second.maxInjection := by
    rw [← left.same_map, ← right.same_map, high]
    exact congrArg _ (Congruent.maxInjection meets)
  rw [setInjectionBounds_apply, setInjectionBounds_apply, count, total, minima, maxima,
    meets.extent]
  split
  · exact ⟨rfl, meets⟩
  · split
    · exact ⟨rfl, meets⟩
    · split
      · exact ⟨rfl, meets⟩
      · split
        · exact ⟨rfl, meets⟩
        · refine ⟨rfl, ?_⟩
          rw [Meets, withInjectionBounds_map, withInjectionBounds_map, low, high]
          exact Congruent.withInjectionBounds meets _ _ _

end Meets

end Network

end Dispatch
