import Dispatch.Proofs.Schedule.Generation
import Dispatch.Proofs.Transport.Congruence
import Dispatch.Proofs.Transport.Plant

namespace Dispatch

/-! Schedules over numbers of their own, carried over to common ones. Rows, bounds and terms are
made of the same members at the same places, so generation makes schedules that meet of schedules
that meet. -/

variable {K L M : Type} [Scalar K] [Scalar L] [Scalar M]
  {left : Transport K L} {right : Transport M L}

structure Zoning.Meets (left : Transport K L) (right : Transport M L) (first : Zoning K)
    (second : Zoning M) : Prop where
  count : first.count = second.count
  zones : first.zones = second.zones
  demand : first.demand.map left.number = second.demand.map right.number

namespace Zoning.Meets

variable {first : Zoning K} {second : Zoning M}

theorem zone? (meets : first.Meets left right second) (node : Nat) :
    first.zone? node = second.zone? node := by
  rw [Zoning.zone?, Zoning.zone?, meets.count, meets.zones]

theorem demand_isEmpty (meets : first.Meets left right second) :
    first.demand.isEmpty = second.demand.isEmpty := by
  rw [← List.isEmpty_map (f := left.number), meets.demand, List.isEmpty_map]

theorem demandAt (meets : first.Meets left right second) (horizon zone instant : Nat) :
    left.number (first.demandAt horizon zone instant) =
      right.number (second.demandAt horizon zone instant) := by
  unfold Zoning.demandAt
  rw [meets.demand_isEmpty]
  split
  · rw [left.number_zero, right.number_zero]
  · rw [← left.getD_zero, ← right.getD_zero, meets.demand]

theorem validate (meets : first.Meets left right second) (nodes horizon : Nat) (label : String) :
    first.validate nodes horizon label = second.validate nodes horizon label := by
  have length : first.demand.length = second.demand.length := by
    simpa using congrArg List.length meets.demand
  unfold Zoning.validate
  rw [meets.demand_isEmpty, length, meets.count, meets.zones]

end Zoning.Meets

/-- Without pollutants there is nothing to compare. -/
structure Emissions.Meets (left : Transport K L) (right : Transport M L) (first : Emissions K)
    (second : Emissions M) : Prop where
  zoneCounts : first.zoneCounts = second.zoneCounts
  zones : second.pollutants ≠ 0 → first.zones = second.zones
  budget : second.pollutants ≠ 0 →
    first.budget.map left.number = second.budget.map right.number
  rates : second.pollutants ≠ 0 → first.rates.map left.number = second.rates.map right.number

namespace Emissions.Meets

variable {first : Emissions K} {second : Emissions M}

theorem pollutants (meets : first.Meets left right second) :
    first.pollutants = second.pollutants :=
  congrArg List.length meets.zoneCounts

theorem zone? (meets : first.Meets left right second) (polluted : second.pollutants ≠ 0)
    (nodes pollutant node : Nat) :
    first.zone? nodes pollutant node = second.zone? nodes pollutant node := by
  rw [Emissions.zone?, Emissions.zone?, Emissions.zoneCount, Emissions.zoneCount,
    meets.zoneCounts, meets.zones polluted]

theorem rateAt (meets : first.Meets left right second) (polluted : second.pollutants ≠ 0)
    (generators instant pollutant generator : Nat) :
    left.number (first.rateAt generators instant pollutant generator) =
      right.number (second.rateAt generators instant pollutant generator) := by
  rw [Emissions.rateAt, Emissions.rateAt, ← left.getD_zero, ← right.getD_zero,
    meets.rates polluted, meets.pollutants]

theorem budgetAt (meets : first.Meets left right second) (polluted : second.pollutants ≠ 0)
    (pollutant zone : Nat) :
    left.number (first.budgetAt pollutant zone) =
      right.number (second.budgetAt pollutant zone) := by
  rw [Emissions.budgetAt, Emissions.budgetAt, ← left.getD_zero, ← right.getD_zero,
    meets.budget polluted, Emissions.offset, Emissions.offset, meets.zoneCounts]

theorem validate (meets : first.Meets left right second) (nodes horizon generators : Nat) :
    first.validate nodes horizon generators = second.validate nodes horizon generators := by
  unfold Emissions.validate
  rw [meets.pollutants]
  split
  · rfl
  · rename_i polluted
    have budget : first.budget.length = second.budget.length := by
      simpa using congrArg List.length (meets.budget polluted)
    have rates : first.rates.length = second.rates.length := by
      simpa using congrArg List.length (meets.rates polluted)
    rw [meets.zones polluted, budget, rates, Emissions.totalZones, Emissions.totalZones,
      meets.zoneCounts]

end Emissions.Meets

def Link.map (link : Link K) (transport : Transport K L) : Link L :=
  ⟨link.kind, link.rows.map fun row => row.map transport, link.spans⟩

namespace Schedule

omit [Scalar M] in
theorem polluted_of_budget_mem {schedule : Schedule M} {kind : LinkKind} {pollutant zone : Nat}
    (member : .budget pollutant zone ∈ schedule.linkRows kind) :
    schedule.emissions.pollutants ≠ 0 := by
  cases kind with
  | budget =>
      obtain ⟨entry, listed, -⟩ := List.mem_map.mp member
      intro none
      rw [pollutantZones, List.eq_nil_of_length_eq_zero none] at listed
      cases listed
  | _ =>
      obtain ⟨_, _, _, _, other⟩ := Family.mem_table.mp member
      cases other

/-- Carried over, the two schedules are the same in all that is generated of them and from them. -/
structure Meets (left : Transport K L) (right : Transport M L) (first : Schedule K)
    (second : Schedule M) : Prop where
  stage : first.stage = second.stage
  horizon : first.horizon = second.horizon
  nodes : first.nodes = second.nodes
  plants : List.Forall₂ (Plant.Meets left right) first.plants second.plants
  networks : List.Forall₂ (Network.Meets left right) first.networks second.networks
  generatorNode : first.generatorNode = second.generatorNode
  demandAt : ∀ node instant,
    left.number (first.demandAt node instant) = right.number (second.demandAt node instant)
  zoning : ∀ need, (first.zoning need).Meets left right (second.zoning need)
  emissions : first.emissions.Meets left right second.emissions
  constants : left.number (Scalar.sum first.networkConstants) =
    right.number (Scalar.sum second.networkConstants)
  links : first.links.map (fun link => link.map left) =
    second.links.map fun link => link.map right
  objective : first.objective.map (fun objective => objective.map left) =
    second.objective.map fun objective => objective.map right

namespace Meets

variable {first : Schedule K} {second : Schedule M}

theorem shape (meets : first.Meets left right second) : SameShape first second :=
  { meets with
    count := fun need => (meets.zoning need).count
    zoneCounts := meets.emissions.zoneCounts
    generators := Change.forall₂_map_eq (meets.plants.imp fun _ _ pair => pair.generators) }

theorem isBus (meets : first.Meets left right second) : first.isBus = second.isBus :=
  isBus_of_length meets.networks.length_eq

theorem validate (meets : first.Meets left right second) : first.validate = second.validate := by
  have primary := (meets.zoning .primary).validate second.nodes second.horizon "Primary"
  have secondary := (meets.zoning .secondary).validate second.nodes second.horizon "Secondary"
  have inertia := (meets.zoning .inertia).validate second.nodes second.horizon "Inertia"
  have emissions := meets.emissions.validate second.nodes second.horizon second.generators
  simp only [Schedule.zoning] at primary secondary inertia
  unfold Schedule.validate
  rw [meets.isBus, meets.generatorNode, meets.shape.total, meets.nodes, meets.horizon,
    meets.networks.length_eq, primary, secondary, inertia, emissions]

section Terms

variable {plant : Plant K} {twin : Plant M} (pair : plant.Meets left right twin)

omit [Scalar M] in
theorem map_weighted (transport : Transport K L) (var? : Option VarRef) (weight : K) :
    (weighted var? weight).map transport.term =
      weighted (var?.map transport.var) (transport.number weight) := by
  cases var? <;> rfl

include pair

theorem balanceTerms (generator instant : Nat) :
    (Schedule.balanceTerms plant generator instant).map left.term =
      (Schedule.balanceTerms twin generator instant).map right.term := by
  unfold Schedule.balanceTerms
  rw [pair.hasFixedConsumption, List.map_append, List.map_append]
  simp only [apply_ite (List.map _), List.map_nil, map_weighted, Transport.number_mul,
    Transport.number_neg, pair.activePowerVar?, pair.commitmentVar?, pair.scale,
    pair.fixedConsumption]

theorem needTerms (need : Need) (generator instant : Nat) :
    (Schedule.needTerms plant need generator instant).map left.term =
      (Schedule.needTerms twin need generator instant).map right.term := by
  cases need with
  | primary =>
      simp only [Schedule.needTerms, map_weighted, pair.primaryReserveVar?, pair.scale]
  | secondary =>
      simp only [Schedule.needTerms, map_weighted, pair.secondaryReserveVar?, pair.scale]
  | inertia =>
      simp only [Schedule.needTerms, pair.hasInertiaCommitment, pair.hasInertiaPower,
        List.map_append, apply_ite (List.map _), List.map_nil, map_weighted,
        Transport.number_mul, pair.activePowerVar?, pair.commitmentVar?, pair.scale,
        pair.inertiaCommitment, pair.inertiaPower]

theorem budgetTerms (meets : first.Meets left right second)
    (polluted : second.emissions.pollutants ≠ 0) (offset generator pollutant instant : Nat) :
    (first.budgetTerms plant offset generator pollutant instant).map left.term =
      (second.budgetTerms twin offset generator pollutant instant).map right.term := by
  unfold Schedule.budgetTerms
  rw [map_weighted, map_weighted, pair.activePowerVar?, left.number_mul, right.number_mul,
    pair.scale, meets.shape.total, meets.emissions.rateAt polluted]

theorem plantTerms (meets : first.Meets left right second) {kind : LinkKind} {row : LinkRow}
    (member : row ∈ second.linkRows kind) (index : Nat) :
    (first.plantTerms index plant row).map left.term =
      (second.plantTerms index twin row).map right.term := by
  have nodes : first.nodeOf = second.nodeOf := funext meets.shape.nodeOf
  have generators : plant.generators = twin.generators := pair.generators
  cases row with
  | balance instant node =>
      simp only [Schedule.plantTerms, meets.shape.offset, nodes, generators, List.map_flatMap,
        apply_ite (List.map _), List.map_nil, balanceTerms pair]
  | zonal need instant zone =>
      simp only [Schedule.plantTerms, meets.shape.offset, nodes, generators, List.map_flatMap,
        apply_ite (List.map _), List.map_nil, needTerms pair, (meets.zoning need).zone?]
  | budget pollutant zone =>
      have polluted := polluted_of_budget_mem member
      simp only [Schedule.plantTerms, meets.shape.offset, nodes, generators, List.map_flatMap,
        apply_ite (List.map _), List.map_nil, budgetTerms pair meets polluted,
        meets.emissions.zone? polluted, meets.horizon, meets.nodes]

end Terms

omit [Scalar K] [Scalar L] [Scalar M] in
private theorem mapIdx_meets {α β γ δ ε : Type} {related : α → β → Prop} {carry : γ → ε}
    {bring : δ → ε} {members : List α} {twins : List β}
    (pairs : List.Forall₂ related members twins) {view : Nat → α → γ} {other : Nat → β → δ}
    (same : ∀ index member twin, related member twin →
      carry (view index member) = bring (other index twin)) :
    (members.mapIdx view).map carry = (twins.mapIdx other).map bring := by
  induction pairs generalizing view other with
  | nil => rfl
  | cons pair _ induction =>
      rw [List.mapIdx_cons, List.mapIdx_cons, List.map_cons, List.map_cons,
        same 0 _ _ pair, induction fun index => same (index + 1)]

section Rows

variable (meets : first.Meets left right second)

include meets

theorem runs {kind : LinkKind} {row : LinkRow} (member : row ∈ second.linkRows kind) :
    (first.runs row).map (List.map left.term) = (second.runs row).map (List.map right.term) :=
  mapIdx_meets meets.plants fun index _ _ pair => plantTerms pair meets member index

theorem fixedConsumption {plant : Plant K} {twin : Plant M}
    (pair : plant.Meets left right twin) (index instant node : Nat) :
    left.number (first.fixedConsumption index plant instant node) =
      right.number (second.fixedConsumption index twin instant node) := by
  have nodes : first.nodeOf = second.nodeOf := funext meets.shape.nodeOf
  unfold Schedule.fixedConsumption
  rw [pair.committed, pair.hasFixedConsumption]
  split
  · dsimp only
    rw [← left.sum_map, ← right.sum_map, List.map_map, List.map_map, pair.generators,
      meets.shape.offset, nodes]
    refine congrArg Scalar.sum (List.map_congr_left fun generator _ => ?_)
    simp only [Function.comp_apply, Transport.number_mul, pair.scale, pair.fixedConsumption]
  · rw [left.number_zero, right.number_zero]

theorem balanceLevel (instant node : Nat) :
    left.number (first.balanceLevel instant node) =
      right.number (second.balanceLevel instant node) := by
  have fixed : (first.plants.mapIdx fun index plant =>
        first.fixedConsumption index plant instant node).map left.number =
      (second.plants.mapIdx fun index plant =>
        second.fixedConsumption index plant instant node).map right.number :=
    mapIdx_meets meets.plants fun index _ _ pair =>
      meets.fixedConsumption pair index instant node
  unfold Schedule.balanceLevel
  dsimp only
  rw [left.number_sub, right.number_sub, ← left.sum_map, ← right.sum_map, fixed, meets.isBus]
  split
  · rw [meets.demandAt]
  · rw [left.number_zero, right.number_zero]

theorem injectionVar? (instant node : Nat) :
    (first.networks[instant]?.bind fun network => network.injectionVar? 0 node).map left.var =
      (second.networks[instant]?.bind fun network => network.injectionVar? 0 node).map
        right.var := by
  cases there : second.networks[instant]? with
  | none =>
      have here : first.networks[instant]? = none := by
        rw [List.getElem?_eq_none_iff, meets.networks.length_eq]
        exact List.getElem?_eq_none_iff.mp there
      rw [here]
      rfl
  | some twin =>
      obtain ⟨network, here, pair⟩ := Change.getElem?_of_forall₂ meets.networks there
      rw [here]
      exact pair.injectionVar? 0 node

theorem linkHead (row : LinkRow) :
    (first.linkHead row).map (List.map left.term) =
      (second.linkHead row).map (List.map right.term) := by
  cases row with
  | balance instant node =>
      have heads := meets.injectionVar? instant node
      simp only [Schedule.linkHead, meets.isBus]
      split
      · rfl
      · cases here : first.networks[instant]?.bind fun network => network.injectionVar? 0 node <;>
          cases there : second.networks[instant]?.bind fun network =>
            network.injectionVar? 0 node <;> rw [here, there] at heads
        case none.none => rfl
        case some.some =>
          have same := Option.some.inj heads
          simp only [Except.map, List.map_cons, List.map_nil, Transport.term_mk, same,
            Transport.number_neg, Transport.number_one]
        all_goals cases heads
  | _ => rfl

theorem linkBounds {kind : LinkKind} {row : LinkRow} (member : row ∈ second.linkRows kind) :
    left.number (first.linkBounds row).1 = right.number (second.linkBounds row).1 ∧
      left.number (first.linkBounds row).2 = right.number (second.linkBounds row).2 := by
  cases row with
  | balance instant node => exact ⟨meets.balanceLevel instant node, meets.balanceLevel instant node⟩
  | zonal need instant zone =>
      refine ⟨?_, left.number_infinity.trans right.number_infinity.symm⟩
      rw [Schedule.linkBounds, Schedule.linkBounds, meets.horizon]
      exact (meets.zoning need).demandAt _ _ _
  | budget pollutant zone =>
      refine ⟨?_, meets.emissions.budgetAt (polluted_of_budget_mem member) _ _⟩
      simp only [Schedule.linkBounds, Transport.number_neg, Transport.number_infinity]

theorem linkRow {kind : LinkKind} {row : LinkRow} (member : row ∈ second.linkRows kind) :
    (first.linkRow row).map (fun row => row.map left) =
      (second.linkRow row).map fun row => row.map right := by
  obtain ⟨lower, upper⟩ := meets.linkBounds member
  refine Except.bind_map_congr (meets.linkHead row) fun head other heads => congrArg Except.ok ?_
  simp only [Row.map, LinearFunction.map_ofTerms, List.map_append, List.map_flatten, heads,
    meets.runs member, lower, upper]

theorem enterSpans {kind : LinkKind} {row : LinkRow} (member : row ∈ second.linkRows kind)
    (spans : List (List Span)) : first.enterSpans spans row = second.enterSpans spans row := by
  have heads : first.headLength row = second.headLength row := by
    cases row <;> simp only [headLength, meets.isBus]
  have lengths := congrArg (List.map List.length) (meets.runs member)
  simp only [List.map_map, Function.comp_def, List.length_map] at lengths
  rw [Schedule.enterSpans, Schedule.enterSpans, heads, meets.shape.rowKey,
    spansFrom_congr lengths]

theorem emptySpans (kind : LinkKind) : first.emptySpans kind = second.emptySpans kind := by
  rw [Schedule.emptySpans, Schedule.emptySpans, List.map_const', List.map_const',
    meets.plants.length_eq, meets.shape.linkKeys]

theorem link (kind : LinkKind) :
    (first.link kind).map (fun link => link.map left) =
      (second.link kind).map fun link => link.map right := by
  have items : ((second.linkRows kind).mapM first.linkRow).map (List.map fun row => row.map left) =
      ((second.linkRows kind).mapM second.linkRow).map (List.map fun row => row.map right) :=
    Except.mapM_map_congr fun row member => meets.linkRow member
  have spans : (second.linkRows kind).foldl first.enterSpans (second.emptySpans kind) =
      (second.linkRows kind).foldl second.enterSpans (second.emptySpans kind) :=
    List.foldl_ext _ _ _ fun spans row member => meets.enterSpans member spans
  unfold Schedule.link
  dsimp only
  rw [meets.shape.linkRows, meets.shape.linkCols, meets.emptySpans, spans]
  refine Except.bind_map_congr items fun rows others same => congrArg Except.ok ?_
  simp only [Link.map, Family.map, same]

theorem linksOf :
    first.linksOf.map (List.map fun link => link.map left) =
      second.linksOf.map (List.map fun link => link.map right) := by
  have items : (LinkKind.all.mapM first.link).map (List.map fun link => link.map left) =
      (LinkKind.all.mapM second.link).map (List.map fun link => link.map right) :=
    Except.mapM_map_congr fun kind _ => meets.link kind
  refine Except.bind_map_congr items fun links others same => congrArg Except.ok ?_
  have kept := congrArg (List.filter fun link : Link L => !link.rows.isEmpty) same
  rw [List.filter_map, List.filter_map] at kept
  have empty {K : Type} [Scalar K] (transport : Transport K L) (link : Link K) :
      (link.map transport).rows.isEmpty = link.rows.isEmpty := List.isEmpty_map
  simpa only [Function.comp_def, empty] using kept

end Rows

section Bounds

variable (meets : first.Meets left right second)

include meets

theorem generatorsAt (node : Nat) :
    List.Forall₂ (fun entry twin => entry.1.Meets left right twin.1 ∧ entry.2 = twin.2)
      (first.generatorsAt node) (second.generatorsAt node) :=
  generatorsAt_forall₂ meets.generatorNode
    (meets.plants.imp fun _ _ pair => ⟨pair, pair.generators⟩) node

theorem minInjection (instant node : Nat) :
    left.number (first.minInjection instant node) =
      right.number (second.minInjection instant node) := by
  refine List.rel_foldl (P := fun total other => left.number total = right.number other)
    (fun total other same entry twin ⟨pair, generator⟩ => ?_)
    (left.number_zero.trans right.number_zero.symm) (meets.generatorsAt node)
  rw [pair.committed, generator]
  split
  · exact same
  · rw [left.number_add, left.number_mul, same, pair.scale, pair.minPower,
      right.number_add, right.number_mul]

theorem maxInjection (instant node : Nat) :
    left.number (first.maxInjection instant node) =
      right.number (second.maxInjection instant node) := by
  refine List.rel_foldl (P := fun total other => left.number total = right.number other)
    (fun total other same entry twin ⟨pair, generator⟩ => ?_)
    (left.number_zero.trans right.number_zero.symm) (meets.generatorsAt node)
  dsimp only at same ⊢
  rw [generator, left.number_add, left.number_mul, same, pair.scale, pair.maxPower,
    right.number_add, right.number_mul]

theorem minima (instant : Nat) :
    (first.minima instant).map left.number = (second.minima instant).map right.number := by
  rw [Schedule.minima, Schedule.minima, List.map_map, List.map_map, meets.nodes]
  exact List.map_congr_left fun node _ => meets.minInjection instant node

theorem maxima (instant : Nat) :
    (first.maxima instant).map left.number = (second.maxima instant).map right.number := by
  rw [Schedule.maxima, Schedule.maxima, List.map_map, List.map_map, meets.nodes]
  exact List.map_congr_left fun node _ => meets.maxInjection instant node

end Bounds

section Steps

variable (meets : first.Meets left right second)

include meets

theorem refreshInjectionBounds (abstract : Mode) :
    (Schedule.refreshInjectionBounds abstract first).Parallel (Meets left right)
      (Schedule.refreshInjectionBounds abstract second) := by
  have networks := Effect.Parallel.each meets.networks fun instant network twin pair =>
    pair.setInjectionBounds (meets.minima instant) (meets.maxima instant) .quiet abstract
  rw [refreshInjectionBounds_apply, refreshInjectionBounds_apply]
  exact ⟨networks.result, { meets with networks := networks.state }⟩

theorem stepMembers {plantStep : Change (Plant K) PUnit} {otherPlants : Change (Plant M) PUnit}
    {networkStep : Change (Network K) PUnit} {otherNetworks : Change (Network M) PUnit}
    (plants : ∀ plant twin, plant.Meets left right twin →
      (plantStep plant).Parallel (Plant.Meets left right) (otherPlants twin))
    (networks : ∀ network twin, network.Meets left right twin →
      (networkStep network).Parallel (Network.Meets left right) (otherNetworks twin)) :
    (Schedule.stepMembers plantStep networkStep first).Parallel (Meets left right)
      (Schedule.stepMembers otherPlants otherNetworks second) := by
  have stepped := Effect.Parallel.each meets.plants fun _ => plants
  refine .bind (.onPart stepped fun _ _ plants => { meets with plants := plants })
    fun _ before after meets => ?_
  have stepped := Effect.Parallel.each meets.networks fun _ => networks
  exact .onPart stepped fun _ _ networks => { meets with networks := networks }

theorem step (target : Stage) {advance : Change (Schedule K) PUnit}
    {other : Change (Schedule M) PUnit}
    (advances : ∀ before after, before.Meets left right after →
      (advance before).Parallel (Meets left right) (other after)) :
    (Schedule.step target advance first).Parallel (Meets left right)
      (Schedule.step target other second) := by
  unfold Schedule.step
  rw [Change.current_bind, Change.current_bind, meets.stage]
  refine .bind (.require meets) fun action before after meets => ?_
  cases action with
  | skip => exact ⟨rfl, meets⟩
  | run =>
      refine .bind (advances before after meets) fun _ before after meets => ?_
      exact ⟨rfl, { meets with stage := rfl }⟩

theorem generateVariables :
    (Schedule.generateVariables first).Parallel (Meets left right)
      (Schedule.generateVariables second) :=
  meets.step .vars fun _ _ meets => meets.stepMembers
    (fun _ _ pair => pair.step .vars pair.withVariables)
    fun _ _ pair => pair.generateVariables

theorem buildConstraints :
    (Schedule.buildConstraints first).Parallel (Meets left right)
      (Schedule.buildConstraints second) := by
  unfold Schedule.buildConstraints
  rw [Change.current_bind, Change.current_bind, meets.validate]
  refine .bind (.require meets) fun _ _ _ meets => ?_
  refine .bind (meets.refreshInjectionBounds .quiet) fun _ _ _ meets => ?_
  have members := meets.stepMembers (fun _ _ pair => pair.step .constraints pair.withConstraints)
    fun _ _ pair => pair.generateConstraints
  refine .bind members fun _ before after meets => ?_
  have linked := meets.linksOf
  rw [Change.current_bind, Change.current_bind]
  cases here : before.linksOf <;> cases there : after.linksOf <;> rw [here, there] at linked
  case error.error =>
    cases linked
    exact ⟨rfl, meets⟩
  case ok.ok => exact ⟨rfl, { meets with links := Except.ok.inj linked }⟩
  all_goals cases linked

theorem generateConstraints :
    (Schedule.generateConstraints first).Parallel (Meets left right)
      (Schedule.generateConstraints second) :=
  meets.step .constraints fun _ _ meets => meets.buildConstraints

theorem ownConstant : left.number first.ownConstant = right.number second.ownConstant := by
  unfold Schedule.ownConstant
  rw [meets.isBus]
  split
  · exact meets.constants
  · rw [left.number_zero, right.number_zero]

theorem buildObjective :
    (Schedule.buildObjective first).Parallel (Meets left right)
      (Schedule.buildObjective second) := by
  have members := meets.stepMembers (fun _ _ pair => pair.step .objective pair.withObjective)
    fun _ _ pair => pair.generateObjective
  refine .bind members fun _ before after meets => ?_
  have priced : (⟨⟨[], before.ownConstant⟩, .minimise⟩ : Objective K).map left =
      (⟨⟨[], after.ownConstant⟩, .minimise⟩ : Objective M).map right := by
    simp only [Objective.map, LinearFunction.map, List.map_nil, meets.ownConstant]
  exact ⟨rfl, { meets with objective := congrArg some priced }⟩

theorem generateObjective :
    (Schedule.generateObjective first).Parallel (Meets left right)
      (Schedule.generateObjective second) :=
  meets.step .objective fun _ _ meets => meets.buildObjective

theorem generateAll :
    (Schedule.generateAll first).Parallel (Meets left right) (Schedule.generateAll second) :=
  .bind meets.generateVariables fun _ _ _ meets =>
    .bind meets.generateConstraints fun _ _ _ meets => meets.generateObjective

end Steps

end Meets

end Schedule

end Dispatch
