import Dispatch.Proofs.Reachable.Conservation
import Dispatch.Proofs.Reachable.Switching

namespace Dispatch

/-! Injection bounds follow from the power limits of the generators at a node, and the balance of
the node has what these supply. A generator supplies its power while it is on, which lies within
its limits; while it is off it supplies its fixed consumption, which the bounds leave out. So no
injection is below its bound, and none is above it where what is off consumes no more than it could
deliver. -/

namespace Exact

/-- A number that is not negative. -/
def IsAmount (value : Exact) : Prop :=
  value.isNumber = true ∧ Scalar.atMost 0 value = true

instance (value : Exact) : Decidable value.IsAmount :=
  inferInstanceAs (Decidable (_ ∧ _))

theorem IsAmount.eq_number {value : Exact} (amount : value.IsAmount) :
    ∃ number : ℚ, value = .number number ∧ 0 ≤ number := by
  obtain ⟨isNumber, positive⟩ := amount
  obtain ⟨number, rfl⟩ := eq_number_of_isNumber isNumber
  exact ⟨number, rfl, of_decide_eq_true ((atMost_number 0 number).symm.trans positive)⟩

theorem agrees_symm {first second : Exact} (agrees : Agrees first second) :
    Agrees second first := by
  refine agrees.imp Eq.symm fun alike => ?_
  cases first <;> cases second <;> simp_all [BEq.beq]

/-- Sums are ordered as their terms are. -/
theorem sum_map_le {α : Type} {items : List α} {first second : α → Exact}
    (each : ∀ item ∈ items, ∃ low high : ℚ,
      first item = .number low ∧ second item = .number high ∧ low ≤ high) :
    ∃ low high : ℚ, (items.map first).sum = .number low ∧
      (items.map second).sum = .number high ∧ low ≤ high := by
  induction items with
  | nil => exact ⟨0, 0, rfl, rfl, le_refl 0⟩
  | cons item rest induction =>
      obtain ⟨here, later⟩ := List.forall_mem_cons.mp each
      obtain ⟨low, high, lower, upper, order⟩ := here
      obtain ⟨lows, highs, lowers, uppers, orders⟩ := induction later
      refine ⟨low + lows, high + highs, ?_, ?_, add_le_add order orders⟩
      · rw [List.map_cons, List.sum_cons, lower, lowers, number_add_number]
      · rw [List.map_cons, List.sum_cons, upper, uppers, number_add_number]

end Exact

variable {values : VarRef → ℚ} {generator instant node : Nat}

namespace Plant

variable {plant : Plant Exact}

/-- The scale, the least power and the fixed consumption are not negative, and no generator has a
least power above its most. -/
structure Ranged (plant : Plant Exact) : Prop where
  scale : plant.scale.IsAmount
  least : ∀ value ∈ plant.data.minPower, value.IsAmount
  most : ∀ value ∈ plant.data.maxPower, value.isNumber = true
  order : ∀ generator < plant.generators, ∀ instant < plant.horizon,
    Scalar.atMost (plant.minPower generator instant) (plant.maxPower generator instant) = true
  consumption : ∀ value ∈ plant.data.fixedConsumption, value.IsAmount

instance : Decidable plant.Ranged :=
  decidable_of_iff (plant.scale.IsAmount ∧ (∀ value ∈ plant.data.minPower, value.IsAmount) ∧
    (∀ value ∈ plant.data.maxPower, value.isNumber = true) ∧
    (∀ generator < plant.generators, ∀ instant < plant.horizon, Scalar.atMost
      (plant.minPower generator instant) (plant.maxPower generator instant) = true) ∧
    ∀ value ∈ plant.data.fixedConsumption, value.IsAmount)
    ⟨fun ⟨scale, least, most, order, consumption⟩ => ⟨scale, least, most, order, consumption⟩,
      fun ranged =>
        ⟨ranged.scale, ranged.least, ranged.most, ranged.order, ranged.consumption⟩⟩

theorem Ranged.numeric (ranged : plant.Ranged) : plant.Numeric :=
  ⟨ranged.scale.1, fun value member => (ranged.consumption value member).1⟩

theorem Ranged.limited (ranged : plant.Ranged) : plant.Limited :=
  ⟨fun value member => (ranged.least value member).1, ranged.most⟩

theorem Ranged.isAmount_fixedConsumption (ranged : plant.Ranged) (generator instant : Nat) :
    (plant.fixedConsumption generator instant).IsAmount :=
  plant.data.entry_of_forall ranged.consumption ⟨rfl, rfl⟩ generator instant

/-- A generator that is off consumes no more than it could deliver. -/
def Covers (plant : Plant Exact) (values : VarRef → ℚ) (generator instant : Nat) : Prop :=
  plant.data.commitment = true → plant.setpoint values generator instant .commitment = 0 →
    Scalar.atMost (plant.fixedConsumption generator instant)
      (plant.maxPower generator instant) = true

instance : Decidable (plant.Covers values generator instant) :=
  inferInstanceAs (Decidable (_ → _))

/-- The least that a generator is counted with in the bound of its node. -/
def guaranteed (plant : Plant Exact) (generator instant : Nat) : Exact :=
  if plant.data.commitment then 0 else plant.scale * plant.minPower generator instant

/-- What is consumed while a generator is off is part of what it supplies. -/
theorem supplied_eq_number (values : VarRef → ℚ) {scale fixed : ℚ}
    (scales : plant.scale = .number scale)
    (fixes : plant.fixedConsumption generator instant = .number fixed) :
    plant.supplied values generator instant =
      .number (scale * (plant.setpoint values generator instant .power +
        if plant.data.commitment then
          fixed * (1 - plant.setpoint values generator instant .commitment) else 0)) := by
  have absent (without : plant.hasFixedConsumption = false) : fixed = 0 := by
    have empty : plant.data.fixedConsumption.isEmpty = true := Bool.not_eq_false' .. ▸ without
    rw [fixedConsumption, PlantData.entry, PlantData.entry?, if_pos empty] at fixes
    exact (Exact.number.inj fixes).symm
  unfold Plant.supplied
  rw [scales, fixes]
  change Exact.number scale * (.number (plant.setpoint values generator instant .power) +
    if plant.data.commitment && plant.hasFixedConsumption then
      .number fixed * (1 - .number (plant.setpoint values generator instant .commitment))
    else 0) = _
  cases committed : plant.data.commitment with
  | false => simp [Exact.zero_def]
  | true =>
      cases consumes : plant.hasFixedConsumption with
      | false => simp [absent consumes, Exact.zero_def]
      | true => simp [Exact.one_def, Exact.sub_def, sub_eq_add_neg]

theorem Ranged.supplied_bounded (ranged : plant.Ranged) (furnished : plant.Furnished)
    (late : plant.stage.hasConstraints = true) (kept : plant.model.KeptBy values)
    (generator_lt : generator < plant.generators) (instant_lt : instant < plant.horizon) :
    ∃ low supplied high : ℚ, plant.guaranteed generator instant = .number low ∧
      plant.supplied values generator instant = .number supplied ∧
      plant.scale * plant.maxPower generator instant = .number high ∧
      low ≤ supplied ∧ (plant.Covers values generator instant → supplied ≤ high) := by
  obtain ⟨scale, scales, positive⟩ := ranged.scale.eq_number
  obtain ⟨low, high, leasts, mosts⟩ := ranged.limited.limits generator instant
  obtain ⟨fixed, fixes, consumed⟩ := (ranged.isAmount_fixedConsumption generator instant).eq_number
  have cell := (furnished.keptBy_iff late).mp kept generator generator_lt instant instant_lt
  have supplies := supplied_eq_number values scales fixes
  unfold Covers guaranteed
  rw [scales, leasts, mosts, fixes, Exact.atMost_number, decide_eq_true_iff]
  cases committed : plant.data.commitment with
  | false =>
      have runs := (furnished.keptAt_of_free late generator_lt instant_lt leasts mosts
        committed).mp cell
      rw [committed, if_neg Bool.false_ne_true, add_zero] at supplies
      exact ⟨_, _, _, rfl, supplies, rfl, mul_le_mul_of_nonneg_left runs.least positive,
        fun _ => mul_le_mul_of_nonneg_left runs.power_le positive⟩
  | true =>
      rw [committed, if_pos rfl] at supplies
      rcases (furnished.keptAt_of_committed late generator_lt instant_lt leasts mosts
        committed).mp cell with off | ⟨on, runs⟩
      · have power : plant.setpoint values generator instant .power = 0 := congrFun off .power
        have idle : plant.setpoint values generator instant .commitment = 0 :=
          congrFun off .commitment
        rw [power, idle, sub_zero, mul_one, zero_add] at supplies
        exact ⟨0, _, _, rfl, supplies, rfl, mul_nonneg positive consumed,
          fun covers => mul_le_mul_of_nonneg_left (covers rfl idle) positive⟩
      · rw [on, sub_self, mul_zero, add_zero] at supplies
        exact ⟨0, _, _, rfl, supplies, rfl, mul_nonneg positive runs.power,
          fun _ => mul_le_mul_of_nonneg_left runs.power_le positive⟩

end Plant

namespace Schedule

variable {schedule : Schedule Exact}

theorem suppliedAt_eq (schedule : Schedule Exact) (values : VarRef → ℚ) (instant node : Nat) :
    schedule.suppliedAt values instant node = ((schedule.generatorsAt node).map fun entry =>
      entry.1.supplied values entry.2 instant).sum := by
  rw [generatorsAt_eq, List.map_map, sum_map_filter]
  simp only [beq_iff_eq]
  rfl

theorem minInjection_eq (schedule : Schedule Exact) (instant node : Nat) :
    schedule.minInjection instant node = ((schedule.generatorsAt node).map fun entry =>
      entry.1.guaranteed entry.2 instant).sum := by
  rw [List.sum_eq_foldl, List.foldl_map, minInjection]
  congr
  funext total entry
  unfold Plant.guaranteed
  split
  · exact (add_zero total).symm
  · rfl

theorem maxInjection_eq (schedule : Schedule Exact) (instant node : Nat) :
    schedule.maxInjection instant node = ((schedule.generatorsAt node).map fun entry =>
      entry.1.scale * entry.1.maxPower entry.2 instant).sum := by
  rw [List.sum_eq_foldl, List.foldl_map, maxInjection]

theorem mem_generatorsAt {plant : Plant Exact}
    (member : (plant, generator) ∈ schedule.generatorsAt node) :
    plant ∈ schedule.plants ∧ generator < plant.generators := by
  rw [generatorsAt_eq] at member
  obtain ⟨⟨found, place, number⟩, listed, same⟩ := List.mem_map.mp member
  cases same
  obtain ⟨index, there, generator_lt, -⟩ := mem_generatorPlaces.mp (List.mem_filter.mp listed).1
  exact ⟨List.mem_of_getElem? there, generator_lt⟩

section Node

variable {allowed : Mode → Prop} (arises : schedule.Arises allowed)
  (late : schedule.stage.hasConstraints = true)
  (furnished : schedule.EachPlant Plant.Furnished)
  (ranged : ∀ plant ∈ schedule.plants, plant.Ranged)
  (kept : ∀ plant ∈ schedule.plants, plant.model.KeptBy values)
  (instant_lt : instant < schedule.horizon)

include arises late furnished ranged kept instant_lt

theorem Arises.supplied_bounded {entry : Plant Exact × Nat}
    (member : entry ∈ schedule.generatorsAt node) :
    ∃ low supplied high : ℚ, entry.1.guaranteed entry.2 instant = .number low ∧
      entry.1.supplied values entry.2 instant = .number supplied ∧
      entry.1.scale * entry.1.maxPower entry.2 instant = .number high ∧
      low ≤ supplied ∧ (entry.1.Covers values entry.2 instant → supplied ≤ high) := by
  obtain ⟨present, generator_lt⟩ := mem_generatorsAt member
  have constrained : entry.1.stage.hasConstraints = true :=
    decide_eq_true ((of_decide_eq_true late).trans (arises.paced.plants _ present))
  exact (ranged _ present).supplied_bounded (furnished _ present) constrained (kept _ present)
    generator_lt (by rwa [arises.sound.stocked.horizons _ present])

/-- What is guaranteed at a node is supplied there. -/
theorem Arises.minInjection_le (node : Nat) : ∃ low supplied : ℚ,
    schedule.minInjection instant node = .number low ∧
      schedule.suppliedAt values instant node = .number supplied ∧ low ≤ supplied := by
  rw [minInjection_eq, suppliedAt_eq]
  refine Exact.sum_map_le fun entry member => ?_
  obtain ⟨low, supplied, -, lower, supplies, -, least, -⟩ :=
    arises.supplied_bounded late furnished ranged kept instant_lt member
  exact ⟨low, supplied, lower, supplies, least⟩

/-- No more is supplied at a node than may be, where what is off is covered. -/
theorem Arises.le_maxInjection
    (covers : ∀ entry ∈ schedule.generatorsAt node, entry.1.Covers values entry.2 instant) :
    ∃ supplied high : ℚ, schedule.suppliedAt values instant node = .number supplied ∧
      schedule.maxInjection instant node = .number high ∧ supplied ≤ high := by
  rw [maxInjection_eq, suppliedAt_eq]
  refine Exact.sum_map_le fun entry member => ?_
  obtain ⟨-, supplied, high, -, supplies, upper, -, most⟩ :=
    arises.supplied_bounded late furnished ranged kept instant_lt member
  exact ⟨supplied, high, supplies, upper, most (covers entry member)⟩

end Node

theorem Arises.count_networks {allowed : Mode → Prop} (arises : schedule.Arises allowed)
    (several : 1 < schedule.nodes) : schedule.networks.length = schedule.horizon := by
  cases bus : schedule.isBus with
  | false => exact arises.sound.stocked.count bus
  | true =>
      have none : schedule.networks = [] := List.isEmpty_iff.mp bus
      rcases arises.sound.stocked.single bus with single | instants
      · exact absurd several (by omega)
      · rw [none, instants]
        rfl

/-- The box of an injection has the bounds of its node. -/
theorem Arises.injectionBox (arises : schedule.Arises fun mode => mode.writes = true)
    (late : schedule.stage.hasConstraints = true) {network : Network Exact}
    (found : schedule.networks[instant]? = some network) (node_lt : node < schedule.nodes) :
    ∃ box, network.rows.injectionBounds.get? 0 node = some box ∧
      network.injectionVar? 0 node = some box.var ∧ box.var = network.injection 0 node ∧
      Agrees (schedule.minInjection instant node) box.lhs ∧
      Agrees (schedule.maxInjection instant node) box.rhs := by
  have writes : ∀ mode : Mode, mode.writes = true → mode.writes = true := fun _ writes => writes
  have member := List.mem_of_getElem? found
  obtain ⟨topology, checked, rows, sibling⟩ := arises.networkRows writes late member
  obtain ⟨intervals, nodes⟩ := arises.network_shape member
  have extent := arises.sound.stocked.extents network member
  obtain ⟨lowest, highest, low, high, least, most, there, held, lows, highs⟩ :=
    (arises.mirrored.settled late instant network found).agrees (extent ▸ node_lt)
  rw [Schedule.minima, List.getElem?_map, List.getElem?_range node_lt] at least
  rw [Schedule.maxima, List.getElem?_map, List.getElem?_range node_lt] at most
  cases least
  cases most
  have width : topology.nodes = schedule.nodes := sibling.nodes.symm.trans nodes
  refine ⟨network.boundsBox topology.nodes 0 node, ?_,
    sibling.injectionVar? (Stage.hasVariables_of_late late) node, rfl, ?_, ?_⟩
  · rw [rows]
    exact Family.get?_tabulate (by rw [intervals]; decide) (width ▸ node_lt)
  · change Agrees _ (network.minInjection.getD (0 * topology.nodes + node) 0)
    rw [Nat.zero_mul, Nat.zero_add, List.getD_eq_getElem?_getD, there]
    exact lows
  · change Agrees _ (network.maxInjection.getD (0 * topology.nodes + node) 0)
    rw [Nat.zero_mul, Nat.zero_add, List.getD_eq_getElem?_getD, held]
    exact highs

/-- While all modes write, an injection that balances its node is not below its bounds; nor is it
above them where every generator there that is off consumes no more than it could deliver. -/
theorem Formed.injection_bounded (formed : schedule.Formed fun mode => mode.writes = true)
    (late : schedule.stage.hasConstraints = true) (several : 1 < schedule.nodes)
    (ranged : ∀ plant ∈ schedule.plants, plant.Ranged)
    (kept : ∀ plant ∈ schedule.plants, plant.model.KeptBy values)
    (nodes : ∀ link ∈ schedule.links, link.kind = .balance →
      ∀ row ∈ link.rows.items, row.Met values) :
    schedule.networks.length = schedule.horizon ∧
      ∀ (instant : Nat) (network : Network Exact),
        schedule.networks[instant]? = some network → ∀ node < schedule.nodes,
          ∃ box, network.rows.injectionBounds.get? 0 node = some box ∧
            network.injectionVar? 0 node = some box.var ∧
            Scalar.atMost box.lhs (.number (values box.var)) = true ∧
            ((∀ entry ∈ schedule.generatorsAt node, entry.1.Covers values entry.2 instant) →
              (Constraint.box box).KeptBy values) := by
  have writes : ∀ mode : Mode, mode.writes = true → mode.writes = true := fun _ writes => writes
  have arises := formed.arises
  have furnished := formed.furnished
  have count := arises.count_networks several
  refine ⟨count, fun instant network found node node_lt => ?_⟩
  have instant_lt : instant < schedule.horizon := count ▸ (List.getElem?_eq_some_iff.mp found).1
  have networked := (arises.sound.network_at several instant_lt).1
  obtain ⟨box, present, injection, var, lows, highs⟩ := arises.injectionBox late found node_lt
  have balanced := arises.suppliedAt_of_nodes writes late
    (fun plant member => (ranged plant member).numeric) nodes networked found instant_lt node_lt
  rw [← var] at balanced
  obtain ⟨low, supplied, lower, supplies, least⟩ :=
    arises.minInjection_le late furnished ranged kept instant_lt node
  obtain rfl : supplied = values box.var := Exact.number.inj (supplies.symm.trans balanced)
  have lhs : box.lhs = .number low := Exact.eq_of_agrees_number (lower ▸ Exact.agrees_symm lows)
  have above : Scalar.atMost box.lhs (.number (values box.var)) = true := by
    rw [lhs, Exact.atMost_number, decide_eq_true_iff]
    exact least
  refine ⟨box, present, injection, above, fun covers => Box.keptBy.mpr ⟨above, ?_⟩⟩
  obtain ⟨_, high, same, upper, most⟩ :=
    arises.le_maxInjection late furnished ranged kept instant_lt covers
  obtain rfl := Exact.number.inj (same.symm.trans balanced)
  have rhs : box.rhs = .number high := Exact.eq_of_agrees_number (upper ▸ Exact.agrees_symm highs)
  rw [rhs, Exact.atMost_number, decide_eq_true_iff]
  exact most

/-- The committed generator is off, and half a unit of each of its two copies is injected. -/
def coveredValues (var : VarRef) : ℚ :=
  match var.block.number, var.slot with
  | 2, 0 => 1
  | 3, 0 => 1
  | 3, 1 => 1
  | _, _ => 0

theorem formed_strait : strait.Formed fun mode => mode.writes = true := by
  have plant (id : BlockId) (commitment : Bool) :
      (Plant.ofData id (straitData commitment) : Plant Exact).Formed :=
    .start (.ofData id (by simp [PlantData.Shaped, PlantData.profiles]) 1 Layouts.none)
  have start : (ofHorizon ⟨0⟩ 1 : Schedule Exact).Formed fun mode => mode.writes = true :=
    .start (.ofHorizon ⟨0⟩ 1)
  have filled := (start.step (.addPlant _) (plant ⟨1⟩ true)).step (.addPlant _) (plant ⟨2⟩ false)
  exact filled.setNetwork trivial
    (show Schedule.setNetwork _ straitLine [0, 1] 3 = (.ok strait, 4) from rfl)

theorem Formed.injection_bounded_strait :
    let generated := (Schedule.generateObjective (Schedule.generateConstraints
      (Schedule.generateVariables strait).state).state).state
    let scaled := (Schedule.scalePlantAt 0 (.range 0 1) [.number 2] .quiet .quiet generated).state
    scaled.Formed (fun mode => mode.writes = true) ∧ scaled.stage.hasConstraints = true ∧
      1 < scaled.nodes ∧ (∀ plant ∈ scaled.plants, plant.Ranged) ∧
      (∀ plant ∈ scaled.plants, plant.model.KeptBy coveredValues) ∧
      (∀ link ∈ scaled.links, link.kind = .balance →
        ∀ row ∈ link.rows.items, row.Met coveredValues) ∧
      scaled.networks.length = 1 ∧ ∀ network ∈ scaled.networks[0]?, ∀ node < 2,
        ∃ box, network.rows.injectionBounds.get? 0 node = some box ∧
          (Constraint.box box).KeptBy coveredValues := by
  intro generated scaled
  have built : generated.Formed fun mode => mode.writes = true :=
    formed_strait.calls [.generateVariables, .generateConstraints, .generateObjective]
      (by simp [Operation.Within])
  have formed : scaled.Formed fun mode => mode.writes = true :=
    built.step (.call (.scalePlantAt 0 (.range 0 1) [.number 2] .quiet .quiet)) rfl
  have late : scaled.stage.hasConstraints = true := by decide +kernel
  have several : 1 < scaled.nodes := by decide +kernel
  have ranged : ∀ plant ∈ scaled.plants, plant.Ranged := by decide +kernel
  have kept : ∀ plant ∈ scaled.plants, plant.model.KeptBy coveredValues := by decide +kernel
  have nodes : ∀ link ∈ scaled.links, link.kind = .balance →
      ∀ row ∈ link.rows.items, row.Met coveredValues := by decide +kernel
  have covers : ∀ node < 2, ∀ entry ∈ scaled.generatorsAt node,
      entry.1.Covers coveredValues entry.2 0 := by decide +kernel
  obtain ⟨count, bounded⟩ := injection_bounded formed late several ranged kept nodes
  refine ⟨formed, late, several, ranged, kept, nodes,
    count.trans (by decide +kernel), fun network found node node_lt => ?_⟩
  obtain ⟨box, present, -, -, within⟩ :=
    bounded 0 network found node (node_lt.trans_eq (by decide +kernel))
  exact ⟨box, present, within (covers node node_lt)⟩

/-! A generator that consumes more while it is off than it could deliver. Its node injects five
units where its bounds allow one. -/

def thirstyData : PlantData Exact :=
  { straitData true with maxPower := [1], fixedConsumption := [.number 5] }

def thirsty : Schedule Exact :=
  { (ofHorizon ⟨0⟩ 1 : Schedule Exact) with
    nodes := 2
    plants := [{ Plant.ofData ⟨1⟩ thirstyData with notifier := .own ⟨0⟩ }]
    networks := [{ (Network.bus ⟨2⟩).attach (.shared straitLine) with notifier := .own ⟨0⟩ }]
    generatorNode := [0] }

theorem formed_thirsty : thirsty.Formed fun mode => mode.writes = true := by
  have plant : (Plant.ofData ⟨1⟩ thirstyData : Plant Exact).Formed :=
    .start (.ofData ⟨1⟩ (by simp [PlantData.Shaped, PlantData.profiles, straitData]) 1
      Layouts.none)
  have start : (ofHorizon ⟨0⟩ 1 : Schedule Exact).Formed fun mode => mode.writes = true :=
    .start (.ofHorizon ⟨0⟩ 1)
  exact (start.step (.addPlant _) plant).setNetwork trivial
    (show Schedule.setNetwork _ straitLine [0] 2 = (.ok thirsty, 3) from rfl)

def thirstyValues (var : VarRef) : ℚ :=
  match var.block.number, var.slot with
  | 2, 0 => 5
  | _, _ => 0

theorem injection_unbounded_thirsty :
    ¬∀ (schedule : Schedule Exact) (values : VarRef → ℚ),
      schedule.Formed (fun mode => mode.writes = true) → schedule.stage.hasConstraints = true →
      1 < schedule.nodes → (∀ plant ∈ schedule.plants, plant.Ranged) →
      (∀ plant ∈ schedule.plants, plant.model.KeptBy values) →
      (∀ link ∈ schedule.links, link.kind = .balance →
        ∀ row ∈ link.rows.items, row.Met values) →
      ∀ network ∈ schedule.networks, ∀ box ∈ network.rows.injectionBounds.items,
        (Constraint.box box).KeptBy values := by
  intro bounded
  let generated := (Schedule.generateConstraints (Schedule.generateVariables thirsty).state).state
  have formed : generated.Formed fun mode => mode.writes = true :=
    formed_thirsty.calls [.generateVariables, .generateConstraints] (by simp [Operation.Within])
  have every := bounded generated thirstyValues formed
    (by decide +kernel) (by decide +kernel) (by decide +kernel) (by decide +kernel)
    (by decide +kernel)
  have outside : ¬∀ network ∈ generated.networks, ∀ box ∈ network.rows.injectionBounds.items,
      (Constraint.box box).KeptBy thirstyValues := by decide +kernel
  exact outside every

end Schedule

end Dispatch
