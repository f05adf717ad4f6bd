import Dispatch.Proofs.Change.Selection
import Dispatch.Proofs.Schedule.Links
import Dispatch.Schedule.Update

namespace Dispatch

/-! What the linking families read of a schedule. Members may move on in everything else. -/

variable {K : Type}

/-- The part of a plant that the rows of its parent read. -/
def Plant.core (plant : Plant K) : Plant K :=
  { plant with
    stage := .empty
    settings := none
    notifier := .own plant.id
    store := Store.empty plant.store.block
    powerBounds := Family.empty "power_bounds" plant.data.horizon
    minPowerRows := Family.empty "min_power" plant.data.horizon
    maxPowerRows := Family.empty "max_power" plant.data.horizon
    objective := none }

namespace Schedule

variable [Scalar K]

omit [Scalar K] in
theorem networks_congr {first second : Schedule K}
    (injections : first.networks.map Network.injectionVar? =
      second.networks.map Network.injectionVar?) :
    first.networks.length = second.networks.length := by
  simpa using congrArg List.length injections

omit [Scalar K] in
theorem isBus_of_length {M : Type} {first : Schedule K} {second : Schedule M}
    (count : first.networks.length = second.networks.length) : first.isBus = second.isBus := by
  rw [Schedule.isBus, Schedule.isBus, Bool.eq_iff_iff, List.isEmpty_iff_length_eq_zero,
    List.isEmpty_iff_length_eq_zero, count]

omit [Scalar K] in
theorem isBus_congr {first second : Schedule K}
    (injections : first.networks.map Network.injectionVar? =
      second.networks.map Network.injectionVar?) : first.isBus = second.isBus :=
  isBus_of_length (networks_congr injections)

/-- Rows start with the injections of the networks and with nothing else. -/
theorem linkHead_congr {first second : Schedule K}
    (injections : first.networks.map Network.injectionVar? =
      second.networks.map Network.injectionVar?) (row : LinkRow) :
    first.linkHead row = second.linkHead row := by
  have injection (instant node : Nat) :
      (first.networks[instant]?.bind fun network => network.injectionVar? 0 node) =
        second.networks[instant]?.bind fun network => network.injectionVar? 0 node := by
    have throughVars (schedule : Schedule K) :
        (schedule.networks[instant]?.bind fun network => network.injectionVar? 0 node) =
          (schedule.networks.map Network.injectionVar?)[instant]?.bind
            fun injectionVar? => injectionVar? 0 node := by
      rw [List.getElem?_map]
      cases schedule.networks[instant]? <;> rfl
    rw [throughVars, throughVars, injections]
  cases row with
  | balance instant node => simp only [linkHead, isBus_congr injections, injection]
  | zonal need instant zone => rfl
  | budget pollutant zone => rfl

structure Agree (first second : Schedule K) : Prop where
  horizon : first.horizon = second.horizon
  nodes : first.nodes = second.nodes
  generatorNode : first.generatorNode = second.generatorNode
  zoning : ∀ need, first.zoning need = second.zoning need
  emissions : first.emissions = second.emissions
  cores : first.plants.map Plant.core = second.plants.map Plant.core
  injections : first.networks.map Network.injectionVar? =
    second.networks.map Network.injectionVar?
  /-- With networks the rows read no demand. -/
  demand : first.isBus = true → first.demand = second.demand

namespace Agree

variable {first second : Schedule K}

omit [Scalar K] in
theorem sameLayout (agree : Agree first second) : SameLayout first second where
  horizon := agree.horizon
  nodes := agree.nodes
  generatorNode := agree.generatorNode
  zoning := agree.zoning
  emissions := agree.emissions
  generators := by
    have counts (plants : List (Plant K)) :
        plants.map Plant.generators = (plants.map Plant.core).map Plant.generators := by
      rw [List.map_map]
      rfl
    rw [counts first.plants, agree.cores, ← counts]

omit [Scalar K] in
theorem isBus (agree : Agree first second) : first.isBus = second.isBus :=
  isBus_congr agree.injections

theorem heads (agree : Agree first second) (row : LinkRow) :
    first.linkHead row = second.linkHead row :=
  linkHead_congr agree.injections row

theorem runs (agree : Agree first second) (row : LinkRow) :
    first.runs row = second.runs row := by
  have throughCores (schedule : Schedule K) : schedule.runs row =
      (schedule.plants.map Plant.core).mapIdx fun index plant =>
        schedule.plantTerms index plant row := by
    apply List.ext_getElem?
    intro index
    simp only [Schedule.runs, List.getElem?_mapIdx, List.getElem?_map, Option.map_map]
    rfl
  rw [throughCores, throughCores, agree.cores]
  congr 1
  funext index plant
  exact agree.sameLayout.plantTerms index plant row

theorem fixedConsumption (agree : Agree first second) (instant node : Nat) :
    (first.plants.mapIdx fun index plant =>
        first.fixedConsumption index plant instant node) =
      second.plants.mapIdx fun index plant =>
        second.fixedConsumption index plant instant node := by
  have throughCores (schedule : Schedule K) : (schedule.plants.mapIdx fun index plant =>
        schedule.fixedConsumption index plant instant node) =
      (schedule.plants.map Plant.core).mapIdx fun index plant =>
        schedule.fixedConsumption index plant instant node := by
    apply List.ext_getElem?
    intro index
    simp only [List.getElem?_mapIdx, List.getElem?_map, Option.map_map]
    rfl
  rw [throughCores, throughCores, agree.cores]
  congr 1
  funext index plant
  exact agree.sameLayout.fixedConsumption index plant instant node

theorem balanceLevel (agree : Agree first second) (instant node : Nat) :
    first.balanceLevel instant node = second.balanceLevel instant node := by
  unfold Schedule.balanceLevel
  rw [agree.fixedConsumption, ← agree.isBus]
  dsimp only
  split
  · rename_i bus
    unfold demandAt
    rw [agree.demand bus, agree.horizon]
  · rfl

theorem linkBounds (agree : Agree first second) (row : LinkRow) :
    first.linkBounds row = second.linkBounds row := by
  cases row with
  | balance instant node => simp only [Schedule.linkBounds, agree.balanceLevel]
  | zonal need instant zone => simp only [Schedule.linkBounds, agree.zoning, agree.horizon]
  | budget pollutant zone => simp only [Schedule.linkBounds, agree.emissions]

theorem rowOf (agree : Agree first second) (row : LinkRow) :
    first.rowOf row = second.rowOf row := by
  unfold Schedule.rowOf headOf
  rw [agree.heads, agree.runs, agree.linkBounds]

theorem linkOf (agree : Agree first second) (kind : LinkKind) :
    first.linkOf kind = second.linkOf kind := by
  have spans : first.enterSpans = second.enterSpans := by
    funext spans row
    have head : first.headLength row = second.headLength row := by
      cases row <;> simp only [headLength, agree.isBus]
    simp only [enterSpans, head, agree.sameLayout.shape.rowKey, agree.runs]
  have lengths : first.plants.length = second.plants.length := by
    simpa using congrArg List.length agree.cores
  have empty : first.emptySpans kind = second.emptySpans kind := by
    simp only [emptySpans, agree.sameLayout.shape.linkKeys, List.map_const', lengths]
  simp only [Schedule.linkOf, spansOf, agree.sameLayout.shape.linkRows,
    agree.sameLayout.shape.linkCols, spans, empty, funext agree.rowOf]

theorem linksNow (agree : Agree first second) : first.linksNow = second.linksNow := by
  simp only [Schedule.linksNow, funext agree.linkOf]

theorem hasHeads (agree : Agree first second) (heads : second.HasHeads) :
    first.HasHeads := by
  intro kind row member
  rw [agree.sameLayout.shape.linkRows] at member
  rw [agree.heads]
  exact heads kind row member

theorem linksOf (agree : Agree first second) {links : List (Link K)}
    (generated : second.linksOf = .ok links) : first.linksOf = .ok links := by
  obtain ⟨heads, rfl⟩ := linksOf_ok.mp generated
  exact linksOf_ok.mpr ⟨agree.hasHeads heads, agree.linksNow.symm⟩

end Agree

def withDemand (schedule : Schedule K) (demand : List K) : Schedule K :=
  { schedule with demand }

private theorem linkOf_withDemand (schedule : Schedule K) (demand : List K)
    {kind : LinkKind} (other : kind ≠ .balance) :
    (schedule.withDemand demand).linkOf kind = schedule.linkOf kind := by
  have rows : ((schedule.withDemand demand).linkRows kind).map
      (schedule.withDemand demand).rowOf = (schedule.linkRows kind).map schedule.rowOf := by
    refine List.map_congr_left fun row member => ?_
    cases kind with
    | balance => exact absurd rfl other
    | zonal need =>
        obtain ⟨_, _, _, _, rfl⟩ := Family.mem_table.mp member
        rfl
    | budget =>
        obtain ⟨_, _, rfl⟩ := List.mem_map.mp member
        rfl
  unfold linkOf
  rw [rows]
  rfl

private theorem balance_patched {schedule : Schedule K} (bus : schedule.isBus = true)
    (single : schedule.nodes ≤ 1 ∨ schedule.horizon = 0) {demand : List K}
    {instants : List Nat}
    (elsewhere : ∀ instant ∉ instants, demand.getD instant 0 = schedule.demand.getD instant 0) :
    instants.foldl
        (fun rows instant => Family.modify rows instant 0
          (Row.setBoth ((schedule.withDemand demand).balanceLevel instant 0)))
        (schedule.linkOf .balance).rows =
      ((schedule.withDemand demand).linkOf .balance).rows := by
  have tabulated (s : Schedule K) : (s.linkOf .balance).rows =
      Family.tabulate LinkKind.balance.familyName s.horizon s.nodes
        fun instant node => s.rowOf (.balance instant node) := by
    simp [linkOf, linkRows, linkCols, Family.tabulate, Family.table, List.map_flatMap,
      Function.comp_def]
  rw [tabulated, tabulated]
  refine (Family.foldl_modify_tabulate _ _ _
    (fun instant _ => Row.setBoth ((schedule.withDemand demand).balanceLevel instant 0))
    (fun _ _ _ => rfl) instants (fun instant => (instant, 0)) _).trans ?_
  refine Family.tabulate_congr fun instant instant_lt node node_lt => ?_
  have only : node = 0 := by omega
  subst only
  by_cases member : instant ∈ instants
  · rw [if_pos (List.mem_map_of_mem member)]
    rfl
  · rw [if_neg (by simpa using member)]
    have level : (schedule.withDemand demand).balanceLevel instant 0 =
        schedule.balanceLevel instant 0 := by
      have same := elsewhere instant member
      have bus' : (schedule.withDemand demand).isBus = true := bus
      unfold balanceLevel demandAt
      simp only [bus, bus', if_true, Nat.zero_mul, Nat.zero_add]
      rw [show (schedule.withDemand demand).demand = demand from rfl, same]
      rfl
    have bounds : (schedule.withDemand demand).linkBounds (.balance instant 0) =
        schedule.linkBounds (.balance instant 0) := by
      simp only [linkBounds, level]
    unfold rowOf
    rw [bounds]
    rfl

/-- The balance rows of the instants named follow a new demand of a bus. -/
theorem patchBusBalance_linksNow {schedule : Schedule K} (bus : schedule.isBus = true)
    (single : schedule.nodes ≤ 1 ∨ schedule.horizon = 0)
    (generated : schedule.links = schedule.linksNow) {demand : List K}
    {instants : List Nat}
    (elsewhere : ∀ instant ∉ instants, demand.getD instant 0 = schedule.demand.getD instant 0) :
    (schedule.withDemand demand).patchBusBalance instants =
      { schedule.withDemand demand with
        links := (schedule.withDemand demand).linksNow } := by
  let after := schedule.withDemand demand
  let patch (link : Link K) : Link K :=
    if link.kind == .balance then
      { link with
        rows := instants.foldl
          (fun rows instant =>
            Family.modify rows instant 0 (Row.setBoth (after.balanceLevel instant 0)))
          link.rows }
    else link
  have each (kind : LinkKind) : patch (schedule.linkOf kind) = after.linkOf kind := by
    by_cases balance : kind = .balance
    · subst balance
      have rows := balance_patched bus single elsewhere
      exact congrArg (fun rows => ({ schedule.linkOf .balance with rows } : Link K)) rows
    · have other : ((schedule.linkOf kind).kind == .balance) = false := by
        simpa [linkOf] using balance
      simp only [patch, other]
      exact (linkOf_withDemand schedule demand balance).symm
  have alike : (fun link : Link K => !link.rows.isEmpty) ∘ schedule.linkOf =
      (fun link : Link K => !link.rows.isEmpty) ∘ after.linkOf := by
    funext kind
    have rows : after.linkRows kind = schedule.linkRows kind := by cases kind <;> rfl
    simp [linkOf, Family.isEmpty, rows]
  have links : schedule.links.map patch = after.linksNow := by
    rw [generated, linksNow, linksNow, List.filter_map, List.filter_map, List.map_map, alike]
    exact congrArg (fun f => List.map f _) (funext each)
  exact congrArg (fun links => ({ after with links } : Schedule K)) links

end Schedule

end Dispatch
