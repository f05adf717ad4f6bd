import Dispatch.Proofs.Attempt.NetworkRows
import Dispatch.Proofs.Attempt.Rescale
import Dispatch.Proofs.Closure.Schedule

namespace Dispatch

/-! Linking rows with all of their lookups: cells of plants and networks, demands, budgets and
the columns of the term index, entered row by row as the families are built. -/

variable {K : Type}

/-- The first entries, if there are that many. -/
def Lookup.prefix? {α : Type} (values : List α) (count : Nat) : Option (List α) :=
  if count ≤ values.length then some (values.take count) else none

theorem Lookup.prefix?_eq {α : Type} {values : List α} {count : Nat}
    (within : count ≤ values.length) : prefix? values count = some (values.take count) :=
  if_pos within

def Lookup.put? {α : Type} (values : List α) (index : Nat) (value : α) : Option (List α) :=
  if index < values.length then some (values.set index value) else none

theorem Lookup.put?_eq {α : Type} {values : List α} {index : Nat}
    (within : index < values.length) (value : α) :
    put? values index value = some (values.set index value) :=
  if_pos within

theorem Lookup.mapM_congr {α β : Type} {first second : α → Option β} {items : List α}
    (agree : ∀ item ∈ items, first item = second item) : items.mapM first = items.mapM second := by
  induction items with
  | nil => rfl
  | cons item rest induction =>
      rw [List.mapM_cons, List.mapM_cons, agree item List.mem_cons_self,
        induction fun other member => agree other (List.mem_cons_of_mem _ member)]

def Zoning.level? [Zero K] (zoning : Zoning K) (horizon zone instant : Nat) : Option K :=
  if zoning.demand.isEmpty then some 0 else zoning.demand[zone * horizon + instant]?

def Emissions.offset? (emissions : Emissions K) (pollutant : Nat) : Option Nat :=
  (Lookup.prefix? emissions.zoneCounts pollutant).map fun counts => counts.foldr (· + ·) 0

namespace Schedule

variable [Scalar K]

/-- The grids that the terms of a generator in a row are taken from. -/
def termGrids (plant : Plant K) : LinkRow → List Grid
  | .balance _ _ =>
      plant.activePower :: (if plant.hasFixedConsumption then [plant.commitment] else [])
  | .zonal .primary _ _ => [plant.primaryReserve]
  | .zonal .secondary _ _ => [plant.secondaryReserve]
  | .zonal .inertia _ _ =>
      (if plant.hasInertiaCommitment then [plant.commitment] else []) ++
        (if plant.hasInertiaPower then [plant.activePower] else [])
  | .budget _ _ => [plant.activePower]

/-- Terms that are asked for only where the grids have their cells. -/
def guarded? (plant : Plant K) (row : LinkRow) (instant : Nat)
    (terms? : Nat → Option (List (VarRef × K))) (generator : Nat) :
    Option (List (VarRef × K)) := do
  let _ ← (termGrids plant row).mapM fun grid =>
    plant.store.optionalAt? grid generator instant
  terms? generator

def plantRun? (schedule : Schedule K) (index : Nat) (plant : Plant K) (row : LinkRow) :
    Option (List (VarRef × K)) := do
  let offset := ((← Lookup.prefix? schedule.plants index).map Plant.generators).sum
  match row with
  | .balance instant node =>
      schedule.generatorTerms? index plant (fun place => some (place == node))
        (guarded? plant row instant fun generator => balanceTerms? plant generator instant)
  | .zonal need instant zone =>
      schedule.generatorTerms? index plant
        (fun place => do return (← (schedule.zoning need).zoneAt? place) == some zone)
        (guarded? plant row instant fun generator => needTerms? plant need generator instant)
  | .budget pollutant zone =>
      Lookup.gather? (fun instant =>
        schedule.generatorTerms? index plant
          (fun place => do
            return (← schedule.emissions.zoneAt? schedule.nodes pollutant place) == some zone)
          (guarded? plant row instant fun generator =>
            schedule.budgetTerms? plant offset generator pollutant instant))
        (List.range schedule.horizon)

def runs? (schedule : Schedule K) (row : LinkRow) : Option (List (List (VarRef × K))) :=
  schedule.plants.zipIdx.mapM fun entry => schedule.plantRun? entry.2 entry.1 row

/-- The network of the instant has to be there; without variables it refuses. -/
def linkHead? (schedule : Schedule K) (row : LinkRow) : Trial (List (VarRef × K)) :=
  match row with
  | .balance instant node =>
      if schedule.isBus then return []
      else do
        let network ← Trial.look schedule.networks[instant]?
        match ← Trial.look (network.store.optionalAt? network.nodeInjection 0 node) with
        | some injection => return [(injection, -1)]
        | none => Trial.refuse (.invalidTopology (.noInjectionVariables instant))
  | _ => return []

def linkBounds? (schedule : Schedule K) (row : LinkRow) : Option (K × K) :=
  match row with
  | .balance instant node => do
      let level ← schedule.balanceLevel? instant node
      return (level, level)
  | .zonal need instant zone => do
      return (← (schedule.zoning need).level? schedule.horizon zone instant, Scalar.infinity)
  | .budget pollutant zone => do
      let offset ← schedule.emissions.offset? pollutant
      return (-Scalar.infinity, ← schedule.emissions.budget[offset + zone]?)

def rowKey? (schedule : Schedule K) : LinkRow → Option Nat
  | .balance _ node => some node
  | .zonal _ _ zone => some zone
  | .budget pollutant zone =>
      (schedule.emissions.offset? pollutant).map fun offset => offset + zone

/-- A row, and the term index with the positions of its runs entered under its key. -/
def enterRow? (schedule : Schedule K) (spans : List (List Span)) (row : LinkRow) :
    Trial (Row K × List (List Span)) := do
  let key ← Trial.look (schedule.rowKey? row)
  let head ← schedule.linkHead? row
  let runs ← Trial.look (schedule.runs? row)
  let spans ← Trial.look ((spans.zip (spansFrom head.length runs)).mapM fun entry =>
    Lookup.put? entry.1 key entry.2)
  let bounds ← Trial.look (schedule.linkBounds? row)
  return (⟨.ofTerms (head ++ runs.flatten), bounds.1, bounds.2⟩, spans)

def enterRows? (schedule : Schedule K) :
    List (List Span) → List LinkRow → Trial (List (Row K) × List (List Span))
  | spans, [] => return ([], spans)
  | spans, row :: rest => do
      let (item, spans) ← schedule.enterRow? spans row
      let (items, spans) ← enterRows? schedule spans rest
      return (item :: items, spans)

def family? (schedule : Schedule K) (kind : LinkKind) : Trial (Link K) := do
  let (items, spans) ← schedule.enterRows? (schedule.emptySpans kind) (schedule.linkRows kind)
  return { kind, rows := ⟨kind.familyName, schedule.linkCols kind, items⟩, spans }

def families? (schedule : Schedule K) : Trial (List (Link K)) := do
  let links ← LinkKind.all.mapM schedule.family?
  return links.filter fun link => !link.rows.isEmpty

/-- What the rows look into, as the validation leaves it. -/
structure Linkable (schedule : Schedule K) : Prop where
  filled : schedule.Filled
  placed : schedule.Placed
  grounded : schedule.Grounded
  count : schedule.isBus = false → schedule.networks.length = schedule.horizon
  demand : ∀ need, (schedule.zoning need).demand = [] ∨
    (schedule.zoning need).demand.length = (schedule.zoning need).count * schedule.horizon
  budget : 0 < schedule.emissions.pollutants →
    schedule.emissions.budget.length = schedule.emissions.totalZones

variable {schedule : Schedule K} (linkable : schedule.Linkable)

omit [Scalar K] in
theorem termGrids_subset (plant : Plant K) (row : LinkRow) :
    ∀ grid ∈ termGrids plant row, grid ∈ plant.grids := by
  intro grid member
  rcases row with _ | ⟨need, _, _⟩ | _
  · grind [termGrids, Plant.grids]
  · cases need <;> grind [termGrids, Plant.grids]
  · grind [termGrids, Plant.grids]

omit [Scalar K] in
theorem guarded?_eq {plant : Plant K} (grounded : plant.Grounded) (row : LinkRow)
    {generator instant : Nat} (generator_lt : generator < plant.generators)
    (instant_lt : instant < plant.horizon) (terms? : Nat → Option (List (VarRef × K))) :
    guarded? plant row instant terms? generator = terms? generator := by
  unfold guarded?
  rw [Lookup.mapM_eq_some fun grid member => Plant.grid_optionalAt? grounded generator_lt
    instant_lt (termGrids_subset plant row grid member)]
  rfl

omit [Scalar K] in
theorem generatorTerms?_congr (schedule : Schedule K) (index : Nat) (plant : Plant K)
    (belongs? : Nat → Option Bool) {first second : Nat → Option (List (VarRef × K))}
    (agree : ∀ generator < plant.generators, first generator = second generator) :
    schedule.generatorTerms? index plant belongs? first =
      schedule.generatorTerms? index plant belongs? second := by
  unfold generatorTerms?
  refine congrArg (· >>= _) (Lookup.mapM_congr fun generator member => ?_)
  rw [agree generator (List.mem_range.mp member)]

include linkable in
theorem plantRun?_eq {index : Nat} {plant : Plant K}
    (found : schedule.plants[index]? = some plant) {kind : LinkKind} {row : LinkRow}
    (member : row ∈ schedule.linkRows kind) :
    schedule.plantRun? index plant row = some (schedule.plantTerms index plant row) := by
  have present := List.mem_of_getElem? found
  have grounded := linkable.grounded.plants plant present
  have horizon := linkable.filled.horizons plant present
  have offset := Lookup.prefix?_eq (List.getElem?_eq_some_iff.mp found).1.le
  rw [← plantTerms?_eq linkable.filled linkable.placed found member]
  unfold plantRun?
  rw [offset]
  cases kind with
  | balance =>
      obtain ⟨instant, instant_lt, node, _, rfl⟩ := Family.mem_table.mp member
      exact generatorTerms?_congr schedule index plant _ fun generator generator_lt =>
        guarded?_eq grounded _ generator_lt (horizon ▸ instant_lt) _
  | zonal need =>
      obtain ⟨instant, instant_lt, zone, _, rfl⟩ := Family.mem_table.mp member
      exact generatorTerms?_congr schedule index plant _ fun generator generator_lt =>
        guarded?_eq grounded _ generator_lt (horizon ▸ instant_lt) _
  | budget =>
      obtain ⟨⟨pollutant, zone⟩, _, rfl⟩ := List.mem_map.mp member
      refine congrArg (· >>= fun entries => some entries.flatten)
        (Lookup.mapM_congr fun instant instants => ?_)
      exact generatorTerms?_congr schedule index plant _ fun generator generator_lt =>
        guarded?_eq grounded _ generator_lt (horizon ▸ List.mem_range.mp instants) _

include linkable in
theorem runs?_eq {kind : LinkKind} {row : LinkRow} (member : row ∈ schedule.linkRows kind) :
    schedule.runs? row = some (schedule.runs row) := by
  unfold runs? runs
  rw [List.mapIdx_eq_zipIdx_map]
  exact Lookup.mapM_eq_some fun entry listed =>
    plantRun?_eq linkable (List.mem_zipIdx_iff_getElem?.mp listed) member

include linkable in
theorem completes_linkHead {kind : LinkKind} {row : LinkRow}
    (member : row ∈ schedule.linkRows kind) :
    (schedule.linkHead? row).Completes (schedule.linkHead row) := by
  cases kind with
  | balance =>
      obtain ⟨instant, instant_lt, node, node_lt, rfl⟩ := Family.mem_table.mp member
      unfold linkHead? linkHead
      refine Trial.Completes.ite (fun _ => rfl) fun several => ?_
      have within : instant < schedule.networks.length := by
        rw [linkable.count (by simpa using several)]
        exact instant_lt
      have found := List.getElem?_eq_getElem within
      have present := List.getElem_mem within
      obtain ⟨intervals, nodes⟩ := linkable.grounded.sizes _ present
      have injections := (linkable.grounded.networks _ present).injections
      rw [intervals, nodes] at injections
      rw [found]
      refine Trial.Completes.look rfl ?_
      refine Trial.Completes.look (injections.optionalAt? Nat.zero_lt_one node_lt) ?_
      dsimp only [Option.bind_some]
      unfold Network.injectionVar?
      cases schedule.networks[instant].store.cell? _ 0 node <;> rfl
  | zonal need =>
      obtain ⟨_, _, _, _, rfl⟩ := Family.mem_table.mp member
      rfl
  | budget =>
      obtain ⟨_, _, rfl⟩ := List.mem_map.mp member
      rfl

omit [Scalar K] in
theorem offset?_eq {emissions : Emissions K} {pollutant : Nat}
    (pollutant_lt : pollutant < emissions.pollutants) :
    emissions.offset? pollutant = some (emissions.offset pollutant) := by
  unfold Emissions.offset?
  rw [Lookup.prefix?_eq (Nat.le_of_lt pollutant_lt)]
  rfl

omit [Scalar K] in
theorem rowKey?_eq {kind : LinkKind} {row : LinkRow} (member : row ∈ schedule.linkRows kind) :
    schedule.rowKey? row = some (schedule.rowKey row) := by
  cases kind with
  | balance =>
      obtain ⟨_, _, _, _, rfl⟩ := Family.mem_table.mp member
      rfl
  | zonal need =>
      obtain ⟨_, _, _, _, rfl⟩ := Family.mem_table.mp member
      rfl
  | budget =>
      obtain ⟨⟨pollutant, zone⟩, listed, rfl⟩ := List.mem_map.mp member
      unfold rowKey?
      dsimp only
      rw [offset?_eq (pollutant_lt_of_mem listed)]
      rfl

include linkable in
theorem linkBounds?_eq {kind : LinkKind} {row : LinkRow}
    (member : row ∈ schedule.linkRows kind) :
    schedule.linkBounds? row = some (schedule.linkBounds row) := by
  cases kind with
  | balance =>
      obtain ⟨instant, instant_lt, node, _, rfl⟩ := Family.mem_table.mp member
      unfold linkBounds? linkBounds
      dsimp only
      rw [balanceLevel?_eq linkable.filled linkable.placed instant_lt node]
      rfl
  | zonal need =>
      obtain ⟨instant, instant_lt, zone, zone_lt, rfl⟩ := Family.mem_table.mp member
      have level : (schedule.zoning need).level? schedule.horizon zone instant =
          some ((schedule.zoning need).demandAt schedule.horizon zone instant) := by
        unfold Zoning.level? Zoning.demandAt
        split
        · rfl
        · rename_i given
          have size := (linkable.demand need).resolve_left (by simpa using given)
          refine Lookup.getElem?_eq_getD ?_ 0
          rw [size]
          exact Family.index_lt zone_lt instant_lt
      unfold linkBounds? linkBounds
      dsimp only
      rw [level]
      rfl
  | budget =>
      have key_lt := rowKey_lt member
      obtain ⟨⟨pollutant, zone⟩, listed, rfl⟩ := List.mem_map.mp member
      have pollutant_lt := pollutant_lt_of_mem listed
      have size := linkable.budget (Nat.zero_lt_of_lt pollutant_lt)
      have level : schedule.emissions.budget[schedule.emissions.offset pollutant + zone]? =
          some (schedule.emissions.budgetAt pollutant zone) :=
        Lookup.getElem?_eq_getD (size.symm ▸ key_lt) 0
      unfold linkBounds? linkBounds
      dsimp only
      rw [offset?_eq pollutant_lt]
      simp only [Option.bind_eq_bind, Option.bind_some, level]
      rfl

/-- Rows and term index are built together, row by row. -/
def enterRow (schedule : Schedule K) (spans : List (List Span)) (row : LinkRow) :
    Except Error (Row K × List (List Span)) := do
  let item ← schedule.linkRow row
  return (item, schedule.enterSpans spans row)

include linkable in
theorem completes_enterRow {kind : LinkKind} {row : LinkRow}
    (member : row ∈ schedule.linkRows kind) {spans : List (List Span)}
    (keyed : ∀ column ∈ spans, column.length = schedule.linkKeys kind) :
    (schedule.enterRow? spans row).Completes (schedule.enterRow spans row) := by
  unfold enterRow? enterRow linkRow
  refine Trial.Completes.look (rowKey?_eq member) ?_
  rw [bind_assoc]
  refine Trial.Completes.bind (completes_linkHead linkable member) fun head found => ?_
  have start : head.length = schedule.headLength row := by
    have length := length_headOf ⟨head, found⟩
    rwa [headOf, found] at length
  refine Trial.Completes.look (runs?_eq linkable member) ?_
  refine Trial.Completes.look (Lookup.mapM_eq_some fun entry listed => Lookup.put?_eq ?_ _) ?_
  · rw [keyed entry.1 (List.of_mem_zip listed).1]
    exact rowKey_lt member
  · refine Trial.Completes.look (linkBounds?_eq linkable member) ?_
    rw [start]
    rfl

theorem length_enterSpans {row : LinkRow} {spans : List (List Span)} {keys : Nat}
    (keyed : ∀ column ∈ spans, column.length = keys) :
    ∀ column ∈ schedule.enterSpans spans row, column.length = keys := by
  refine List.forall_mem_map.mpr fun entry listed => ?_
  rw [List.length_set]
  exact keyed entry.1 (List.of_mem_zip listed).1

include linkable in
theorem completes_enterRows {kind : LinkKind} {rows : List LinkRow}
    (members : ∀ row ∈ rows, row ∈ schedule.linkRows kind) {spans : List (List Span)}
    (keyed : ∀ column ∈ spans, column.length = schedule.linkKeys kind) :
    (schedule.enterRows? spans rows).Completes (do
      let items ← rows.mapM schedule.linkRow
      return (items, rows.foldl schedule.enterSpans spans)) := by
  induction rows generalizing spans with
  | nil => rfl
  | cons row rest induction =>
      have stepwise : (do
            let items ← (row :: rest).mapM schedule.linkRow
            return (items, (row :: rest).foldl schedule.enterSpans spans)) =
          (schedule.enterRow spans row >>= fun entered => (do
              let items ← rest.mapM schedule.linkRow
              return (items, rest.foldl schedule.enterSpans entered.2)) >>= fun built =>
            (pure (entered.1 :: built.1, built.2) : Except Error _)) := by
        simp only [List.mapM_cons, enterRow, bind_assoc, pure_bind, List.foldl_cons]
      rw [stepwise]
      refine Trial.Completes.bind
        (completes_enterRow linkable (members row List.mem_cons_self) keyed)
        fun entered found => ?_
      obtain ⟨item, _, equality⟩ := Except.bind_eq_ok.mp found
      cases equality
      refine Trial.Completes.bind ?_ fun _ _ => rfl
      exact induction (fun later member => members later (List.mem_cons_of_mem _ member))
        (length_enterSpans keyed)

include linkable in
theorem completes_family (kind : LinkKind) :
    (schedule.family? kind).Completes (schedule.link kind) := by
  have keyed : ∀ column ∈ schedule.emptySpans kind, column.length = schedule.linkKeys kind :=
    List.forall_mem_map.mpr fun _ _ => List.length_replicate
  have stepwise : schedule.link kind = (do
        let items ← (schedule.linkRows kind).mapM schedule.linkRow
        return (items, (schedule.linkRows kind).foldl schedule.enterSpans
          (schedule.emptySpans kind))) >>= fun built =>
      (pure {
        kind, rows := ⟨kind.familyName, schedule.linkCols kind, built.1⟩
        spans := built.2 } : Except Error (Link K)) := by
    simp only [link, bind_assoc, pure_bind]
  rw [stepwise]
  exact Trial.Completes.bind (completes_enterRows linkable (fun _ member => member) keyed)
    fun _ _ => rfl

include linkable in
theorem completes_families : schedule.families?.Completes schedule.linksOf :=
  Trial.Completes.bind (.mapM fun kind _ => completes_family linkable kind) fun _ _ => rfl

end Schedule

end Dispatch
