import Dispatch.Proofs.Closure.Network
import Dispatch.Proofs.Network.Incremental
import Mathlib.Data.List.Forall2

namespace Dispatch

open Mps

/-! A network over several intervals is one network for each of them, side by side. What it
generates for an interval is what a network over this interval alone generates, once the
variables of the interval are read as those of the other network. -/

variable {K : Type}

/-- The entries of one interval, where each has `width` of them. -/
def slice {α : Type} (items : List α) (width interval : Nat) : List α :=
  (items.drop (interval * width)).take width

theorem getElem?_slice {α : Type} (items : List α) {width place : Nat} (place_lt : place < width)
    (interval : Nat) : (slice items width interval)[place]? = items[interval * width + place]? := by
  rw [slice, List.getElem?_take_of_lt place_lt, List.getElem?_drop]

theorem getD_slice {α : Type} (items : List α) {width place : Nat} (place_lt : place < width)
    (interval : Nat) (default : α) :
    (slice items width interval).getD place default =
      items.getD (interval * width + place) default := by
  rw [List.getD_eq_getElem?_getD, List.getD_eq_getElem?_getD, getElem?_slice items place_lt]

section Pieces

variable {α : Type} {piece : Nat → List α} {width : Nat}
  (lengths : ∀ interval, (piece interval).length = width)

include lengths

theorem length_flatMap_range (intervals : Nat) :
    ((List.range intervals).flatMap piece).length = intervals * width := by
  induction intervals with
  | zero => simp
  | succ intervals induction =>
      rw [List.range_succ, List.flatMap_append, List.length_append, induction, Nat.succ_mul]
      simp [lengths]

theorem slice_flatMap_range {intervals interval : Nat} (interval_lt : interval < intervals) :
    slice ((List.range intervals).flatMap piece) width interval = piece interval := by
  induction intervals with
  | zero => cases interval_lt
  | succ intervals induction =>
      have before := length_flatMap_range lengths intervals
      rw [List.range_succ, List.flatMap_append, List.flatMap_singleton]
      cases Nat.lt_or_eq_of_le (Nat.le_of_lt_succ interval_lt) with
      | inl earlier =>
          have room : interval * width + width ≤ intervals * width := by
            rw [← Nat.succ_mul]
            exact Nat.mul_le_mul_right width earlier
          rw [← induction earlier, slice, slice, List.drop_append_of_le_length (by omega),
            List.take_append_of_le_length (by rw [List.length_drop]; omega)]
      | inr last =>
          rw [last, slice, ← before, List.drop_left, ← lengths intervals, List.take_length]

end Pieces

section Alongside

variable {α β γ : Type} {related : β → γ → Prop} {items : List α}

theorem forall₂_map_same {first : α → β} {second : α → γ}
    (each : ∀ item ∈ items, related (first item) (second item)) :
    List.Forall₂ related (items.map first) (items.map second) := by
  rw [List.forall₂_map_left_iff, List.forall₂_map_right_iff]
  exact List.forall₂_same.mpr each

theorem forall₂_filterMap_same {first : α → Option β} {second : α → Option γ}
    (each : ∀ item ∈ items, Option.Rel related (first item) (second item)) :
    List.Forall₂ related (items.filterMap first) (items.filterMap second) := by
  induction items with
  | nil => exact .nil
  | cons item rest induction =>
      have others := induction fun other member => each other (List.mem_cons_of_mem _ member)
      rw [List.filterMap_cons, List.filterMap_cons]
      have head := each item List.mem_cons_self
      generalize first item = one, second item = other at head ⊢
      cases head with
      | none => exact others
      | some head => exact .cons head others

theorem forall₂_flatMap_same {first : α → List β} {second : α → List γ}
    (each : ∀ item ∈ items, List.Forall₂ related (first item) (second item)) :
    List.Forall₂ related (items.flatMap first) (items.flatMap second) := by
  induction items with
  | nil => exact .nil
  | cons item rest induction =>
      rw [List.flatMap_cons, List.flatMap_cons]
      exact List.rel_append (each item List.mem_cons_self)
        (induction fun other member => each other (List.mem_cons_of_mem _ member))

end Alongside

section Matching

variable (reads : VarRef → VarRef → Prop)

def MatchesTerm (term image : VarRef × K) : Prop :=
  reads term.1 image.1 ∧ image.2 = term.2

structure Row.Matches (row image : Row K) : Prop where
  terms : List.Forall₂ (MatchesTerm reads) row.function.terms image.function.terms
  constant : image.function.constant = row.function.constant
  lhs : image.lhs = row.lhs
  rhs : image.rhs = row.rhs

structure Box.Matches (box image : Box K) : Prop where
  var : reads box.var image.var
  lhs : image.lhs = box.lhs
  rhs : image.rhs = box.rhs

/-- The narrow family has the rows of one interval, in the same order, and the wide one as
many for each of its intervals. -/
structure Family.Slices {α : Type} (matched : α → α → Prop) (intervals interval : Nat)
    (wide narrow : Family α) : Prop where
  name : narrow.name = wide.name
  cols : narrow.cols = wide.cols
  size : wide.size = intervals * narrow.size
  items : List.Forall₂ matched (slice wide.items wide.cols interval) narrow.items

inductive FlowLimits.Slices (intervals interval : Nat) : FlowLimits K → FlowLimits K → Prop
  | none : Slices intervals interval .none .none
  | hvdc {wide narrow : Family (Box K)}
      (limits : Family.Slices (Box.Matches reads) intervals interval wide narrow) :
      Slices intervals interval (.hvdc wide) (.hvdc narrow)
  | ac {wide narrow : Family (Row K)}
      (limits : Family.Slices (Row.Matches reads) intervals interval wide narrow) :
      Slices intervals interval (.ac wide) (.ac narrow)
  | hybrid {wide narrow : Family (Row K)}
      (limits : Family.Slices (Row.Matches reads) intervals interval wide narrow) :
      Slices intervals interval (.hybrid wide) (.hybrid narrow)

structure NetworkRows.Slices (intervals interval : Nat) (wide narrow : NetworkRows K) :
    Prop where
  flowLimits : FlowLimits.Slices reads intervals interval wide.flowLimits narrow.flowLimits
  injectionBalance : Family.Slices (Row.Matches reads) intervals interval
    wide.injectionBalance narrow.injectionBalance
  flowDefinition : Family.Slices (Row.Matches reads) intervals interval
    wide.flowDefinition narrow.flowDefinition
  systemBalance : Family.Slices (Row.Matches reads) intervals interval
    wide.systemBalance narrow.systemBalance
  relaxedFlows : Family.Slices (Row.Matches reads) intervals interval
    wide.relaxedFlows narrow.relaxedFlows
  injectionBounds : Family.Slices (Box.Matches reads) intervals interval
    wide.injectionBounds narrow.injectionBounds
  acLines : narrow.acLines = wide.acLines

structure Objective.Slices (intervals interval : Nat) (wide narrow : Objective K) : Prop where
  sense : narrow.sense = wide.sense
  size : wide.function.terms.length = intervals * narrow.function.terms.length
  terms : List.Forall₂ (MatchesTerm reads)
    (slice wide.function.terms narrow.function.terms.length interval) narrow.function.terms

end Matching

section Families

variable {α : Type} {matched : α → α → Prop} {intervals interval : Nat}

theorem Family.Slices.empty (name : String) (cols : Nat) :
    Family.Slices matched intervals interval (Family.empty name cols)
      (Family.empty name cols) where
  name := rfl
  cols := rfl
  size := rfl
  items := by simp [Family.empty, slice]

theorem NetworkRows.Slices.none (reads : VarRef → VarRef → Prop) (intervals interval : Nat) :
    NetworkRows.Slices reads intervals interval (NetworkRows.none : NetworkRows K) .none where
  flowLimits := .none
  injectionBalance := .empty _ _
  flowDefinition := .empty _ _
  systemBalance := .empty _ _
  relaxedFlows := .empty _ _
  injectionBounds := .empty _ _
  acLines := rfl

/-- Families that list the same columns for each of their intervals. -/
theorem Family.Slices.ofColumns {β : Type} (interval_lt : interval < intervals) (name : String)
    (columns : List β) {wide narrow : Nat → β → α}
    (each : ∀ column ∈ columns, matched (wide interval column) (narrow 0 column)) :
    Family.Slices matched intervals interval
      ⟨name, columns.length, (List.range intervals).flatMap fun row => columns.map (wide row)⟩
      ⟨name, columns.length, (List.range 1).flatMap fun row => columns.map (narrow row)⟩ := by
  have lengths (item : Nat → β → α) (row : Nat) :
      (columns.map (item row)).length = columns.length := List.length_map _
  refine ⟨rfl, rfl, ?_, ?_⟩
  · unfold Family.size
    rw [length_flatMap_range (lengths wide), length_flatMap_range (lengths narrow), Nat.one_mul]
  · dsimp only
    rw [slice_flatMap_range (lengths wide) interval_lt, List.range_one, List.flatMap_singleton]
    exact forall₂_map_same each

theorem Family.Slices.tabulate (interval_lt : interval < intervals) (name : String) (cols : Nat)
    {wide narrow : Nat → Nat → α}
    (each : ∀ col < cols, matched (wide interval col) (narrow 0 col)) :
    Family.Slices matched intervals interval (.tabulate name intervals cols wide)
      (.tabulate name 1 cols narrow) := by
  have columns := Family.Slices.ofColumns interval_lt name (List.range cols)
    fun col member => each col (List.mem_range.mp member)
  rwa [List.length_range] at columns

end Families

namespace Network

/-- What a variable of a network stands for. -/
inductive Role
  | injection
  | flow
  | size
deriving DecidableEq, Repr

def width (network : Network K) : Role → Nat
  | .injection => network.nodes
  | .flow => network.lines
  | .size => network.lines

def grid (network : Network K) : Role → Grid
  | .injection => network.nodeInjection
  | .flow => network.powerFlow
  | .size => network.auxiliary

def var? (network : Network K) (role : Role) (interval place : Nat) : Option VarRef :=
  network.store.cell? (network.grid role) interval place

/-- The variable stands for something in the interval. -/
def BelongsTo (network : Network K) (interval : Nat) (var : VarRef) : Prop :=
  ∃ role, ∃ place < network.width role, network.var? role interval place = some var

/-- A variable of the interval is read as the one that stands for the same in a network over
this interval alone. -/
def Reads (wide narrow : Network K) (interval : Nat) (var image : VarRef) : Prop :=
  ∃ role, ∃ place < wide.width role,
    wide.var? role interval place = some var ∧ narrow.var? role 0 place = some image

/-! Networks with the same data, one of them for a single interval of the other. -/

variable [Scalar K]

structure Aligned (wide narrow : Network K) (interval : Nat) : Prop where
  topology : narrow.topology? = wide.topology?
  nodes : narrow.nodes = wide.nodes
  kappa : narrow.kappa = wide.kappa
  demand : ∀ node < wide.nodes, narrow.demandAt 0 node = wide.demandAt interval node
  minimum : ∀ node < wide.nodes, narrow.minInjection.getD (0 * wide.nodes + node) 0 =
    wide.minInjection.getD (interval * wide.nodes + node) 0
  maximum : ∀ node < wide.nodes, narrow.maxInjection.getD (0 * wide.nodes + node) 0 =
    wide.maxInjection.getD (interval * wide.nodes + node) 0

section Rows

variable {wide narrow : Network K} {interval : Nat} {topology : Topology K}
  {reads : VarRef → VarRef → Prop}

section Data

variable (aligned : Aligned wide narrow interval) (nodes : topology.nodes = wide.nodes)

include aligned

theorem Aligned.kappaAt (line : Nat) : narrow.kappaAt line = wide.kappaAt line := by
  rw [Network.kappaAt, aligned.kappa, Network.kappaAt]

theorem Aligned.totalDemand : narrow.totalDemand 0 = wide.totalDemand interval := by
  unfold Network.totalDemand
  rw [aligned.nodes]
  congr 1
  exact List.map_congr_left fun node member => aligned.demand node (List.mem_range.mp member)

include nodes

theorem Aligned.demandFlow (line : Nat) :
    narrow.demandFlow topology 0 line = wide.demandFlow topology interval line := by
  unfold Network.demandFlow demandRow
  congr 1
  refine List.map_congr_left fun node member => aligned.demand node ?_
  rw [← nodes]
  exact List.mem_range.mp member

theorem Aligned.flowRange (kind : LineKind) (line : Nat) :
    narrow.flowRange topology kind 0 line = wide.flowRange topology kind interval line := by
  unfold Network.flowRange
  rw [aligned.kappaAt, aligned.demandFlow nodes]

end Data

variable
  (injects : ∀ node < topology.nodes,
    reads (wide.injection interval node) (narrow.injection 0 node))
  (flows : ∀ line < topology.lines, reads (wide.flow interval line) (narrow.flow 0 line))

include injects flows in
theorem distribution_alongside (line : Nat) :
    List.Forall₂ (MatchesTerm reads) (wide.distribution topology interval line)
      (narrow.distribution topology 0 line) := by
  refine List.rel_append (forall₂_map_same fun node member => ?_)
    (forall₂_filterMap_same fun other member => ?_)
  · exact ⟨injects node (List.mem_range.mp member), rfl⟩
  · unfold transferTerm?
    split
    · dsimp only
      split
      · exact .some ⟨flows other (List.mem_range.mp member), rfl⟩
      · exact .none
    · exact .none

include flows in
theorem limitBox_matches (aligned : Aligned wide narrow interval)
    (nodes : topology.nodes = wide.nodes) {line : Nat} (line_lt : line < topology.lines) :
    Box.Matches reads (wide.limitBox topology interval line) (narrow.limitBox topology 0 line) where
  var := flows line line_lt
  lhs := congrArg Prod.fst (aligned.flowRange nodes .hvdc line)
  rhs := congrArg Prod.snd (aligned.flowRange nodes .hvdc line)

include injects flows in
theorem limitRow_matches (aligned : Aligned wide narrow interval)
    (nodes : topology.nodes = wide.nodes) (kind : LineKind) {line : Nat}
    (line_lt : line < topology.lines) :
    Row.Matches reads (wide.limitRow topology kind interval line)
      (narrow.limitRow topology kind 0 line) := by
  unfold limitRow
  rw [aligned.flowRange nodes]
  dsimp only
  split
  · exact ⟨.cons ⟨flows line line_lt, rfl⟩ .nil, rfl, rfl, rfl⟩
  · exact ⟨distribution_alongside injects flows line, rfl, rfl, rfl⟩

include flows in
theorem incidence_alongside (node : Nat) {line : Nat} (line_lt : line < topology.lines) :
    List.Forall₂ (MatchesTerm reads) (wide.incidence topology interval node line)
      (narrow.incidence topology 0 node line) := by
  have flow := flows line line_lt
  unfold incidence
  refine List.rel_append ?_ ?_
  · split
    · exact .cons ⟨flow, rfl⟩ .nil
    · exact .nil
  · split
    · exact .cons ⟨flow, rfl⟩ .nil
    · exact .nil

include injects flows in
theorem balanceRow_matches (aligned : Aligned wide narrow interval)
    (nodes : topology.nodes = wide.nodes) {node : Nat} (node_lt : node < topology.nodes) :
    Row.Matches reads (wide.balanceRow topology interval node)
      (narrow.balanceRow topology 0 node) := by
  have demand : -narrow.demandAt 0 node = -wide.demandAt interval node := by
    rw [aligned.demand node (nodes ▸ node_lt)]
  refine ⟨.cons ⟨injects node node_lt, rfl⟩ (forall₂_flatMap_same fun line member => ?_), rfl,
    demand, demand⟩
  exact incidence_alongside flows node (List.mem_range.mp member)

include injects flows in
theorem definitionRow_matches (aligned : Aligned wide narrow interval)
    (nodes : topology.nodes = wide.nodes) {line : Nat} (line_lt : line < topology.lines) :
    Row.Matches reads (wide.definitionRow topology interval line)
      (narrow.definitionRow topology 0 line) := by
  have demand : -narrow.demandFlow topology 0 line = -wide.demandFlow topology interval line := by
    rw [aligned.demandFlow nodes]
  refine ⟨.cons ⟨flows line line_lt, rfl⟩ ?_, rfl, demand, demand⟩
  rw [List.forall₂_map_left_iff, List.forall₂_map_right_iff]
  refine (distribution_alongside injects flows line).imp fun term image same => ?_
  exact ⟨same.1, congrArg (- ·) same.2⟩

include injects in
theorem systemRow_matches (aligned : Aligned wide narrow interval) :
    Row.Matches reads (wide.systemRow topology interval) (narrow.systemRow topology 0) where
  terms := forall₂_map_same fun node member => ⟨injects node (List.mem_range.mp member), rfl⟩
  constant := rfl
  lhs := aligned.totalDemand
  rhs := aligned.totalDemand

include flows in
theorem relaxedRow_matches
    (sizes : ∀ line < topology.lines, reads (wide.store.cell wide.auxiliary interval line)
      (narrow.store.cell narrow.auxiliary 0 line))
    {place : Nat} (place_lt : place < 2 * topology.lines) :
    Row.Matches reads (wide.relaxedRow topology.lines interval place)
      (narrow.relaxedRow topology.lines 0 place) := by
  have line_lt : (if place < topology.lines then place else place - topology.lines) <
      topology.lines := by
    split <;> omega
  exact ⟨.cons ⟨flows _ line_lt, rfl⟩ (.cons ⟨sizes _ line_lt, rfl⟩ .nil), rfl, rfl, rfl⟩

include injects in
theorem boundsBox_matches (aligned : Aligned wide narrow interval)
    (nodes : topology.nodes = wide.nodes) {node : Nat} (node_lt : node < topology.nodes) :
    Box.Matches reads (wide.boundsBox topology.nodes interval node)
      (narrow.boundsBox topology.nodes 0 node) := by
  refine ⟨injects node node_lt, ?_, ?_⟩
  · have minimum := aligned.minimum node (nodes ▸ node_lt)
    rwa [← nodes] at minimum
  · have maximum := aligned.maximum node (nodes ▸ node_lt)
    rwa [← nodes] at maximum

include injects flows in
theorem slices_flowLimitsOf (aligned : Aligned wide narrow interval)
    (nodes : topology.nodes = wide.nodes) (interval_lt : interval < wide.intervals)
    (single : narrow.intervals = 1) :
    FlowLimits.Slices reads wide.intervals interval (wide.flowLimitsOf topology)
      (narrow.flowLimitsOf topology) := by
  unfold flowLimitsOf limitRows
  rw [single]
  cases topology.lineKind with
  | none => exact .none
  | hvdc =>
      exact .hvdc (.tabulate interval_lt _ _ fun line line_lt =>
        limitBox_matches flows aligned nodes line_lt)
  | ac =>
      exact .ac (.tabulate interval_lt _ _ fun line line_lt =>
        limitRow_matches injects flows aligned nodes .ac line_lt)
  | hybrid =>
      exact .hybrid (.tabulate interval_lt _ _ fun line line_lt =>
        limitRow_matches injects flows aligned nodes .hybrid line_lt)

include injects flows in
theorem slices_rowsOf (aligned : Aligned wide narrow interval)
    (nodes : topology.nodes = wide.nodes) (interval_lt : interval < wide.intervals)
    (single : narrow.intervals = 1)
    (auxiliary : narrow.auxiliary.isEmpty = wide.auxiliary.isEmpty)
    (sizes : wide.auxiliary.isEmpty = false → ∀ line < topology.lines,
      reads (wide.store.cell wide.auxiliary interval line)
        (narrow.store.cell narrow.auxiliary 0 line)) :
    NetworkRows.Slices reads wide.intervals interval (wide.rowsOf topology)
      (narrow.rowsOf topology) := by
  refine ⟨slices_flowLimitsOf injects flows aligned nodes interval_lt single,
    ?balances, ?definitions, ?system, ?relaxed, ?bounds, rfl⟩
  case balances =>
    simp only [rowsOf, injectionBalanceOf, single]
    cases topology.lineKind with
    | hvdc =>
        exact .tabulate interval_lt _ _ fun node node_lt =>
          balanceRow_matches injects flows aligned nodes node_lt
    | none => exact .empty _ _
    | ac => exact .empty _ _
    | hybrid => exact .empty _ _
  case definitions =>
    simp only [rowsOf, flowDefinitionOf, definitions, single]
    split
    · refine .ofColumns interval_lt _ topology.acLines fun line member => ?_
      have line_lt : line < topology.lines := List.mem_range.mp (List.mem_filter.mp member).1
      exact definitionRow_matches injects flows aligned nodes line_lt
    · exact .empty _ _
  case system =>
    simp only [rowsOf, systemBalanceOf, single]
    split
    · exact .tabulate interval_lt _ _ fun _ _ => systemRow_matches injects aligned
    · exact .empty _ _
  case relaxed =>
    simp only [rowsOf, relaxedFlowsOf, single, auxiliary]
    cases costly : wide.auxiliary.isEmpty with
    | true => exact .empty _ _
    | false =>
        exact .tabulate interval_lt _ _ fun place place_lt =>
          relaxedRow_matches flows (sizes costly) place_lt
  case bounds =>
    simp only [rowsOf, injectionBoundsOf, single]
    exact .tabulate interval_lt _ _ fun node node_lt =>
      boundsBox_matches injects aligned nodes node_lt

omit [Scalar K] in
theorem slices_costTerms (interval_lt : interval < wide.intervals) (single : narrow.intervals = 1)
    (priced : topology.cost.length ≤ topology.lines)
    (sizes : ∀ line < topology.lines, reads (wide.store.cell wide.auxiliary interval line)
      (narrow.store.cell narrow.auxiliary 0 line)) (first second : K) (sense : Sense) :
    Objective.Slices reads wide.intervals interval ⟨⟨wide.costTerms topology, first⟩, sense⟩
      ⟨⟨narrow.costTerms topology, second⟩, sense⟩ := by
  have lengths (network : Network K) (row : Nat) :
      (topology.cost.mapIdx fun line cost =>
        (network.store.cell network.auxiliary row line, cost)).length = topology.cost.length :=
    List.length_mapIdx
  have total := length_flatMap_range (lengths wide) wide.intervals
  have part := length_flatMap_range (lengths narrow) narrow.intervals
  rw [single, Nat.one_mul] at part
  unfold costTerms
  rw [single]
  refine ⟨rfl, total.trans (congrArg _ part.symm), ?_⟩
  dsimp only
  rw [part, slice_flatMap_range (lengths wide) interval_lt, List.range_one,
    List.flatMap_singleton, List.mapIdx_eq_zipIdx_map, List.mapIdx_eq_zipIdx_map]
  refine forall₂_map_same fun entry member => ⟨sizes entry.2 ?_, rfl⟩
  exact Nat.lt_of_lt_of_le (List.snd_lt_of_mem_zipIdx member) priced

end Rows

/-- Whether there are variables of this kind. -/
def has (network : Network K) : Role → Bool
  | .injection => decide (1 < network.nodes)
  | .flow => decide (1 < network.nodes) && decide (0 < network.lines)
  | .size => decide (1 < network.nodes) && decide (0 < network.lines) && network.hasCost

/-- The slot of the first variable of a kind, when there is one. -/
def base (network : Network K) : Role → Nat
  | .injection => 0
  | .flow => network.intervals * network.nodes
  | .size => network.intervals * network.nodes + network.intervals * network.lines

theorem grid_withVariables {network : Network K} (bare : network.Bare) (role : Role) :
    network.withVariables.grid role =
      if network.has role then ⟨network.base role, network.intervals, network.width role⟩
      else Grid.none := by
  have slots : network.store.size = 0 := by
    rw [← show network.stripped = network from bare]
    rfl
  unfold withVariables addGridIf
  cases role with
  | injection =>
      cases several : decide (1 < network.nodes) with
      | false => simp [grid, has, several]
      | true => simp [grid, has, several, base, width, Store.addGrid, Store.nextGrid, slots]
  | flow =>
      cases several : decide (1 < network.nodes) with
      | false => simp [grid, has, several]
      | true =>
          cases lined : decide (0 < network.lines) with
          | false => simp [grid, has, several, lined]
          | true =>
              simp [grid, has, several, lined, base, width, Store.addGrid, Store.nextGrid,
                Store.size_extend, slots]
  | size =>
      cases several : decide (1 < network.nodes) with
      | false => simp [grid, has, several]
      | true =>
          cases lined : decide (0 < network.lines) with
          | false => simp [grid, has, several, lined]
          | true =>
              cases costly : network.hasCost with
              | false => simp [grid, has, several, lined, costly]
              | true =>
                  simp [grid, has, several, lined, costly, base, width, Store.addGrid,
                    Store.nextGrid, Store.size_extend, slots]

theorem isEmpty_grid_withVariables {network : Network K} (bare : network.Bare)
    (intervals : 0 < network.intervals) (role : Role) :
    (network.withVariables.grid role).isEmpty = !network.has role := by
  rw [grid_withVariables bare]
  cases wanted : network.has role with
  | false => rfl
  | true =>
      have wide : 0 < network.width role := by
        cases role <;> simp [has] at wanted <;> simp only [width] <;> omega
      have size : network.intervals * network.width role ≠ 0 :=
        Nat.ne_of_gt (Nat.mul_pos intervals wide)
      simpa [Grid.isEmpty, Grid.size] using size

theorem slot_of_var? {network : Network K} (bare : network.Bare) {role : Role}
    {interval place : Nat} {var : VarRef}
    (found : network.withVariables.var? role interval place = some var) :
    var.slot = network.base role + (interval * network.width role + place) := by
  unfold var? Store.cell? at found
  rw [grid_withVariables bare] at found
  cases wanted : network.has role with
  | false =>
      rw [wanted] at found
      cases found
  | true =>
      rw [wanted, if_pos rfl] at found
      split at found
      · cases found
      · cases found
        exact Nat.add_assoc _ _ _

/-- A variable stands for one thing in one interval. -/
theorem var?_inj {network : Network K} (bare : network.Bare) {role other : Role}
    {interval later place spot : Nat} {var : VarRef} (interval_lt : interval < network.intervals)
    (later_lt : later < network.intervals) (place_lt : place < network.width role)
    (spot_lt : spot < network.width other)
    (found : network.withVariables.var? role interval place = some var)
    (again : network.withVariables.var? other later spot = some var) :
    role = other ∧ interval = later ∧ place = spot := by
  have slots := (slot_of_var? bare found).symm.trans (slot_of_var? bare again)
  have early := Family.index_lt interval_lt place_lt
  have late := Family.index_lt later_lt spot_lt
  have same : role = other := by
    -- The slots of the three kinds follow one another.
    cases role <;> cases other <;> simp only [base, width] at slots early late <;>
      first | rfl | omega
  subst same
  exact ⟨rfl, Family.index_inj place_lt spot_lt (Nat.add_left_cancel slots)⟩

/-- Nothing is generated yet, and the data are those of the interval. Identity, constant and
settings are its own. -/
structure IsInterval (narrow wide : Network K) (interval : Nat) : Prop where
  bare : narrow.Bare
  intervals : narrow.intervals = 1
  descriptor : narrow.descriptor = wide.descriptor
  looseNodes : narrow.looseNodes = wide.looseNodes
  kappa : narrow.kappa = wide.kappa
  demand : narrow.demand = slice wide.demand wide.nodes interval
  minimum : narrow.minInjection = slice wide.minInjection wide.nodes interval
  maximum : narrow.maxInjection = slice wide.maxInjection wide.nodes interval

/-- A new network over one interval. -/
def alone (wide : Network K) (interval : Nat) (id : BlockId) : Network K :=
  { (bus id : Network K) with
    descriptor := wide.descriptor
    looseNodes := wide.looseNodes
    demand := slice wide.demand wide.nodes interval
    kappa := wide.kappa
    minInjection := slice wide.minInjection wide.nodes interval
    maxInjection := slice wide.maxInjection wide.nodes interval }

theorem isInterval_alone (wide : Network K) (interval : Nat) (id : BlockId) :
    (wide.alone interval id).IsInterval wide interval :=
  ⟨rfl, rfl, rfl, rfl, rfl, rfl, rfl, rfl⟩

section Single

variable {wide narrow : Network K} {interval : Nat}

namespace IsInterval

omit [Scalar K] in
theorem topology? (single : narrow.IsInterval wide interval) :
    narrow.topology? = wide.topology? := by
  rw [Network.topology?, single.descriptor, Network.topology?]

omit [Scalar K] in
theorem nodes (single : narrow.IsInterval wide interval) : narrow.nodes = wide.nodes := by
  rw [Network.nodes, single.topology?, single.looseNodes, Network.nodes]

omit [Scalar K] in
theorem lines (single : narrow.IsInterval wide interval) : narrow.lines = wide.lines := by
  rw [Network.lines, single.topology?, Network.lines]

theorem demandAt (single : narrow.IsInterval wide interval) {node : Nat}
    (node_lt : node < wide.nodes) : narrow.demandAt 0 node = wide.demandAt interval node := by
  have entry := getD_slice wide.demand node_lt interval 0
  unfold Network.demandAt
  rw [single.nodes, single.demand, Nat.zero_mul, Nat.zero_add, entry]
  cases absent : wide.demand.isEmpty with
  | true => rw [List.isEmpty_iff.mp absent]; simp [slice]
  | false =>
      rw [if_neg Bool.false_ne_true]
      split
      · rename_i cut
        rw [List.isEmpty_iff.mp cut] at entry
        exact entry
      · rfl

theorem aligned (single : narrow.IsInterval wide interval) :
    Aligned wide.withVariables narrow.withVariables interval where
  topology := single.topology?
  nodes := single.nodes
  kappa := single.kappa
  demand _ node_lt := single.demandAt node_lt
  minimum node node_lt := by
    change narrow.minInjection.getD _ 0 = _
    rw [single.minimum, Nat.zero_mul, Nat.zero_add]
    exact getD_slice _ node_lt _ _
  maximum node node_lt := by
    change narrow.maxInjection.getD _ 0 = _
    rw [single.maximum, Nat.zero_mul, Nat.zero_add]
    exact getD_slice _ node_lt _ _

theorem has (single : narrow.IsInterval wide interval) (role : Role) :
    narrow.has role = wide.has role := by
  have cost : narrow.hasCost = wide.hasCost := by
    rw [Network.hasCost, single.topology?, Network.hasCost]
  cases role <;> simp only [Network.has, single.nodes, single.lines, cost]

omit [Scalar K] in
theorem width (single : narrow.IsInterval wide interval) (role : Role) :
    narrow.width role = wide.width role := by
  cases role <;> simp only [Network.width, single.nodes, single.lines]

theorem isEmpty_grid (single : narrow.IsInterval wide interval) (bare : wide.Bare)
    (interval_lt : interval < wide.intervals) (role : Role) :
    (narrow.withVariables.grid role).isEmpty = (wide.withVariables.grid role).isEmpty := by
  rw [isEmpty_grid_withVariables bare (Nat.zero_lt_of_lt interval_lt),
    isEmpty_grid_withVariables single.bare (single.intervals ▸ Nat.one_pos), single.has]

theorem reads (single : narrow.IsInterval wide interval) (bare : wide.Bare)
    (interval_lt : interval < wide.intervals) (role : Role)
    (there : (wide.withVariables.grid role).isEmpty = false) {place : Nat}
    (place_lt : place < wide.width role) :
    wide.withVariables.Reads narrow.withVariables interval
      (wide.withVariables.store.cell (wide.withVariables.grid role) interval place)
      (narrow.withVariables.store.cell (narrow.withVariables.grid role) 0 place) := by
  have here := (single.isEmpty_grid bare interval_lt role).trans there
  refine ⟨role, place, place_lt, ?_, ?_⟩
  · rw [var?, Store.cell?, there]
    rfl
  · rw [var?, Store.cell?, here]
    rfl

theorem checkTopology (single : narrow.IsInterval wide interval) :
    narrow.withVariables.checkTopology = wide.withVariables.checkTopology := by
  have same : narrow.withVariables.topology? = wide.withVariables.topology? := single.topology?
  rw [Network.checkTopology, same, Network.checkTopology]

/-- The rows that both generate. -/
theorem slices_rowsOf (single : narrow.IsInterval wide interval) (bare : wide.Bare)
    (interval_lt : interval < wide.intervals) (several : 1 < wide.nodes) {topology : Topology K}
    (checked : wide.withVariables.checkTopology = .ok topology) :
    NetworkRows.Slices (wide.withVariables.Reads narrow.withVariables interval) wide.intervals
      interval (wide.withVariables.rowsOf topology) (narrow.withVariables.rowsOf topology) := by
  have attached : wide.topology? = some topology := checkTopology_ok checked
  have lined := (cost_of_checkTopology checked).1
  have nodes : topology.nodes = wide.nodes := by rw [Network.nodes, attached]
  have lines : topology.lines = wide.lines := by rw [Network.lines, attached]
  have present := isEmpty_grid_withVariables bare (Nat.zero_lt_of_lt interval_lt)
  have injections : (wide.withVariables.grid .injection).isEmpty = false := by
    rw [present]
    simp [Network.has, several]
  have flows : (wide.withVariables.grid .flow).isEmpty = false := by
    rw [present]
    simp [Network.has, several, ← lines, lined]
  exact Network.slices_rowsOf
    (fun node node_lt => single.reads bare interval_lt .injection injections
      (show node < wide.nodes from nodes ▸ node_lt))
    (fun line line_lt => single.reads bare interval_lt .flow flows
      (show line < wide.lines from lines ▸ line_lt))
    single.aligned nodes interval_lt single.intervals
    (single.isEmpty_grid bare interval_lt .size)
    fun sizes line line_lt => single.reads bare interval_lt .size sizes
      (show line < wide.lines from lines ▸ line_lt)

/-- The costs that both generate. Without flow sizes there are none. -/
theorem slices_costFunction (single : narrow.IsInterval wide interval) (bare : wide.Bare)
    (interval_lt : interval < wide.intervals)
    (priced : ∀ topology, wide.topology? = some topology →
      wide.withVariables.auxiliary.isEmpty = false → topology.cost.length ≤ topology.lines) :
    Objective.Slices (wide.withVariables.Reads narrow.withVariables interval) wide.intervals
      interval ⟨wide.withVariables.costFunction, .minimise⟩
      ⟨narrow.withVariables.costFunction, .minimise⟩ := by
  have free : Objective.Slices (wide.withVariables.Reads narrow.withVariables interval)
      wide.intervals interval ⟨⟨[], wide.constantTerm⟩, .minimise⟩
      ⟨⟨[], narrow.constantTerm⟩, .minimise⟩ :=
    ⟨rfl, rfl, by simp [slice]⟩
  have absent : narrow.withVariables.auxiliary.isEmpty = wide.withVariables.auxiliary.isEmpty :=
    single.isEmpty_grid bare interval_lt .size
  have here : narrow.withVariables.topology? = wide.topology? := single.topology?
  have there : wide.withVariables.topology? = wide.topology? := rfl
  unfold costFunction
  rw [here, there, absent]
  cases attached : wide.topology? with
  | none => exact free
  | some topology =>
      dsimp only
      cases costly : wide.withVariables.auxiliary.isEmpty with
      | true => exact free
      | false =>
          have lines : topology.lines = wide.lines := by rw [Network.lines, attached]
          rw [if_neg Bool.false_ne_true, if_neg Bool.false_ne_true]
          refine slices_costTerms (show interval < wide.withVariables.intervals from interval_lt)
            (show narrow.withVariables.intervals = 1 from single.intervals)
            (priced topology attached costly) (fun line line_lt => ?_) _ _ _
          exact single.reads bare interval_lt .size costly
            (show line < wide.lines from lines ▸ line_lt)

/-- Reading a variable of the interval is one to one. -/
theorem reads_inj (single : narrow.IsInterval wide interval) (bare : wide.Bare)
    (interval_lt : interval < wide.intervals) {first second image other : VarRef}
    (one : wide.withVariables.Reads narrow.withVariables interval first image)
    (two : wide.withVariables.Reads narrow.withVariables interval second other) :
    first = second ↔ image = other := by
  obtain ⟨role, place, place_lt, there, here⟩ := one
  obtain ⟨kind, spot, spot_lt, stands, stood⟩ := two
  have only : 0 < narrow.intervals := by
    rw [single.intervals]
    exact Nat.one_pos
  constructor
  · rintro rfl
    obtain ⟨rfl, -, rfl⟩ := var?_inj bare interval_lt interval_lt place_lt spot_lt there stands
    exact Option.some.inj (here.symm.trans stood)
  · rintro rfl
    obtain ⟨rfl, -, rfl⟩ := var?_inj single.bare only only
      (show place < narrow.width role by rw [single.width]; exact place_lt)
      (show spot < narrow.width kind by rw [single.width]; exact spot_lt) here stood
    exact Option.some.inj (there.symm.trans stands)

end IsInterval

/-- A variable that is read belongs to the interval and to no other. -/
theorem apart_of_reads (bare : wide.Bare) (interval_lt : interval < wide.intervals)
    {var image : VarRef} (reads : wide.withVariables.Reads narrow interval var image) :
    wide.withVariables.BelongsTo interval var ∧ ∀ other < wide.intervals, other ≠ interval →
      ¬wide.withVariables.BelongsTo other var := by
  obtain ⟨role, place, place_lt, there, -⟩ := reads
  refine ⟨⟨role, place, place_lt, there⟩, fun other other_lt apart => ?_⟩
  rintro ⟨kind, spot, spot_lt, stands⟩
  exact apart (var?_inj bare other_lt interval_lt spot_lt place_lt stands there).2.1

end Single

end Network

section Mentions

variable {reads : VarRef → VarRef → Prop} {intervals interval : Nat}

/-- The rows and boxes of one interval. -/
def Family.within {α : Type} [IsConstraint α K] (family : Family α) (interval : Nat) :
    List (Constraint K) :=
  (slice family.items family.cols interval).map IsConstraint.toConstraint

def FlowLimits.within (limits : FlowLimits K) (interval : Nat) : List (Constraint K) :=
  match limits with
  | .none => []
  | .hvdc limits => limits.within interval
  | .ac limits => limits.within interval
  | .hybrid limits => limits.within interval

def NetworkRows.within (rows : NetworkRows K) (interval : Nat) : List (Constraint K) :=
  rows.flowLimits.within interval ++ rows.injectionBalance.within interval ++
    rows.flowDefinition.within interval ++ rows.systemBalance.within interval ++
    rows.relaxedFlows.within interval ++ rows.injectionBounds.within interval

/-- Every variable that the constraint mentions is read as another one. -/
def Constraint.Read (reads : VarRef → VarRef → Prop) (constraint : Constraint K) : Prop :=
  ∀ var ∈ mentions constraint, ∃ image, reads var image

theorem exists_of_forall₂ {α β : Type} {related : α → β → Prop} {items : List α}
    {images : List β} (pairs : List.Forall₂ related items images) {item : α}
    (member : item ∈ items) : ∃ image, related item image := by
  induction pairs with
  | nil => cases member
  | @cons head image _ _ pair _ induction =>
      cases List.mem_cons.mp member with
      | inl same => exact ⟨image, same ▸ pair⟩
      | inr later => exact induction later

theorem Row.Matches.read {row image : Row K} (same : Row.Matches reads row image) :
    (Constraint.row row).Read reads := by
  intro var member
  obtain ⟨term, listed, rfl⟩ := List.mem_map.mp member
  obtain ⟨other, read, -⟩ := exists_of_forall₂ same.terms listed
  exact ⟨other.1, read⟩

theorem Box.Matches.read {box image : Box K} (same : Box.Matches reads box image) :
    (Constraint.box box).Read reads := by
  intro var member
  rw [List.mem_singleton.mp member]
  exact ⟨image.var, same.var⟩

theorem Family.Slices.read {α : Type} [IsConstraint α K] {matched : α → α → Prop}
    {wide narrow : Family α} (slices : Family.Slices matched intervals interval wide narrow)
    (each : ∀ item image, matched item image → (IsConstraint.toConstraint item).Read reads) :
    ∀ constraint ∈ wide.within interval, constraint.Read reads := by
  intro constraint member
  obtain ⟨item, listed, rfl⟩ := List.mem_map.mp member
  obtain ⟨image, same⟩ := exists_of_forall₂ slices.items listed
  exact each item image same

theorem NetworkRows.Slices.read {wide narrow : NetworkRows K}
    (slices : NetworkRows.Slices reads intervals interval wide narrow) :
    ∀ constraint ∈ wide.within interval, constraint.Read reads := by
  have rows {wide narrow : Family (Row K)}
      (slices : Family.Slices (Row.Matches reads) intervals interval wide narrow) :=
    slices.read fun _ _ same => same.read
  have boxes {wide narrow : Family (Box K)}
      (slices : Family.Slices (Box.Matches reads) intervals interval wide narrow) :=
    slices.read fun _ _ same => same.read
  have limits : ∀ constraint ∈ wide.flowLimits.within interval, constraint.Read reads := by
    have limited := slices.flowLimits
    generalize wide.flowLimits = given, narrow.flowLimits = taken at limited
    cases limited with
    | none => exact nofun
    | hvdc limits => exact boxes limits
    | ac limits => exact rows limits
    | hybrid limits => exact rows limits
  simp only [NetworkRows.within, List.forall_mem_append]
  exact ⟨⟨⟨⟨⟨limits, rows slices.injectionBalance⟩, rows slices.flowDefinition⟩,
    rows slices.systemBalance⟩, rows slices.relaxedFlows⟩, boxes slices.injectionBounds⟩

end Mentions

namespace Network

variable [Scalar K] {wide narrow : Network K} {interval : Nat}

/-- For one interval the wide network has what the narrow one has altogether, and nothing in
common with its other intervals. -/
structure SideBySide (wide narrow : Network K) (interval : Nat) : Prop where
  rows : NetworkRows.Slices (wide.Reads narrow interval) wide.intervals interval
    wide.rows narrow.rows
  objective : ∃ total part, wide.objective = some total ∧ narrow.objective = some part ∧
    Objective.Slices (wide.Reads narrow interval) wide.intervals interval total part
  reads_inj : ∀ first second image other, wide.Reads narrow interval first image →
    wide.Reads narrow interval second other → (first = second ↔ image = other)
  apart : ∀ constraint ∈ wide.rows.within interval, ∀ var ∈ mentions constraint,
    wide.BelongsTo interval var ∧
      ∀ other < wide.intervals, other ≠ interval → ¬wide.BelongsTo other var

theorem generateAll_refused {network : Network K} {error : Error} (bare : network.stage = .empty)
    (refused : network.withVariables.withConstraints = .error error) :
    generateAll network = ⟨network.withVariables, [], .error error⟩ := by
  have first : Network.generateVariables network = ⟨network.withVariables, [], .ok ⟨⟩⟩ := by
    rw [Network.generateVariables, step_apply, bare]
    rfl
  have second : Network.generateConstraints network.withVariables =
      ⟨network.withVariables, [], .error error⟩ := by
    rw [Network.generateConstraints, step_apply,
      show network.withVariables.stage = .vars from rfl, refused]
    rfl
  rw [generateAll, Change.bind_ok first, Change.bind_error second]
  rfl

/-- The complete network, once its rows are there. -/
def completed (network : Network K) (rows : NetworkRows K) : Network K :=
  ({ network with stage := .constraints, rows } : Network K).withObjective

theorem generateAll_completed {network : Network K} {rows : NetworkRows K}
    (bare : network.Bare) (generated : network.withVariables.withConstraints =
      .ok { network.withVariables with stage := .constraints, rows }) :
    generateAll network = ⟨network.withVariables.completed rows, [], .ok ⟨⟩⟩ := by
  refine generateAll_apply bare.stage ?_
  rw [generatedTo, generated]
  rfl

omit [Scalar K] in
theorem Bare.rows {network : Network K} (bare : network.Bare) :
    network.rows = NetworkRows.none := by
  rw [← show network.stripped = network from bare]
  rfl

theorem sideBySide_completed (bare : wide.Bare) (interval_lt : interval < wide.intervals)
    (single : narrow.IsInterval wide interval) {rows part : NetworkRows K}
    (slices : NetworkRows.Slices (wide.withVariables.Reads narrow.withVariables interval)
      wide.intervals interval rows part)
    (priced : ∀ topology, wide.topology? = some topology →
      wide.withVariables.auxiliary.isEmpty = false → topology.cost.length ≤ topology.lines) :
    SideBySide (wide.withVariables.completed rows) (narrow.withVariables.completed part)
      interval where
  rows := slices
  objective := ⟨_, _, rfl, rfl, single.slices_costFunction bare interval_lt priced⟩
  reads_inj _ _ _ _ one two := single.reads_inj bare interval_lt one two
  apart constraint member var mentioned := by
    obtain ⟨image, reads⟩ := slices.read constraint member var mentioned
    exact apart_of_reads bare interval_lt reads

theorem withConstraints_eq_error {network : Network K} {error : Error}
    (several : 1 < network.nodes) (refused : network.checkTopology = .error error) :
    network.withConstraints = .error error := by
  rw [withConstraints, if_pos several, refused]
  rfl

theorem withConstraints_eq_ok {network : Network K} {topology : Topology K}
    (several : 1 < network.nodes) (checked : network.checkTopology = .ok topology) :
    network.withConstraints =
      .ok { network with stage := .constraints, rows := network.rowsOf topology } := by
  rw [withConstraints, if_pos several, checked]
  rfl

theorem withConstraints_single {network : Network K} (bare : network.Bare)
    (single : ¬1 < network.withVariables.nodes) : network.withVariables.withConstraints =
      .ok { network.withVariables with stage := .constraints, rows := NetworkRows.none } := by
  rw [withConstraints, if_neg single, ← bare.rows]
  rfl

/-- Both networks generate or both are refused, for the same reason. -/
theorem sideBySide_generateAll (bare : wide.Bare) (interval_lt : interval < wide.intervals)
    (single : narrow.IsInterval wide interval) :
    (generateAll wide).result = (generateAll narrow).result ∧
      ((generateAll wide).result = .ok ⟨⟩ →
        SideBySide (generateAll wide).state (generateAll narrow).state interval) := by
  have nodes : narrow.withVariables.nodes = wide.withVariables.nodes := single.nodes
  by_cases several : 1 < wide.withVariables.nodes
  · cases checked : wide.withVariables.checkTopology with
    | error error =>
        have first := generateAll_refused bare.stage (withConstraints_eq_error several checked)
        have second := generateAll_refused single.bare.stage
          (withConstraints_eq_error (nodes ▸ several) (single.checkTopology.trans checked))
        rw [first, second]
        exact ⟨rfl, fun accepted => by cases accepted⟩
    | ok topology =>
        have priced : ∀ other, wide.topology? = some other →
            wide.withVariables.auxiliary.isEmpty = false → other.cost.length ≤ other.lines := by
          intro other attached _
          cases attached.symm.trans (checkTopology_ok checked)
          exact (cost_of_checkTopology checked).2
        rw [generateAll_completed bare (withConstraints_eq_ok several checked),
          generateAll_completed single.bare
            (withConstraints_eq_ok (nodes ▸ several) (single.checkTopology.trans checked))]
        exact ⟨rfl, fun _ => sideBySide_completed bare interval_lt single
          (single.slices_rowsOf bare interval_lt several checked) priced⟩
  · have priced : ∀ other, wide.topology? = some other →
        wide.withVariables.auxiliary.isEmpty = false → other.cost.length ≤ other.lines := by
      intro other _ present
      have absent : (wide.withVariables.grid .size).isEmpty = true := by
        rw [isEmpty_grid_withVariables bare (Nat.zero_lt_of_lt interval_lt)]
        simp [Network.has, show ¬1 < wide.nodes from several]
      cases present.symm.trans absent
    rw [generateAll_completed bare (withConstraints_single bare several),
      generateAll_completed single.bare (withConstraints_single single.bare (nodes ▸ several))]
    exact ⟨rfl, fun _ => sideBySide_completed bare interval_lt single (.none _ _ _) priced⟩

/-- The ring with costs, over two intervals that differ in demand and bounds. -/
def ladenRing : Network Float :=
  { (bus ⟨0⟩ : Network Float) with
    descriptor := some (.owned (.dc
      { (DcData.bus : DcData Float) with
        nodes := 3
        start := [0, 1, 2]
        finish := [1, 2, 0]
        minFlow := [-1, -1, -1]
        maxFlow := [1, 1, 1]
        susceptance := [0, 1, 1]
        cost := [2, 0, 3]
        factors := some [0, 0, 0, 1, 0, 0, 0, 1, 0] }))
    intervals := 2
    demand := [1, 2, 3, 4, 5, 6]
    kappa := [1, 2, 3]
    constantTerm := 7
    minInjection := [0, 0, 0, -1, -2, -3]
    maxInjection := [9, 9, 9, 1, 2, 3] }

theorem sideBySide_generateAll_ladenRing :
    ladenRing.lineKind = .hybrid ∧
      SideBySide (generateAll ladenRing).state (generateAll (ladenRing.alone 1 ⟨1⟩)).state 1 :=
  ⟨by decide +kernel,
    (sideBySide_generateAll (show ladenRing.Bare from rfl) (show 1 < ladenRing.intervals by decide)
      (isInterval_alone ladenRing 1 ⟨1⟩)).2 (by decide +kernel)⟩

end Network

end Dispatch
