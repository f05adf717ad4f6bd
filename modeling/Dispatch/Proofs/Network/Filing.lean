import Dispatch.Network.File
import Dispatch.Proofs.Change.Laws
import Dispatch.Proofs.Network.Rows
import Dispatch.Proofs.Topology.Reloading

namespace Dispatch.Network

/-! Networks on file. What a network adds to a group is read back as a network that resembles it
if and only if the arrays of the network are written in forms that a reader can complete. -/

variable {network : Network Float} {group saved : Group}

theorem constantOfGroup_eq_ok {constant : Float} :
    constantOfGroup group = .ok constant ↔ ∃ given, group.doubles? "ConstantTerm" = .ok given ∧
      constant = (given.bind List.head?).getD 0 := by
  rw [constantOfGroup, Except.bind_eq_ok]
  refine exists_congr fun given => and_congr_right fun _ => ?_
  rcases given with _ | _ | _ <;> simp [eq_comm]

/-- A network on what a group says of its nodes, before its arrays are read. -/
def located (start : Network Float) (group : Group) (descriptor : Option (Descriptor Float))
    (given : Option (List Float)) : Network Float :=
  withTopology { start with intervals := (group.dim? "NumberIntervals").getD 1 } descriptor given

theorem intervals_located (start : Network Float) (group : Group)
    (descriptor : Option (Descriptor Float)) (given : Option (List Float)) :
    (start.located group descriptor given).intervals =
      (group.dim? "NumberIntervals").getD 1 := by
  cases descriptor with
  | none => cases given <;> rfl
  | some descriptor => rfl

theorem filled_eq_ok {start result : Network Float} :
    start.filled group = .ok result ↔ (group.dim? "NumberIntervals").getD 1 ≠ 0 ∧
      ∃ given, group.doubles? "ActiveDemand" = .ok given ∧
      ∃ descriptor, descriptorOfGroup group = .ok descriptor ∧
      ∃ demand, broadcastPresent given (start.located group descriptor given).extent
        "ActiveDemand" = .ok demand ∧
      ∃ levels, group.doubles? "Kappa" = .ok levels ∧
      ∃ kappa, broadcastPresent levels (start.located group descriptor given).lines
        "Kappa" = .ok kappa ∧
      ∃ constantTerm, constantOfGroup group = .ok constantTerm ∧
        result = { start.located group descriptor given with
          demand, kappa, constantTerm, layouts := Layouts.ofGroup group } := by
  unfold filled
  dsimp only
  constructor
  · intro read
    split at read
    · cases read
    · rename_i timed
      obtain ⟨given, hasDemand, read⟩ := Except.bind_eq_ok.mp read
      obtain ⟨descriptor, hasDescriptor, read⟩ := Except.bind_eq_ok.mp read
      obtain ⟨demand, demands, read⟩ := Except.bind_eq_ok.mp read
      obtain ⟨levels, hasKappa, read⟩ := Except.bind_eq_ok.mp read
      obtain ⟨kappa, kappas, read⟩ := Except.bind_eq_ok.mp read
      obtain ⟨constantTerm, constant, read⟩ := Except.bind_eq_ok.mp read
      cases read
      exact ⟨timed, given, hasDemand, descriptor, hasDescriptor, demand, demands, levels, hasKappa,
        kappa, kappas, constantTerm, constant, rfl⟩
  · rintro ⟨timed, given, hasDemand, descriptor, hasDescriptor, demand, demands, levels, hasKappa,
      kappa, kappas, constantTerm, constant, rfl⟩
    rw [if_neg timed]
    refine Except.bind_eq_ok.mpr ⟨given, hasDemand, Except.bind_eq_ok.mpr ⟨descriptor, ?_⟩⟩
    refine ⟨hasDescriptor, Except.bind_eq_ok.mpr ⟨demand, demands, ?_⟩⟩
    refine Except.bind_eq_ok.mpr ⟨levels, hasKappa, Except.bind_eq_ok.mpr ⟨kappa, kappas, ?_⟩⟩
    exact Except.bind_eq_ok.mpr ⟨constantTerm, constant, rfl⟩

theorem ofGroup_eq_ok {before after : Nat} : Network.ofGroup group before = (.ok network, after) ↔
    (bus ⟨before⟩).filled group = .ok network ∧ after = before + 1 := by
  constructor
  · intro created
    obtain ⟨start, taken, fresh, created⟩ := Creation.bind_eq_ok created
    cases fresh
    obtain ⟨read, same⟩ := Creation.require_eq_ok created
    exact ⟨read, same.symm⟩
  · rintro ⟨read, rfl⟩
    change Creation.require ((bus ⟨before⟩).filled group) (before + 1) = _
    rw [read]
    rfl

def allKappas (network : Network Float) : List Float :=
  (List.range network.lines).map network.kappaAt

/-- Values that are left out while all of them are at their default, if they were not given. -/
def levelField (layouts : Layouts) (name : String) (dims : List String)
    (values full : List Float) : Option Field :=
  if !values.isEmpty || layouts.hasField name then some (layouts.fieldFor name dims full) else none

def demandDims (network : Network Float) : List String :=
  let nodesName := if network.descriptor.isSome then "NumberNodes" else looseNodesName
  if 1 < network.intervals then ["NumberIntervals", nodesName] else [nodesName]

/-- The nodes and lines as they stand in a group; of a descriptor from outside nothing is known. -/
def nodesPage (network : Network Float) : Page :=
  match network.descriptor with
  | none => ⟨[("NumberNodes", none), (looseNodesName, some network.nodes)], []⟩
  | some ⟨.dc data, _⟩ => data.filing
  | some ⟨.extension _, _⟩ => ⟨[], []⟩

def levelsPage (network : Network Float) : Page where
  dims := [("NumberIntervals",
    if 1 < network.intervals ∨ network.layouts.hasDim "NumberIntervals" then
      some network.intervals
    else none)]
  fields := [
    ("ActiveDemand", levelField network.layouts "ActiveDemand" network.demandDims network.demand
      network.allDemands),
    ("Kappa", levelField network.layouts "Kappa" ["NumberLines"] network.kappa network.allKappas),
    ("ConstantTerm", network.layouts.singleField "ConstantTerm" 0 network.constantTerm)]

theorem distinct_names (network : Network Float) :
    (((network.nodesPage ++ network.levelsPage).dims).map Prod.fst).Nodup ∧
      (((network.nodesPage ++ network.levelsPage).fields).map Prod.fst).Nodup := by
  unfold nodesPage
  split
  · simp [levelsPage, looseNodesName]
  · unfold DcData.filing
    split
    · simp [levelsPage, DcData.singlePage]
    · simp [levelsPage, DcData.page]
  · simp [levelsPage]

def sheet (network : Network Float) : Sheet where
  toPage := network.nodesPage ++ network.levelsPage
  members := []
  distinctDims := network.distinct_names.1
  distinctFields := network.distinct_names.2
  distinctMembers := List.nodup_nil

/-- Set up so that it can be saved. -/
structure Filable (network : Network Float) : Prop where
  timed : 0 < network.intervals
  described : ∀ holding, network.descriptor = some holding →
    ∃ data, holding.value = .dc data ∧ data.Filable
  occupied : 0 < network.looseNodes
  /-- Without descriptor several nodes can only be told from a demand. -/
  counted : network.descriptor = none → 1 < network.looseNodes →
    network.layouts.hasField "ActiveDemand" = true

theorem Filable.write_empty (filable : network.Filable) :
    network.write Group.empty = network.sheet.group := by
  change _ = (network.nodesPage ++ network.levelsPage).fillIn Group.empty
  rw [Page.fillIn_append]
  unfold write nodesPage levelsPage levelField demandDims
  cases held : network.descriptor with
  | none =>
      simp only [Group.setDim_eq_fillDim, Group.putDoubles_eq_fill, Group.ite_fillDim,
        Group.ite_fill]
      rfl
  | some holding =>
      obtain ⟨data, same, fits⟩ := filable.described holding held
      obtain ⟨descriptor, isShared⟩ := holding
      cases same
      simp only [Descriptor.write, fits.write_eq, Group.setDim_eq_fillDim,
        Group.putDoubles_eq_fill, Group.ite_fillDim, Group.ite_fill]
      rfl

/-- What is read of values that stand for `full`. -/
inductive Recalled (layouts : Layouts) (name : String) (values full : List Float) :
    Option (List Float) → Prop
  | absent (unset : values = []) (unlisted : layouts.hasField name = false) :
      Recalled layouts name values full none
  | given {held : List Float} {count : Nat} (expands : Expands count held full)
      (length : held.length = (layouts.shortened name full).length) :
      Recalled layouts name values full (some held)

section Levels

variable {layouts : Layouts} {name : String} {dims : List String} {values full : List Float}
  {given : Option (List Float)} {size : Nat}

theorem recalled_of_filed (moderate : ∀ value ∈ full, IsModerate value)
    (filed : saved.field? name = levelField layouts name dims values full) :
    ∃ given, saved.doubles? name = .ok given ∧ Recalled layouts name values full given := by
  unfold levelField at filed
  by_cases written : !values.isEmpty || layouts.hasField name
  · rw [if_pos written] at filed
    obtain ⟨held, count, holds, expands, length⟩ := Layouts.recovers_fieldFor dims
      fun (layout : Layout) (_ : layouts.layout? name = some layout) _ value
        (member : value ∈ full) => (moderate value member).storable
    exact ⟨some held, holds.read filed, .given expands length⟩
  · rw [if_neg written] at filed
    simp only [Bool.or_eq_true, not_or, Bool.not_eq_true, Bool.not_eq_false'] at written
    exact ⟨none, Group.doubles?_eq_none.mpr filed,
      .absent (List.isEmpty_iff.mp written.1) written.2⟩

theorem Recalled.completed (recalled : Recalled layouts name values full given)
    (extent : full.length = size)
    (form : (layouts.shortened name full).length = 1 ∨ (layouts.shortened name full).length = size)
    (what : String) : ∃ levels, broadcastPresent given size what = .ok levels ∧
      (values = [] ∧ levels = [] ∨ List.Forall₂ Alike levels full) := by
  cases recalled with
  | absent unset _ => exact ⟨[], rfl, .inl ⟨unset, rfl⟩⟩
  | given expands length =>
      exact ⟨_, expands.broadcast extent (length ▸ form) what, .inr expands.repeats⟩

/-- What could be completed had a form that can be. -/
theorem Recalled.form (recalled : Recalled layouts name values full given)
    (extent : full.length = size) {what : String} {levels : List Float}
    (filled : broadcastPresent given size what = .ok levels) :
    (layouts.shortened name full).length = size ∨
      (layouts.shortened name full).length = 1 ∧ ∃ value, given = some [value] := by
  cases recalled with
  | absent _ unlisted =>
      rcases layouts.shortened_cases name full with same | ⟨layout, found, -⟩
      · exact .inl ((congrArg List.length same).trans extent)
      · rw [Layouts.hasField, found] at unlisted
        cases unlisted
  | given _ length =>
      rw [← length]
      rcases broadcast_form filled with single | all
      · obtain ⟨value, rfl⟩ := List.length_eq_one_iff.mp single
        exact .inr ⟨rfl, value, rfl⟩
      · exact .inl all

end Levels

/-- Nodes without lines. -/
def loose (nodes : Nat) : Topology Float :=
  { (DcData.bus : DcData Float).topology with nodes }

/-- The topology of a network; one without descriptor has no lines. -/
def footing (network : Network Float) : Topology Float :=
  network.topology?.getD (loose network.looseNodes)

theorem nodes_footing (network : Network Float) : network.footing.nodes = network.nodes := by
  unfold footing nodes
  cases network.topology? <;> rfl

theorem lines_footing (network : Network Float) : network.footing.lines = network.lines := by
  unfold footing lines
  cases network.topology? <;> rfl

/-- The same network, up to the signs of zeros. -/
structure Resembles (first second : Network Float) : Prop where
  footing : first.footing.Resembles second.footing
  intervals : first.intervals = second.intervals
  demand : ∀ interval < second.intervals, ∀ node < second.nodes,
    Alike (first.demandAt interval node) (second.demandAt interval node)
  kappa : ∀ line < second.lines, Alike (first.kappaAt line) (second.kappaAt line)
  constantTerm : Alike first.constantTerm second.constantTerm

theorem Resembles.nodes {first second : Network Float} (resembles : first.Resembles second) :
    first.nodes = second.nodes := by
  rw [← nodes_footing, ← nodes_footing, resembles.footing.nodes]

theorem Resembles.lines {first second : Network Float} (resembles : first.Resembles second) :
    first.lines = second.lines := by
  rw [← lines_footing, ← lines_footing, resembles.footing.lines]

structure Moderate (network : Network Float) : Prop where
  footing : network.footing.Moderate
  demand : ∀ value ∈ network.demand, IsModerate value
  kappa : ∀ value ∈ network.kappa, IsModerate value
  constantTerm : IsModerate network.constantTerm

/-- Demand and kappa are written in forms that a reader can complete. A single demand only stands
for all nodes where their number is known. -/
structure Fits (network : Network Float) : Prop where
  demand : (network.layouts.shortened "ActiveDemand" network.allDemands).length =
      network.extent ∨
    (network.layouts.shortened "ActiveDemand" network.allDemands).length = 1 ∧
      (network.descriptor.isSome ∨ network.nodes = 1)
  kappa : (network.layouts.shortened "Kappa" network.allKappas).length = 1 ∨
    (network.layouts.shortened "Kappa" network.allKappas).length = network.lines

/-- Either the descriptor is read back, or there was nothing to it but the number of nodes. -/
theorem Filable.descriptor_read (filable : network.Filable) (moderate : network.footing.Moderate)
    (stands : network.nodesPage.Stands saved) :
    (∃ again : DcData Float, descriptorOfGroup saved = .ok (some (.dc again)) ∧
        network.descriptor.isSome ∧ again.topology.Resembles network.footing) ∨
      descriptorOfGroup saved = .ok none ∧ (network.descriptor.isSome → network.nodes = 1) ∧
        (loose network.nodes).Resembles network.footing := by
  unfold nodesPage at stands
  have dims := stands.dims
  have unread (absent : saved.dim? "NumberNodes" = none) : descriptorOfGroup saved = .ok none := by
    rw [descriptorOfGroup, Group.hasDim, absent]
    rfl
  cases held : network.descriptor with
  | none =>
      simp only [held, List.forall_mem_cons] at dims
      have bare : network.topology? = none := by rw [topology?, held]; rfl
      refine .inr ⟨unread dims.1, nofun, ?_⟩
      rw [nodes, footing, bare]
      exact .refl _
  | some holding =>
      obtain ⟨data, same, fits⟩ := filable.described holding held
      obtain ⟨descriptor, isShared⟩ := holding
      cases same
      have attached : network.topology? = some data.topology := by rw [topology?, held]; rfl
      rw [footing, attached] at moderate ⊢
      rw [nodes, attached]
      simp only [held] at stands dims
      cases numbered : saved.dim? "NumberNodes" with
      | some count =>
          obtain ⟨again, read, resembles⟩ := fits.restored moderate stands
          refine .inl ⟨again, ?_, rfl, resembles⟩
          rw [descriptorOfGroup, Group.hasDim, numbered, read]
          rfl
      -- only a single node is written without a number
      | none =>
          have few : data.nodes ≤ 1 := by
            by_contra several
            simp only [DcData.filing, if_neg several, DcData.page, List.forall_mem_cons] at dims
            cases numbered.symm.trans dims.1
          have single := (fits.bare few).1
          refine .inr ⟨unread numbered, fun _ => single, ?_⟩
          rw [show loose data.topology.nodes = (DcData.bus : DcData Float).topology from
            congrArg loose single]
          exact fits.resembles_bus few

theorem Filable.nodes_pos (filable : network.Filable) : 0 < network.nodes := by
  cases held : network.descriptor with
  | none =>
      simp only [nodes, topology?, held]
      exact filable.occupied
  | some holding =>
      obtain ⟨data, same, fits⟩ := filable.described holding held
      simp only [nodes, topology?, held, Option.map_some, same]
      exact Nat.pos_of_ne_zero (DcData.validate_eq_ok.mp fits.valid).1

/-- Without descriptor the nodes are counted again. -/
theorem Filable.nodes_located (filable : network.Filable) (fits : network.Fits)
    (intervals : (saved.dim? "NumberIntervals").getD 1 = network.intervals)
    (described : network.descriptor.isSome → network.nodes = 1) {given : Option (List Float)}
    (recalled : Recalled network.layouts "ActiveDemand" network.demand network.allDemands given)
    (block : BlockId) : ((bus block).located saved none given).nodes = network.nodes := by
  cases recalled with
  | absent unset unlisted =>
      change 1 = network.nodes
      cases held : network.descriptor with
      | some holding => exact (described (by rw [held]; rfl)).symm
      | none =>
          have few : ¬1 < network.looseNodes := fun several => by
            cases unlisted.symm.trans (filable.counted held several)
          have := filable.occupied
          simp only [nodes, topology?, held, Option.map_none]
          omega
  | @given values _ _ length =>
      change max (values.length / (saved.dim? "NumberIntervals").getD 1) 1 = network.nodes
      rw [intervals, length]
      -- a full demand is divided among the intervals; a single one makes a single node
      rcases fits.demand with all | ⟨one, known⟩
      · rw [all, extent, Nat.mul_div_cancel_left _ filable.timed]
        exact Nat.max_eq_left filable.nodes_pos
      · rw [one, known.elim described fun single => single]
        exact Nat.max_eq_right (Nat.div_le_self 1 _)

/-- The lines are those of before, whatever number of nodes is read. -/
theorem Filable.lines_located (filable : network.Filable) (moderate : network.footing.Moderate)
    (stands : network.nodesPage.Stands saved) {descriptor : Option (Descriptor Float)}
    (read : descriptorOfGroup saved = .ok descriptor) (given : Option (List Float))
    (block : BlockId) : ((bus block).located saved descriptor given).lines = network.lines := by
  rcases filable.descriptor_read moderate stands with
    ⟨data, readAgain, -, resembles⟩ | ⟨readAgain, -, resembles⟩
  · cases read.symm.trans readAgain
    exact resembles.lines.trans network.lines_footing
  · cases read.symm.trans readAgain
    have none : 0 = network.lines := resembles.lines.trans network.lines_footing
    cases given <;> exact none

theorem Filable.footing_read (filable : network.Filable) (moderate : network.footing.Moderate)
    (fits : network.Fits) (stands : network.nodesPage.Stands saved)
    (intervals : (saved.dim? "NumberIntervals").getD 1 = network.intervals)
    {given : Option (List Float)}
    (recalled : Recalled network.layouts "ActiveDemand" network.demand network.allDemands given)
    (block : BlockId) : ∃ descriptor, descriptorOfGroup saved = .ok descriptor ∧
      ((bus block).located saved descriptor given).footing.Resembles network.footing := by
  rcases filable.descriptor_read moderate stands with
    ⟨again, read, -, resembles⟩ | ⟨read, described, resembles⟩
  · exact ⟨_, read, resembles⟩
  · refine ⟨none, read, ?_⟩
    have bare : ((bus block).located saved none given).footing =
        loose ((bus block).located saved none given).nodes := by
      cases given <;> rfl
    rw [bare, filable.nodes_located fits intervals described recalled]
    exact resembles

theorem isModerate_getD {values : List Float} {default : Float} (usual : IsModerate default)
    (moderate : ∀ value ∈ values, IsModerate value) (index : Nat) :
    IsModerate (values.getD index default) := by
  rw [List.getD_eq_getElem?_getD]
  cases found : values[index]? with
  | none => exact usual
  | some value => exact moderate value (List.mem_of_getElem? found)

theorem length_allDemands (network : Network Float) :
    network.allDemands.length = network.extent := Family.length_table _ _ _

theorem length_allKappas (network : Network Float) :
    network.allKappas.length = network.lines := by simp [allKappas]

theorem Moderate.allDemands (moderate : network.Moderate) :
    ∀ value ∈ network.allDemands, IsModerate value := by
  intro value member
  obtain ⟨interval, -, node, -, rfl⟩ := Family.mem_table.mp member
  rw [demandAt_eq]
  exact isModerate_getD (fun _ => by decide +kernel) moderate.demand _

theorem Moderate.allKappas (moderate : network.Moderate) :
    ∀ value ∈ network.allKappas, IsModerate value := by
  intro value member
  obtain ⟨line, -, rfl⟩ := List.mem_map.mp member
  exact isModerate_getD (fun _ => by decide +kernel) moderate.kappa line

theorem getD_allDemands {interval node : Nat} (interval_lt : interval < network.intervals)
    (node_lt : node < network.nodes) :
    network.allDemands.getD (interval * network.nodes + node) 0 =
      network.demandAt interval node := by
  rw [List.getD_eq_getElem?_getD, allDemands, Family.getElem?_table,
    if_pos (Family.index_lt interval_lt node_lt), Family.index_div interval node_lt,
    Family.index_mod interval node_lt]
  rfl

theorem getD_allKappas {line : Nat} (line_lt : line < network.lines) :
    network.allKappas.getD line 1 = network.kappaAt line := by
  rw [List.getD_eq_getElem?_getD, allKappas, List.getElem?_map, List.getElem?_range line_lt]
  rfl

theorem Resembles.of_levels {again : Network Float}
    (footing : again.footing.Resembles network.footing)
    (intervals : again.intervals = network.intervals)
    (demand : network.demand = [] ∧ again.demand = [] ∨
      List.Forall₂ Alike again.demand network.allDemands)
    (kappa : network.kappa = [] ∧ again.kappa = [] ∨
      List.Forall₂ Alike again.kappa network.allKappas)
    (constantTerm : Alike again.constantTerm network.constantTerm) :
    again.Resembles network where
  footing := footing
  intervals := intervals
  demand interval interval_lt node node_lt := by
    rcases demand with ⟨unset, empty⟩ | close
    · rw [demandAt_eq, demandAt_eq, unset, empty]
      exact .refl _
    · have nodes : again.nodes = network.nodes := by
        rw [← nodes_footing, ← nodes_footing, footing.nodes]
      rw [← getD_allDemands interval_lt node_lt, demandAt_eq, nodes]
      exact alike_getD close _ 0
  kappa line line_lt := by
    rcases kappa with ⟨unset, empty⟩ | close
    · rw [kappaAt, kappaAt, unset, empty]
      exact .refl _
    · rw [← getD_allKappas line_lt]
      exact alike_getD close line 1
  constantTerm := constantTerm

/-- On the nodes and lines of before, what is read of the arrays is completed to what they were. -/
theorem Fits.completed (fits : network.Fits) {given levels : Option (List Float)}
    (demands : Recalled network.layouts "ActiveDemand" network.demand network.allDemands given)
    (kappas : Recalled network.layouts "Kappa" network.kappa network.allKappas levels)
    {constant : Float} (close : Alike constant network.constantTerm) {located : Network Float}
    (footing : located.footing.Resembles network.footing)
    (intervals : located.intervals = network.intervals) (layouts : Layouts) :
    ∃ demand kappa, broadcastPresent given located.extent "ActiveDemand" = .ok demand ∧
      broadcastPresent levels located.lines "Kappa" = .ok kappa ∧
      Resembles { located with demand, kappa, constantTerm := constant, layouts } network := by
  have lines : located.lines = network.lines := by
    rw [← lines_footing, ← lines_footing, footing.lines]
  have extent : located.extent = network.extent := by
    rw [extent, extent, intervals, ← nodes_footing, ← nodes_footing, footing.nodes]
  obtain ⟨demand, demandFilled, closeDemand⟩ := demands.completed network.length_allDemands
    (fits.demand.symm.imp_left And.left) "ActiveDemand"
  obtain ⟨kappa, kappaFilled, closeKappa⟩ :=
    kappas.completed network.length_allKappas fits.kappa "Kappa"
  exact ⟨demand, kappa, extent ▸ demandFilled, lines ▸ kappaFilled,
    .of_levels footing intervals closeDemand closeKappa close⟩

theorem Moderate.recalled (moderate : network.Moderate) (stands : network.levelsPage.Stands saved) :
    ∃ given levels, saved.doubles? "ActiveDemand" = .ok given ∧
      Recalled network.layouts "ActiveDemand" network.demand network.allDemands given ∧
      saved.doubles? "Kappa" = .ok levels ∧
      Recalled network.layouts "Kappa" network.kappa network.allKappas levels := by
  have fields := stands.fields
  simp only [levelsPage, List.forall_mem_cons] at fields
  obtain ⟨demandFiled, kappaFiled, -⟩ := fields
  obtain ⟨given, hasDemand, demands⟩ := recalled_of_filed moderate.allDemands demandFiled
  obtain ⟨levels, hasKappa, kappas⟩ := recalled_of_filed moderate.allKappas kappaFiled
  exact ⟨given, levels, hasDemand, demands, hasKappa, kappas⟩

theorem Moderate.constant_read (moderate : network.Moderate)
    (stands : network.levelsPage.Stands saved) :
    ∃ constant, constantOfGroup saved = .ok constant ∧ Alike constant network.constantTerm := by
  have fields := stands.fields
  simp only [levelsPage, List.forall_mem_cons] at fields
  obtain ⟨-, -, filed, -⟩ := fields
  obtain ⟨given, constant, read, same, close, -⟩ :=
    Layouts.restored_single moderate.constantTerm.storable filed
  exact ⟨constant, constantOfGroup_eq_ok.mpr ⟨given, read, same⟩, close⟩

theorem Filable.intervals_read (filable : network.Filable)
    (stands : network.levelsPage.Stands saved) :
    (saved.dim? "NumberIntervals").getD 1 = network.intervals := by
  have dims := stands.dims
  simp only [levelsPage, List.forall_mem_cons] at dims
  rw [dims.1]
  split
  · rfl
  · rename_i single
    have := filable.timed
    rw [Option.getD_none]
    omega

/-- What fits is read back as it was. -/
theorem Filable.restored (filable : network.Filable) (moderate : network.Moderate)
    (fits : network.Fits) (before : Nat) :
    ∃ again, Network.ofGroup network.sheet.group before = (.ok again, before + 1) ∧
      again.Resembles network := by
  obtain ⟨nodesStand, levelsStand⟩ := Page.stands_append.mp network.sheet.stands
  have intervals := filable.intervals_read levelsStand
  obtain ⟨given, levels, hasDemand, demands, hasKappa, kappas⟩ := moderate.recalled levelsStand
  obtain ⟨constant, hasConstant, closeConstant⟩ := moderate.constant_read levelsStand
  obtain ⟨descriptor, hasDescriptor, footing⟩ :=
    filable.footing_read moderate.footing fits nodesStand intervals demands ⟨before⟩
  obtain ⟨demand, kappa, demandFilled, kappaFilled, resembles⟩ := fits.completed demands kappas
    closeConstant footing ((intervals_located _ _ _ _).trans intervals) (.ofGroup _)
  refine ⟨_, ofGroup_eq_ok.mpr ⟨filled_eq_ok.mpr ⟨intervals ▸ filable.timed.ne', given, hasDemand,
    descriptor, hasDescriptor, demand, demandFilled, levels, hasKappa, kappa, kappaFilled, constant,
    hasConstant, rfl⟩, rfl⟩, resembles⟩

/-- Without the forms that fit, the nodes are not those of before, or nothing is read. -/
theorem Filable.fits_of_read (filable : network.Filable) (moderate : network.Moderate)
    {again : Network Float} {before after : Nat}
    (read : Network.ofGroup network.sheet.group before = (.ok again, after))
    (nodes : again.nodes = network.nodes) : network.Fits := by
  obtain ⟨read, -⟩ := ofGroup_eq_ok.mp read
  obtain ⟨-, given, hasDemand, descriptor, hasDescriptor, demand, demandFilled, levels, hasKappa,
    kappa, kappaFilled, constant, -, rfl⟩ := filled_eq_ok.mp read
  obtain ⟨nodesStand, levelsStand⟩ := Page.stands_append.mp network.sheet.stands
  have intervals := filable.intervals_read levelsStand
  obtain ⟨_, _, hasDemandAgain, demands, hasKappaAgain, kappas⟩ := moderate.recalled levelsStand
  cases hasDemand.symm.trans hasDemandAgain
  cases hasKappa.symm.trans hasKappaAgain
  replace nodes : ((bus ⟨before⟩).located network.sheet.group descriptor given).nodes =
    network.nodes := nodes
  have extent : ((bus ⟨before⟩).located network.sheet.group descriptor given).extent =
      network.extent := by
    rw [extent, extent, nodes, intervals_located, intervals]
  have lines := filable.lines_located moderate.footing nodesStand hasDescriptor given ⟨before⟩
  refine ⟨?_, ?_⟩
  · refine (demands.form network.length_allDemands (extent ▸ demandFilled)).imp_right ?_
    rintro ⟨single, value, rfl⟩
    refine ⟨single, ?_⟩
    rcases filable.descriptor_read moderate.footing nodesStand with
      ⟨data, -, described, -⟩ | ⟨readAgain, -, -⟩
    · exact .inl described
    · cases hasDescriptor.symm.trans readAgain
      refine .inr (nodes.symm.trans ?_)
      exact Nat.max_eq_right (Nat.div_le_self 1 _)
  · exact (kappas.form network.length_allKappas (lines ▸ kappaFilled)).symm.imp_left And.left

end Dispatch.Network
