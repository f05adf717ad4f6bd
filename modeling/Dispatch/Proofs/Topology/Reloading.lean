import Dispatch.Proofs.Group.Recovery
import Dispatch.Proofs.Topology.Resaving

namespace Dispatch

/-! Topologies that are saved and read back, however they were made and edited. A single node has
no lines, so that of its topology only the names are written. -/

/-- The same lines between the same nodes, up to the sign of a zero. -/
structure Topology.Resembles (first second : Topology Float) : Prop where
  nodes : first.nodes = second.nodes
  lines : first.lines = second.lines
  start : first.start = second.start
  finish : first.finish = second.finish
  minFlow : List.Forall₂ Alike first.minFlow second.minFlow
  maxFlow : List.Forall₂ Alike first.maxFlow second.maxFlow
  susceptance : List.Forall₂ Alike first.susceptance second.susceptance
  cost : List.Forall₂ Alike first.cost second.cost
  /-- Of a single node, which has no lines, no matrix is kept. -/
  factors : Option.Rel (List.Forall₂ Alike) first.factors second.factors ∨
    second.nodes = 1 ∧ first.factors = none ∧ second.factors = some []

theorem Topology.Resembles.refl (topology : Topology Float) : topology.Resembles topology where
  nodes := rfl
  lines := rfl
  start := rfl
  finish := rfl
  minFlow := forall₂_alike_refl _
  maxFlow := forall₂_alike_refl _
  susceptance := forall₂_alike_refl _
  cost := forall₂_alike_refl _
  factors := by
    cases topology.factors with
    | none => exact .inl .none
    | some matrix => exact .inl (.some (forall₂_alike_refl matrix))

structure Topology.Moderate (topology : Topology Float) : Prop where
  minFlow : ∀ value ∈ topology.minFlow, IsModerate value
  maxFlow : ∀ value ∈ topology.maxFlow, IsModerate value
  susceptance : ∀ value ∈ topology.susceptance, IsModerate value
  cost : ∀ value ∈ topology.cost, IsModerate value
  factors : ∀ matrix, topology.factors = some matrix → ∀ value ∈ matrix, IsModerate value

namespace DcData

variable {data : DcData Float}

/-- Made at once or read, and then edited. -/
inductive Made : DcData Float → Prop
  | bus : Made DcData.bus
  | new {nodes : Nat} {start finish : List Nat} {minFlow maxFlow : List Float}
      {data : DcData Float} (created : DcData.new nodes start finish minFlow maxFlow = .ok data) :
      Made data
  | ofGroup {group : Group} {data : DcData Float} (read : DcData.ofGroup group = .ok data) :
      Made data
  | edited {data result : DcData Float} {edit : Edit Float} (made : Made data)
      (edited : data.edited edit = .ok result) : Made result

/-- The arrays of one value per line. -/
def lineArrays : List String := ["MinPowerFlow", "MaxPowerFlow", "Susceptance", "NetworkCost"]

/-- What the checks of a topology and of its edits ensure, and forms that can be completed. -/
structure Filable (data : DcData Float) : Prop where
  valid : data.validate = .ok ()
  susceptance :
    Topology.checkOptionalLength "Susceptance" data.lines data.susceptance.length = .ok ()
  cost : Topology.checkOptionalLength "NetworkCost" data.lines data.cost.length = .ok ()
  factors : ∀ matrix, data.factors = some matrix → matrix.length = data.lines * data.nodes
  nodeNames : Topology.checkOptionalLength "NodeName" data.nodes data.nodeNames.length = .ok ()
  lineNames : Topology.checkOptionalLength "LineName" data.lines data.lineNames.length = .ok ()
  lineForms : 1 < data.nodes → ∀ name ∈ lineArrays, ∀ layout,
    data.layouts.layout? name = some layout → layout.size = 1 ∨ layout.size = data.lines
  factorsForm : 1 < data.nodes → ∀ layout, data.layouts.layout? "PTDF" = some layout →
    layout.size = data.lines * data.nodes

theorem exists_checkLength {what : String} {expected found : Nat} {rest : Prop} :
    (∃ answer, Topology.checkLength what expected found = .ok answer ∧ rest) ↔
      found = expected ∧ rest := by
  unfold Topology.checkLength
  split <;> simp_all

theorem validate_eq_ok : data.validate = .ok () ↔
    data.nodes ≠ 0 ∧ ¬(data.nodes = 1 ∧ 0 < data.lines) ∧ data.finish.length = data.lines ∧
      data.minFlow.length = data.lines ∧ data.maxFlow.length = data.lines ∧
      checkEndpoints data.nodes 0 (data.start.zip data.finish) = .ok () := by
  unfold validate
  by_cases none : data.nodes = 0
  · simp [none]
  by_cases lone : data.nodes = 1 ∧ 0 < data.lines
  · simp [lone]
  simp only [if_neg none, if_neg lone, Except.bind_eq_ok, exists_checkLength]
  exact ⟨fun checked => ⟨none, lone, checked⟩, fun checked => checked.2.2⟩

theorem length_of_checkOptional {what : String} {expected found : Nat}
    (checked : Topology.checkOptionalLength what expected found = .ok ()) :
    found = 0 ∨ found = expected := by
  unfold Topology.checkOptionalLength at checked
  split at checked
  · exact .inl ‹_›
  · exact .inr (checkLength_eq_ok.mp checked)

/-- A single node has no lines and nothing that belongs to them. -/
theorem Filable.bare (filable : data.Filable) (few : data.nodes ≤ 1) :
    data.nodes = 1 ∧ data.start = [] ∧ data.finish = [] ∧ data.minFlow = [] ∧
      data.maxFlow = [] ∧ data.susceptance = [] ∧ data.cost = [] ∧
      ∀ matrix, data.factors = some matrix → matrix = [] := by
  obtain ⟨some, lone, finish, minFlow, maxFlow, -⟩ := validate_eq_ok.mp filable.valid
  have single : data.nodes = 1 := by omega
  have none : data.lines = 0 := by
    rw [not_and, Nat.not_lt, Nat.le_zero] at lone
    exact lone single
  have empty {α : Type} {values : List α} (length : values.length = data.lines) : values = [] :=
    List.eq_nil_of_length_eq_zero (length.trans none)
  have absent {α : Type} {what : String} {values : List α}
      (checked : Topology.checkOptionalLength what data.lines values.length = .ok ()) :
      values = [] := by
    rcases length_of_checkOptional checked with zero | all
    · exact List.eq_nil_of_length_eq_zero zero
    · exact empty all
  refine ⟨single, empty rfl, empty finish, empty minFlow, empty maxFlow,
    absent filable.susceptance, absent filable.cost, fun matrix given => ?_⟩
  have length := filable.factors matrix given
  rw [none, Nat.zero_mul] at length
  exact List.eq_nil_of_length_eq_zero length

theorem Filable.resembles_bus (filable : data.Filable) (few : data.nodes ≤ 1) :
    (bus : DcData Float).topology.Resembles data.topology := by
  obtain ⟨single, start, finish, minFlow, maxFlow, susceptance, cost, factors⟩ :=
    filable.bare few
  obtain ⟨_, _, _, _, _, _, _, matrix, _, _, _⟩ := data
  subst single start finish minFlow maxFlow susceptance cost
  refine ⟨rfl, rfl, rfl, rfl, .nil, .nil, .nil, .nil, ?_⟩
  cases matrix with
  | none => exact .inl .none
  | some matrix => exact .inr ⟨rfl, rfl, congrArg some (factors matrix rfl)⟩

theorem checkOptional_of_gives {group : Group} {name : String} {values : List Float} {lines : Nat}
    (gives : group.Gives name (broadcast · lines name) values) :
    Topology.checkOptionalLength name lines values.length = .ok () := by
  unfold Topology.checkOptionalLength
  rcases gives with ⟨-, rfl⟩ | ⟨given, -, filled⟩
  · rfl
  · split
    · rfl
    · exact checkLength_eq_ok.mpr (broadcast_ok filled)

theorem form_of_gives {group : Group} {name : String} {values : List Float} {lines : Nat}
    (gives : group.Gives name (broadcast · lines name) values) {layout : Layout}
    (found : (Layouts.ofGroup group).layout? name = some layout) :
    layout.size = 1 ∨ layout.size = lines := by
  have present := (Layouts.hasField_ofGroup group name).symm.trans (Option.isSome_of_eq_some found)
  obtain ⟨given, read, filled⟩ := gives.of_present present
  rw [(Group.doubles?_layout read found).1]
  exact broadcast_form filled

theorem Reads.filable {group : Group} (reads : Reads group data) : data.Filable where
  valid := reads.valid
  susceptance := checkOptional_of_gives reads.susceptance
  cost := checkOptional_of_gives reads.cost
  factors := reads.factorsFit
  nodeNames := reads.nodeNamesFit
  lineNames := reads.lineNamesFit
  lineForms _ := by
    simp only [lineArrays, List.forall_mem_cons, reads.layouts]
    exact ⟨fun _ => form_of_gives reads.minFlow, fun _ => form_of_gives reads.maxFlow,
      fun _ => form_of_gives reads.susceptance, fun _ => form_of_gives reads.cost, nofun⟩
  factorsForm _ layout found := by
    rw [reads.layouts] at found
    cases given : data.factors with
    | none =>
        have absent := Group.doubles?_eq_none.mp (reads.factors.trans (congrArg Except.ok given))
        rw [Layouts.layout?_ofGroup, absent] at found
        cases found
    | some matrix =>
        have read := reads.factors.trans (congrArg Except.ok given)
        exact (Group.doubles?_layout read found).1.trans (reads.factorsFit matrix given)

/-- A single node as it stands in a group. -/
structure ReadsSingle (group : Group) (data : DcData Float) : Prop where
  nodes : (group.dim? "NumberNodes").getD 1 = 1
  nodeNames : group.Lists "NodeName" (.texts data.nodeNames)
  nodeNamesFit : Topology.checkOptionalLength "NodeName" 1 data.nodeNames.length = .ok ()
  lineNames : group.Lists "LineName" (.texts data.lineNames)
  lineNamesFit : Topology.checkOptionalLength "LineName" 0 data.lineNames.length = .ok ()
  bare : data = { (bus : DcData Float) with
    nodeNames := data.nodeNames
    lineNames := data.lineNames
    layouts := Layouts.ofGroup group }

theorem ofGroup_eq_ok_of_single {group : Group} (few : (group.dim? "NumberNodes").getD 1 ≤ 1) :
    ofGroup group = .ok data ↔ ReadsSingle group data := by
  unfold ofGroup linesOfGroup
  rw [if_pos few]
  constructor
  · intro read
    obtain ⟨lined, same, read⟩ := Except.bind_eq_ok.mp read
    cases same
    obtain ⟨_, valid, read⟩ := Except.bind_eq_ok.mp read
    have single : (group.dim? "NumberNodes").getD 1 = 1 := by
      have some : (group.dim? "NumberNodes").getD 1 ≠ 0 := (validate_eq_ok.mp valid).1
      omega
    obtain ⟨_, factors, read⟩ := Except.bind_eq_ok.mp read
    cases factors
    obtain ⟨nodeNames, hasNodeNames, read⟩ := Except.bind_eq_ok.mp read
    obtain ⟨_, nodesNamed, read⟩ := Except.bind_eq_ok.mp read
    obtain ⟨⟨⟩, nodeNamesFit, nodesNamed⟩ := Except.bind_eq_ok.mp nodesNamed
    cases nodesNamed
    obtain ⟨lineNames, hasLineNames, read⟩ := Except.bind_eq_ok.mp read
    obtain ⟨⟨⟩, lineNamesFit, read⟩ := Except.bind_eq_ok.mp read
    cases read
    exact {
      nodes := single
      nodeNames := Group.texts?_getD.mp ⟨nodeNames, hasNodeNames, rfl⟩
      nodeNamesFit := single ▸ nodeNamesFit
      lineNames := Group.texts?_getD.mp ⟨lineNames, hasLineNames, rfl⟩
      lineNamesFit := lineNamesFit
      bare := by rw [single]; rfl }
  · intro reads
    obtain ⟨givenNodes, hasNodeNames, nodesNamed⟩ := Group.texts?_getD.mpr reads.nodeNames
    obtain ⟨givenLines, hasLineNames, linesNamed⟩ := Group.texts?_getD.mpr reads.lineNames
    rw [reads.nodes]
    refine Except.bind_eq_ok.mpr ⟨_, rfl, Except.bind_eq_ok.mpr ⟨⟨⟩, rfl, ?_⟩⟩
    refine Except.bind_eq_ok.mpr ⟨_, rfl, Except.bind_eq_ok.mpr ⟨_, hasNodeNames, ?_⟩⟩
    rw [nodesNamed]
    refine Except.bind_eq_ok.mpr ⟨_, Except.bind_eq_ok.mpr ⟨⟨⟩, reads.nodeNamesFit, rfl⟩, ?_⟩
    refine Except.bind_eq_ok.mpr ⟨_, hasLineNames, ?_⟩
    rw [linesNamed]
    refine Except.bind_eq_ok.mpr ⟨⟨⟩, reads.lineNamesFit, ?_⟩
    rw [reads.bare]
    rfl

theorem ReadsSingle.filable {group : Group} (reads : ReadsSingle group data) : data.Filable := by
  have nodeNames := reads.nodeNamesFit
  have lineNames := reads.lineNamesFit
  rw [reads.bare]
  exact {
    valid := rfl
    susceptance := rfl
    cost := rfl
    factors := nofun
    nodeNames := nodeNames
    lineNames := lineNames
    lineForms := fun several => absurd several (lt_irrefl 1)
    factorsForm := fun several => absurd several (lt_irrefl 1) }

theorem Filable.edited {result : DcData Float} {edit : Edit Float} (filable : data.Filable)
    (changed : data.edited edit = .ok result) : result.Filable := by
  cases edit with
  | susceptance values =>
      obtain ⟨⟨⟩, checked, same⟩ := Except.bind_eq_ok.mp changed
      cases same
      exact { filable with susceptance := checked }
  | cost values =>
      obtain ⟨⟨⟩, checked, same⟩ := Except.bind_eq_ok.mp changed
      cases same
      exact { filable with cost := checked }
  | factors matrix =>
      cases matrix with
      | none =>
          cases changed
          exact { filable with factors := nofun }
      | some matrix =>
          obtain ⟨⟨⟩, checked, same⟩ := Except.bind_eq_ok.mp changed
          cases same
          refine { filable with factors := fun _ given => ?_ }
          cases given
          exact checkLength_eq_ok.mp checked
  | flowLimits minFlow maxFlow =>
      obtain ⟨lower, filledMin, changed⟩ := Except.bind_eq_ok.mp changed
      obtain ⟨upper, filledMax, changed⟩ := Except.bind_eq_ok.mp changed
      cases changed
      obtain ⟨some, lone, finish, -, -, endpoints⟩ := validate_eq_ok.mp filable.valid
      exact { filable with
        valid := validate_eq_ok.mpr
          ⟨some, lone, finish, broadcast_ok filledMin, broadcast_ok filledMax, endpoints⟩ }
  | nodeNames names =>
      obtain ⟨⟨⟩, checked, same⟩ := Except.bind_eq_ok.mp changed
      cases same
      exact { filable with nodeNames := checked }
  | lineNames names =>
      obtain ⟨⟨⟩, checked, same⟩ := Except.bind_eq_ok.mp changed
      cases same
      exact { filable with lineNames := checked }

theorem Made.filable (made : data.Made) : data.Filable := by
  induction made with
  | bus =>
      exact {
        valid := rfl
        susceptance := rfl
        cost := rfl
        factors := nofun
        nodeNames := rfl
        lineNames := rfl
        lineForms := fun several => absurd several (lt_irrefl 1)
        factorsForm := fun several => absurd several (lt_irrefl 1) }
  | new created =>
      obtain ⟨⟨⟩, valid, same⟩ := Except.bind_eq_ok.mp created
      cases same
      exact {
        valid := valid
        susceptance := rfl
        cost := rfl
        factors := nofun
        nodeNames := rfl
        lineNames := rfl
        lineForms := fun _ _ _ _ => nofun
        factorsForm := fun _ _ => nofun }
  | @ofGroup group _ read =>
      rcases Nat.lt_or_ge 1 ((group.dim? "NumberNodes").getD 1) with several | few
      · exact ((ofGroup_eq_ok several).mp read).filable
      · exact ((ofGroup_eq_ok_of_single few).mp read).filable
  | edited _ changed filable => exact filable.edited changed

def singlePage (data : DcData Float) : Page where
  dims := [("NumberNodes",
    if data.layouts.hasDim "NumberNodes" then some data.nodes else none)]
  fields := [
    ("NodeName", Group.plainField data.layouts "NodeName" ["NumberNodes"] (.texts data.nodeNames)),
    ("LineName", none)]

/-- What a topology adds to a group. -/
def filing (data : DcData Float) : Page :=
  if data.nodes ≤ 1 then data.singlePage else data.page

theorem Filable.write_eq (filable : data.Filable) (group : Group) :
    data.write group = data.filing.fillIn group := by
  unfold filing
  by_cases few : data.nodes ≤ 1
  · have numbered : (data.nodes ≠ 1 ∨ data.layouts.hasDim "NumberNodes" = true) ↔
        data.layouts.hasDim "NumberNodes" = true := by simp [(filable.bare few).1]
    simp only [write, if_pos few, numbered, putNames, Group.ite_putTexts, singlePage,
      Group.setDim_eq_fillDim, Group.ite_fillDim]
    rfl
  · rw [if_neg few, write_several (Nat.lt_of_not_le few)]

namespace Filable

variable {saved : Group} {name : String} {values : List Float}

theorem restored_array (filable : data.Filable) (several : 1 < data.nodes)
    (listed : name ∈ lineArrays) (full : values.length = data.lines)
    (moderate : ∀ value ∈ values, IsModerate value)
    (filed : saved.field? name = some (data.layouts.fieldFor name ["NumberLines"] values)) :
    ∃ given restored, saved.doubles? name = .ok (some given) ∧
      broadcast given data.lines name = .ok restored ∧ List.Forall₂ Alike restored values := by
  refine Layouts.Fits.restored ?_ full moderate filed
  rcases data.layouts.shortened_cases name values with same | ⟨layout, found, fits⟩
  · exact .inr (same.symm ▸ full)
  · rw [Layouts.Fits, length_of_compact? fits]
    exact filable.lineForms several name listed layout found

theorem restored_optional (filable : data.Filable) (several : 1 < data.nodes)
    (listed : name ∈ lineArrays)
    (checked : Topology.checkOptionalLength name data.lines values.length = .ok ())
    (moderate : ∀ value ∈ values, IsModerate value)
    (filed : saved.field? name = Group.givenField data.layouts name ["NumberLines"] values) :
    ∃ restored, saved.Gives name (broadcast · data.lines name) restored ∧
      List.Forall₂ Alike restored values := by
  by_cases empty : values.isEmpty
  · obtain rfl := List.isEmpty_iff.mp empty
    exact ⟨[], .inl ⟨filed, rfl⟩, .nil⟩
  · unfold Group.givenField at filed
    rw [if_pos empty] at filed
    have full : values.length = data.lines := by
      refine (length_of_checkOptional checked).resolve_left fun none => empty ?_
      exact List.isEmpty_iff.mpr (List.eq_nil_of_length_eq_zero none)
    obtain ⟨given, restored, read, filled, close⟩ :=
      filable.restored_array several listed full moderate filed
    exact ⟨restored, .inr ⟨given, read, filled⟩, close⟩

theorem restored_factors (filable : data.Filable) (several : 1 < data.nodes)
    (moderate : data.topology.Moderate)
    (filed : saved.field? "PTDF" =
      data.factors.map (data.layouts.fieldFor "PTDF" ["NumberLines", "NumberNodes"])) :
    ∃ restored, saved.doubles? "PTDF" = .ok restored ∧
      Option.Rel (List.Forall₂ Alike) restored data.factors := by
  cases given : data.factors with
  | none =>
      rw [given] at filed
      exact ⟨none, Group.doubles?_eq_none.mpr filed, .none⟩
  | some matrix =>
      rw [given, Option.map_some] at filed
      have whole : (data.layouts.shortened "PTDF" matrix).length = matrix.length := by
        rcases data.layouts.shortened_cases "PTDF" matrix with same | ⟨layout, found, fits⟩
        · rw [same]
        · rw [length_of_compact? fits, filable.factorsForm several layout found,
            filable.factors matrix given]
      obtain ⟨restored, read, close⟩ :=
        Layouts.restored_whole whole (moderate.factors matrix given) filed
      exact ⟨some restored, read, .some close⟩

theorem factors_fit (filable : data.Filable) {restored : List Float}
    (close : Option.Rel (List.Forall₂ Alike) (some restored) data.factors) :
    restored.length = data.lines * data.nodes := by
  generalize given : data.factors = factors at close
  cases close with
  | some alike => exact alike.length_eq.trans (filable.factors _ given)

theorem restored_several (filable : data.Filable) (several : 1 < data.nodes)
    (moderate : data.topology.Moderate) (stands : data.page.Stands saved) :
    ∃ again, DcData.ofGroup saved = .ok again ∧ again.topology.Resembles data.topology := by
  have dims := stands.dims
  have fields := stands.fields
  simp only [page, List.forall_mem_cons] at dims fields
  obtain ⟨nodes, lines, -⟩ := dims
  obtain ⟨nodeNames, start, finish, minFlow, maxFlow, susceptance, cost, factors, lineNames, -⟩ :=
    fields
  obtain ⟨some, lone, finishes, minFlows, maxFlows, endpoints⟩ := validate_eq_ok.mp filable.valid
  obtain ⟨givenMin, lower, readMin, filledMin, closeMin⟩ :=
    filable.restored_array several (by simp [lineArrays]) minFlows moderate.minFlow minFlow
  obtain ⟨givenMax, upper, readMax, filledMax, closeMax⟩ :=
    filable.restored_array several (by simp [lineArrays]) maxFlows moderate.maxFlow maxFlow
  obtain ⟨weights, givesWeights, closeWeights⟩ := filable.restored_optional several
    (by simp [lineArrays]) filable.susceptance moderate.susceptance susceptance
  obtain ⟨prices, givesPrices, closePrices⟩ := filable.restored_optional several
    (by simp [lineArrays]) filable.cost moderate.cost cost
  obtain ⟨matrix, readFactors, closeFactors⟩ :=
    filable.restored_factors several moderate factors
  have many : 1 < (saved.dim? "NumberNodes").getD 1 := by
    rw [nodes]
    exact several
  refine ⟨{ data with
    minFlow := lower
    maxFlow := upper
    susceptance := weights
    cost := prices
    factors := matrix
    layouts := Layouts.ofGroup saved }, (ofGroup_eq_ok many).mpr ?_, ?_⟩
  · exact {
      nodes := by rw [nodes]; rfl
      several := several
      lines := lines
      start := Group.counts?_of_counts start
      finish := Group.counts?_of_counts finish
      hasMinFlow := Group.isSome_field?_of_doubles? readMin
      hasMaxFlow := Group.isSome_field?_of_doubles? readMax
      minFlow := .inr ⟨givenMin, readMin, filledMin⟩
      maxFlow := .inr ⟨givenMax, readMax, filledMax⟩
      susceptance := givesWeights
      cost := givesPrices
      factors := readFactors
      valid := validate_eq_ok.mpr
        ⟨some, lone, finishes, broadcast_ok filledMin, broadcast_ok filledMax, endpoints⟩
      factorsFit := fun restored same => filable.factors_fit (same ▸ closeFactors)
      nodeNames := Group.lists_again nodeNames
      nodeNamesFit := filable.nodeNames
      lineNames := Group.lists_again lineNames
      lineNamesFit := filable.lineNames
      layouts := rfl }
  · exact ⟨rfl, rfl, rfl, rfl, closeMin, closeMax, closeWeights, closePrices, .inl closeFactors⟩

theorem restored_single (filable : data.Filable) (few : data.nodes ≤ 1)
    (stands : data.singlePage.Stands saved) :
    ∃ again, DcData.ofGroup saved = .ok again ∧ again.topology.Resembles data.topology := by
  have dims := stands.dims
  have fields := stands.fields
  simp only [singlePage, List.forall_mem_cons] at dims fields
  obtain ⟨nodes, -⟩ := dims
  obtain ⟨nodeNames, lineNames, -⟩ := fields
  have single := (filable.bare few).1
  have numbered : (saved.dim? "NumberNodes").getD 1 = 1 := by
    rw [nodes, single]
    split <;> rfl
  refine ⟨{ (bus : DcData Float) with
    nodeNames := data.nodeNames
    layouts := Layouts.ofGroup saved }, (ofGroup_eq_ok_of_single numbered.le).mpr ?_,
    { filable.resembles_bus few with }⟩
  exact {
    nodes := numbered
    nodeNames := Group.lists_again nodeNames
    nodeNamesFit := single ▸ filable.nodeNames
    lineNames := .inl ⟨lineNames, rfl⟩
    lineNamesFit := rfl
    bare := rfl }

/-- What was written is read as the same lines between the same nodes. -/
theorem restored (filable : data.Filable) (moderate : data.topology.Moderate)
    (stands : data.filing.Stands saved) :
    ∃ again, DcData.ofGroup saved = .ok again ∧ again.topology.Resembles data.topology := by
  unfold filing at stands
  split at stands
  · exact filable.restored_single ‹_› stands
  · rename_i several
    exact filable.restored_several (Nat.lt_of_not_le several) moderate stands

end Filable

end DcData

end Dispatch
