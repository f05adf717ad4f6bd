import Dispatch.Proofs.Group.Forms
import Dispatch.Topology.File

namespace Dispatch.DcData

/-! Networks of several nodes that are read, written and read again. Their parts stand in the
group of the schedule, beside its own. -/

variable {group saved : Group} {data : DcData Float}

structure Reads (group : Group) (data : DcData Float) : Prop where
  nodes : (group.dim? "NumberNodes").getD 1 = data.nodes
  several : 1 < data.nodes
  lines : group.dim? "NumberLines" = some data.lines
  start : group.counts? "StartLine" = .ok (some data.start)
  finish : group.counts? "EndLine" = .ok (some data.finish)
  hasMinFlow : (group.field? "MinPowerFlow").isSome
  hasMaxFlow : (group.field? "MaxPowerFlow").isSome
  minFlow : group.Gives "MinPowerFlow" (broadcast · data.lines "MinPowerFlow") data.minFlow
  maxFlow : group.Gives "MaxPowerFlow" (broadcast · data.lines "MaxPowerFlow") data.maxFlow
  susceptance : group.Gives "Susceptance" (broadcast · data.lines "Susceptance") data.susceptance
  cost : group.Gives "NetworkCost" (broadcast · data.lines "NetworkCost") data.cost
  factors : group.doubles? "PTDF" = .ok data.factors
  valid : data.validate = .ok ()
  factorsFit : ∀ matrix, data.factors = some matrix →
    matrix.length = data.lines * data.nodes
  nodeNames : group.Lists "NodeName" (.texts data.nodeNames)
  nodeNamesFit : Topology.checkOptionalLength "NodeName" data.nodes data.nodeNames.length = .ok ()
  lineNames : group.Lists "LineName" (.texts data.lineNames)
  lineNamesFit : Topology.checkOptionalLength "LineName" data.lines data.lineNames.length = .ok ()
  layouts : data.layouts = Layouts.ofGroup group

theorem optional_eq_ok {name : String} {lines : Nat} {values : List Float} :
    optional group name lines = .ok values ↔
      group.Gives name (broadcast · lines name) values := by
  have sets (given : List Float) :
      broadcast given lines name = (broadcast given lines name).map id := by
    cases broadcast given lines name <;> rfl
  refine (Group.gives_eq_ok id rfl sets).trans ?_
  simp

theorem checkLength_eq_ok {what : String} {expected found : Nat} :
    Topology.checkLength what expected found = .ok () ↔ found = expected := by
  unfold Topology.checkLength
  split <;> simp_all

/-- The lines of a network of several nodes, before names and factors are checked. -/
theorem linesOfGroup_eq_ok {nodes : Nat} (several : 1 < nodes) :
    linesOfGroup group nodes = .ok data ↔
      group.dim? "NumberLines" = some data.lines ∧
      group.counts? "StartLine" = .ok (some data.start) ∧
      group.counts? "EndLine" = .ok (some data.finish) ∧
      (∃ given, group.doubles? "MinPowerFlow" = .ok (some given) ∧
        broadcast given data.lines "MinPowerFlow" = .ok data.minFlow) ∧
      (∃ given, group.doubles? "MaxPowerFlow" = .ok (some given) ∧
        broadcast given data.lines "MaxPowerFlow" = .ok data.maxFlow) ∧
      group.Gives "Susceptance" (broadcast · data.lines "Susceptance") data.susceptance ∧
      group.Gives "NetworkCost" (broadcast · data.lines "NetworkCost") data.cost ∧
      group.doubles? "PTDF" = .ok data.factors ∧
      data.nodes = nodes ∧ data.nodeNames = [] ∧ data.lineNames = [] ∧
      data.layouts = Layouts.none := by
  unfold linesOfGroup
  rw [if_neg (by omega)]
  constructor
  · intro read
    obtain ⟨lines, hasLines, read⟩ := Except.bind_eq_ok.mp read
    obtain ⟨start, hasStart, read⟩ := Except.bind_eq_ok.mp read
    obtain ⟨finish, hasFinish, read⟩ := Except.bind_eq_ok.mp read
    obtain ⟨givenMin, hasMin, read⟩ := Except.bind_eq_ok.mp read
    obtain ⟨minFlow, fullMin, read⟩ := Except.bind_eq_ok.mp read
    obtain ⟨givenMax, hasMax, read⟩ := Except.bind_eq_ok.mp read
    obtain ⟨maxFlow, fullMax, read⟩ := Except.bind_eq_ok.mp read
    obtain ⟨_, fits, read⟩ := Except.bind_eq_ok.mp read
    obtain ⟨susceptance, susceptances, read⟩ := Except.bind_eq_ok.mp read
    obtain ⟨cost, costs, read⟩ := Except.bind_eq_ok.mp read
    obtain ⟨factors, hasFactors, read⟩ := Except.bind_eq_ok.mp read
    cases read
    obtain rfl : start.length = lines := checkLength_eq_ok.mp fits
    exact ⟨Group.dim_eq_ok.mp hasLines, Group.counts_eq_ok.mp hasStart,
      Group.counts_eq_ok.mp hasFinish, ⟨givenMin, Group.doubles_eq_ok.mp hasMin, fullMin⟩,
      ⟨givenMax, Group.doubles_eq_ok.mp hasMax, fullMax⟩, optional_eq_ok.mp susceptances,
      optional_eq_ok.mp costs, hasFactors, rfl, rfl, rfl, rfl⟩
  · rintro ⟨hasLines, hasStart, hasFinish, ⟨givenMin, hasMin, fullMin⟩,
      ⟨givenMax, hasMax, fullMax⟩, susceptances, costs, hasFactors, rfl, unnamed, plain, fresh⟩
    obtain ⟨nodes, start, finish, minFlow, maxFlow, susceptance, cost, factors, nodeNames,
      lineNames, layouts⟩ := data
    cases unnamed
    cases plain
    cases fresh
    refine Except.bind_eq_ok.mpr ⟨_, Group.dim_eq_ok.mpr hasLines, ?_⟩
    refine Except.bind_eq_ok.mpr ⟨_, Group.counts_eq_ok.mpr hasStart, ?_⟩
    refine Except.bind_eq_ok.mpr ⟨_, Group.counts_eq_ok.mpr hasFinish, ?_⟩
    refine Except.bind_eq_ok.mpr ⟨_, Group.doubles_eq_ok.mpr hasMin, ?_⟩
    refine Except.bind_eq_ok.mpr ⟨_, fullMin, ?_⟩
    refine Except.bind_eq_ok.mpr ⟨_, Group.doubles_eq_ok.mpr hasMax, ?_⟩
    refine Except.bind_eq_ok.mpr ⟨_, fullMax, ?_⟩
    refine Except.bind_eq_ok.mpr ⟨⟨⟩, checkLength_eq_ok.mpr rfl, ?_⟩
    refine Except.bind_eq_ok.mpr ⟨_, optional_eq_ok.mpr susceptances, ?_⟩
    refine Except.bind_eq_ok.mpr ⟨_, optional_eq_ok.mpr costs, ?_⟩
    exact Except.bind_eq_ok.mpr ⟨_, hasFactors, rfl⟩

theorem edited_factors_eq_ok {result : DcData Float} :
    data.edited (.factors data.factors) = .ok result ↔
      result = data ∧ ∀ matrix, data.factors = some matrix →
        matrix.length = data.lines * data.nodes := by
  obtain ⟨nodes, start, finish, minFlow, maxFlow, susceptance, cost, factors, nodeNames,
    lineNames, layouts⟩ := data
  cases factors with
  | none => simp [edited, eq_comm]
  | some matrix =>
      rw [edited, Except.bind_eq_ok]
      constructor
      · rintro ⟨⟨⟩, fits, same⟩
        cases same
        refine ⟨rfl, fun _ equal => ?_⟩
        cases equal
        exact checkLength_eq_ok.mp fits
      · rintro ⟨rfl, fits⟩
        exact ⟨⟨⟩, checkLength_eq_ok.mpr (fits matrix rfl), rfl⟩

theorem ofGroup_eq_ok (several : 1 < (group.dim? "NumberNodes").getD 1) :
    ofGroup group = .ok data ↔ Reads group data := by
  unfold ofGroup
  constructor
  · intro read
    obtain ⟨lined, hasLines, read⟩ := Except.bind_eq_ok.mp read
    obtain ⟨_, valid, read⟩ := Except.bind_eq_ok.mp read
    obtain ⟨weighted, factors, read⟩ := Except.bind_eq_ok.mp read
    obtain ⟨same, factorsFit⟩ := edited_factors_eq_ok.mp factors
    rw [same] at read
    dsimp only at read
    obtain ⟨nodeNames, hasNodeNames, read⟩ := Except.bind_eq_ok.mp read
    obtain ⟨named, nodesNamed, read⟩ := Except.bind_eq_ok.mp read
    obtain ⟨⟨⟩, nodeNamesFit, nodesNamed⟩ := Except.bind_eq_ok.mp nodesNamed
    obtain ⟨lineNames, hasLineNames, read⟩ := Except.bind_eq_ok.mp read
    obtain ⟨⟨⟩, lineNamesFit, read⟩ := Except.bind_eq_ok.mp read
    cases nodesNamed
    cases read
    obtain ⟨lines, start, finish, ⟨givenMin, hasMin, fullMin⟩, ⟨givenMax, hasMax, fullMax⟩,
      susceptance, cost, factors, nodes, -, -, -⟩ := (linesOfGroup_eq_ok several).mp hasLines
    exact {
      nodes := nodes.symm
      several := nodes ▸ several
      lines, start, finish
      hasMinFlow := Group.isSome_field?_of_doubles? hasMin
      hasMaxFlow := Group.isSome_field?_of_doubles? hasMax
      minFlow := .inr ⟨givenMin, hasMin, fullMin⟩
      maxFlow := .inr ⟨givenMax, hasMax, fullMax⟩
      susceptance, cost, factors, valid, factorsFit
      nodeNames := Group.texts?_getD.mp ⟨nodeNames, hasNodeNames, rfl⟩
      nodeNamesFit
      lineNames := Group.texts?_getD.mp ⟨lineNames, hasLineNames, rfl⟩
      lineNamesFit
      layouts := rfl }
  · intro reads
    obtain ⟨givenMin, hasMin, fullMin⟩ := reads.minFlow.of_present reads.hasMinFlow
    obtain ⟨givenMax, hasMax, fullMax⟩ := reads.maxFlow.of_present reads.hasMaxFlow
    obtain ⟨givenNodes, hasNodeNames, nodesNamed⟩ := Group.texts?_getD.mpr reads.nodeNames
    obtain ⟨givenLines, hasLineNames, linesNamed⟩ := Group.texts?_getD.mpr reads.lineNames
    have lined : linesOfGroup group ((group.dim? "NumberNodes").getD 1) =
        .ok { data with nodeNames := [], lineNames := [], layouts := Layouts.none } :=
      (linesOfGroup_eq_ok several).mpr ⟨reads.lines, reads.start, reads.finish,
        ⟨givenMin, hasMin, fullMin⟩, ⟨givenMax, hasMax, fullMax⟩, reads.susceptance, reads.cost,
        reads.factors, reads.nodes.symm, rfl, rfl, rfl⟩
    refine Except.bind_eq_ok.mpr ⟨_, lined, Except.bind_eq_ok.mpr ⟨⟨⟩, reads.valid, ?_⟩⟩
    refine Except.bind_eq_ok.mpr ⟨_, edited_factors_eq_ok.mpr ⟨rfl, reads.factorsFit⟩, ?_⟩
    refine Except.bind_eq_ok.mpr ⟨_, hasNodeNames, ?_⟩
    rw [nodesNamed]
    refine Except.bind_eq_ok.mpr ⟨_, Except.bind_eq_ok.mpr ⟨⟨⟩, reads.nodeNamesFit, rfl⟩, ?_⟩
    refine Except.bind_eq_ok.mpr ⟨_, hasLineNames, ?_⟩
    rw [linesNamed]
    refine Except.bind_eq_ok.mpr ⟨⟨⟩, reads.lineNamesFit, ?_⟩
    rw [← reads.layouts]
    rfl

def page (data : DcData Float) : Page where
  dims := [
    ("NumberNodes", some data.nodes),
    ("NumberLines", some data.lines)]
  fields :=
    let lines := ["NumberLines"]
    let layouts := data.layouts
    [ ("NodeName", Group.plainField layouts "NodeName" ["NumberNodes"] (.texts data.nodeNames)),
      ("StartLine", some ⟨layouts.dimsOr "StartLine" lines, .counts data.start⟩),
      ("EndLine", some ⟨layouts.dimsOr "EndLine" lines, .counts data.finish⟩),
      ("MinPowerFlow", some (layouts.fieldFor "MinPowerFlow" lines data.minFlow)),
      ("MaxPowerFlow", some (layouts.fieldFor "MaxPowerFlow" lines data.maxFlow)),
      ("Susceptance", Group.givenField layouts "Susceptance" lines data.susceptance),
      ("NetworkCost", Group.givenField layouts "NetworkCost" lines data.cost),
      ("PTDF", data.factors.map (layouts.fieldFor "PTDF" ["NumberLines", "NumberNodes"])),
      ("LineName", Group.plainField layouts "LineName" lines (.texts data.lineNames))]

theorem write_several (several : 1 < data.nodes) (group : Group) :
    data.write group = data.page.fillIn group := by
  have numbered : data.nodes ≠ 1 ∨ data.layouts.hasDim "NumberNodes" = true := .inl (by omega)
  have numerous : ¬data.nodes ≤ 1 := by omega
  simp only [write, writeLines, if_pos numbered, if_neg numerous, putNames, putOptional,
    Group.ite_putTexts, Group.ite_putDoubles]
  cases factors : data.factors <;>
    simp only [factors, page, Group.putDoubles_eq_fill, Group.putCounts_eq_fill,
      Group.setDim_eq_fillDim] <;>
    rfl

theorem isSome_of_counts? {name : String} {values : List Nat}
    (read : group.counts? name = .ok (some values)) : (group.field? name).isSome := by
  obtain ⟨field, found, -⟩ := Group.counts?_eq_some.mp read
  exact Option.isSome_of_eq_some found

theorem Reads.fits (reads : Reads group data) : data.page.Fits group where
  dims := by
    simp only [page, List.forall_mem_cons]
    refine ⟨fun _ => ?_, fun _ => Option.isSome_of_eq_some reads.lines, nofun⟩
    by_contra absent
    have nodes := reads.nodes
    have := reads.several
    rw [Option.not_isSome_iff_eq_none.mp absent, Option.getD_none] at nodes
    omega
  fields := by
    simp only [page, List.forall_mem_cons]
    refine ⟨reads.nodeNames.isSome_of_plainField, fun _ => isSome_of_counts? reads.start,
      fun _ => isSome_of_counts? reads.finish, fun _ => reads.hasMinFlow,
      fun _ => reads.hasMaxFlow, reads.susceptance.isSome_of_givenField,
      reads.cost.isSome_of_givenField, fun written => ?_,
      reads.lineNames.isSome_of_plainField, nofun⟩
    obtain ⟨matrix, given⟩ := Option.isSome_iff_exists.mp (Option.isSome_map.symm.trans written)
    exact Group.isSome_field?_of_doubles? (reads.factors.trans (congrArg Except.ok given))

/-- What was written is read as the same network. -/
theorem Reads.again (reads : Reads group data) (stands : data.page.Stands saved) :
    Reads saved { data with layouts := Layouts.ofGroup saved } := by
  have dims := stands.dims
  have fields := stands.fields
  simp only [page, List.forall_mem_cons] at dims
  simp only [page, List.forall_mem_cons, reads.layouts] at fields
  obtain ⟨nodes, lines, -⟩ := dims
  obtain ⟨nodeNames, start, finish, minFlow, maxFlow, susceptance, cost, factors, lineNames, -⟩ :=
    fields
  have completes (name : String) : IsCompletion (broadcast · data.lines name) :=
    IsCompletion.ofBroadcast data.lines name
  have present {name : String} {field : Field} (found : saved.field? name = some field) :
      (saved.field? name).isSome := Option.isSome_of_eq_some found
  exact {
    nodes := by rw [nodes]; rfl
    several := reads.several
    lines := lines
    start := Group.counts?_of_counts start
    finish := Group.counts?_of_counts finish
    hasMinFlow := present minFlow
    hasMaxFlow := present maxFlow
    minFlow := reads.minFlow.again (completes _) (minFlow.trans (if_pos trivial).symm)
      (fun _ => reads.hasMinFlow) fun never => absurd trivial never
    maxFlow := reads.maxFlow.again (completes _) (maxFlow.trans (if_pos trivial).symm)
      (fun _ => reads.hasMaxFlow) fun never => absurd trivial never
    susceptance := reads.susceptance.given_again (completes _) susceptance
    cost := reads.cost.given_again (completes _) cost
    factors := by
      have read := reads.factors
      cases given : data.factors with
      | none => exact Group.doubles?_eq_none.mpr (factors.trans (by rw [given]; rfl))
      | some matrix =>
          rw [given] at read factors
          exact Layouts.doubles?_again read factors
    valid := reads.valid
    factorsFit := reads.factorsFit
    nodeNames := Group.lists_again nodeNames
    nodeNamesFit := reads.nodeNamesFit
    lineNames := Group.lists_again lineNames
    lineNamesFit := reads.lineNamesFit
    layouts := rfl }

/-- What was read from what was written is written the same way. -/
theorem page_again (stands : data.page.Stands saved) :
    page { data with layouts := Layouts.ofGroup saved } = data.page := by
  have fields := stands.fields
  simp only [page, List.forall_mem_cons] at fields
  obtain ⟨nodeNames, start, finish, minFlow, maxFlow, susceptance, cost, factors, lineNames, -⟩ :=
    fields
  have counted {name : String} {dims : List String} {content : Values}
      (found : saved.field? name = some ⟨data.layouts.dimsOr name dims, content⟩) :
      (Layouts.ofGroup saved).dimsOr name dims = data.layouts.dimsOr name dims := by
    rw [Layouts.dimsOr_ofGroup, found]
    rfl
  have weighted : data.factors.map
        ((Layouts.ofGroup saved).fieldFor "PTDF" ["NumberLines", "NumberNodes"]) =
      data.factors.map (data.layouts.fieldFor "PTDF" ["NumberLines", "NumberNodes"]) := by
    cases given : data.factors with
    | none => rfl
    | some matrix =>
        rw [given] at factors
        exact congrArg some (Layouts.fieldFor_again factors)
  simp only [page, lines, Group.plainField_again nodeNames, counted start, counted finish,
    Layouts.fieldFor_again minFlow, Layouts.fieldFor_again maxFlow,
    Group.givenField_again susceptance, Group.givenField_again cost, weighted,
    Group.plainField_again lineNames]

end Dispatch.DcData
