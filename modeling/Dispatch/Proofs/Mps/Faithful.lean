import Dispatch.Proofs.Mps.Meaning
import Dispatch.Proofs.Mps.Numerals

namespace Dispatch

open Mps

/-! An export says what the model says. Sums are taken without rounding. -/

/-- What the terms of a function on one variable add up to. -/
def LinearFunction.coefficient (function : LinearFunction Exact) (var : VarRef) : Exact :=
  (said var function.terms).sum

namespace Model

variable (model : Model Exact)

/-- The values within the bounds of a variable and within all boxes on it. -/
def Allows (entry : VarRef × Variable Exact) (value : Exact) : Prop :=
  entry.2.bounds.Holds value ∧ ∀ other ∈ model.constraints, ∀ box : Box Exact,
    other.constraint = .box box → box.var = entry.1 → other.constraint.bounds.Holds value

/-- A model whose variables are listed once, whose bounds may hold, and whose objectives agree
on a sense. -/
structure Exportable : Prop where
  distinct : (model.vars.map Prod.fst).Nodup
  objectives : ∀ objective ∈ model.objectives, ∀ term ∈ objective.function.terms,
    term.1 ∈ model.vars.map Prod.fst
  constraints : ∀ entry ∈ model.constraints, ∀ var ∈ mentions entry.constraint,
    var ∈ model.vars.map Prod.fst
  agreed : ∀ first ∈ model.objectives, ∀ second ∈ model.objectives,
    first.sense = second.sense
  bounds : ∀ entry ∈ model.vars, entry.2.bounds.Ordered
  levels : ∀ entry ∈ model.constraints, entry.constraint.bounds.Ordered
  binaries : ∀ entry ∈ model.vars, entry.2.kind = .binary →
    ∀ value, model.Allows entry value ↔ (⟨0, 1⟩ : Bounds Exact).Holds value

end Model

namespace Deck

variable (deck : Deck Exact) (model : Model Exact)

/-- A column is that of a variable. -/
structure DescribesColumn (name : String) (entry : VarRef × Variable Exact) : Prop where
  isInteger : (deck.column name).isInteger = true ↔ entry.2.kind = .binary
  bounds : ∀ value, (deck.column name).bounds.Holds value ↔ model.Allows entry value
  objective : deck.coefficient? name objectiveRow =
    some (model.objectives.map fun objective => objective.function.coefficient entry.1).sum

/-- A row has the coefficients of a row of the model, and its bounds less the constant. An
infinite constant has no place in a bound, but decides what the bounds allow. -/
structure DescribesRow (name : String) (row : String × Row Exact) : Prop where
  coefficient : ∀ place entry, model.vars[place]? = some entry →
    deck.coefficient? (columnName place) name = some (row.2.function.coefficient entry.1)
  bounds : ∃ bounds, deck.bounds? name = some bounds ∧
    (∀ level : ℚ, bounds.Holds (.number level) ↔
      (⟨row.2.lhs, row.2.rhs⟩ : Bounds Exact).Holds
        (.number level + row.2.function.constant)) ∧
    ∀ constant, row.2.function.constant = .number constant →
      bounds = ⟨row.2.lhs - .number constant, row.2.rhs - .number constant⟩

/-- The deck is the model: a column for each variable, a row for each row that is bounded, one
objective, and nothing besides. -/
structure Describes : Prop where
  sense : ∀ objective ∈ model.objectives, deck.sense = objective.sense
  minimise : model.objectives = [] → deck.sense = .minimise
  objective : (deck.rows.filter fun row => row.2.isNone) = [(objectiveRow, none)]
  constant : deck.constant? =
    some (model.objectives.map fun objective => objective.function.constant).sum
  columns : ∀ place entry, model.vars[place]? = some entry →
    deck.DescribesColumn model (columnName place) entry
  rows : List.Forall₂ (deck.DescribesRow model) deck.boundedRows model.boundedRows
  distinct : (deck.rows.map Prod.fst).Nodup
  entriesKnown : ∀ entry ∈ deck.entries,
    (∃ place < model.vars.length, entry.1 = columnName place) ∧
      entry.2.1 ∈ deck.rows.map Prod.fst
  boundsKnown : ∀ bound ∈ deck.bounds, ∃ place < model.vars.length, bound.1 = columnName place

end Deck

/-- There is a text, and it reads back as the model. -/
def Model.Faithful (model : Model Exact) (numerals : Numerals Exact) (name : String) : Prop :=
  ∃ text deck, model.mpsWith numerals.write name = .ok text ∧
    Deck.read? numerals text = some deck ∧ deck.Describes model

namespace Model

variable {model : Model Exact}

theorem mem_boxes {var : VarRef} {box : Box Exact} :
    box ∈ said var (boxes model.constraints) ↔
      ∃ entry ∈ model.constraints, entry.constraint = .box box ∧ box.var = var := by
  constructor
  · intro member
    obtain ⟨entry, listed, found⟩ := List.mem_filterMap.mp (mem_of_mem_said member)
    cases kind : entry.constraint with
    | row row =>
        rw [kind] at found
        cases found
    | box other =>
        rw [kind] at found
        cases found
        exact ⟨entry, listed, kind, rfl⟩
  · rintro ⟨entry, listed, kind, rfl⟩
    refine List.mem_filterMap.mpr ⟨(box.var, box), ?_, if_pos rfl⟩
    exact List.mem_filterMap.mpr ⟨entry, listed, by rw [kind]⟩

theorem allows_iff (entry : VarRef × Variable Exact) (value : Exact) :
    model.Allows entry value ↔ entry.2.bounds.Holds value ∧
      ∀ box ∈ said entry.1 (boxes model.constraints),
        (⟨box.lhs, box.rhs⟩ : Bounds Exact).Holds value := by
  refine and_congr_right fun _ => ⟨fun holds box member => ?_, fun holds other listed box kind
    same => ?_⟩
  · obtain ⟨other, listed, kind, same⟩ := mem_boxes.mp member
    have held := holds other listed box kind same
    rw [kind] at held
    exact held
  · rw [kind]
    exact holds box (mem_boxes.mpr ⟨other, listed, kind, same⟩)

theorem sum_objectiveTerms (var : VarRef) :
    (said var model.objectiveTerms).sum =
      (model.objectives.map fun objective => objective.function.coefficient var).sum := by
  rw [objectiveTerms, List.flatMap_def, said_flatten, List.sum_flatten, List.map_map,
    List.map_map]
  rfl

namespace Exportable

variable (exportable : model.Exportable)

include exportable

theorem column_bounds {entry : VarRef × Variable Exact} (member : entry ∈ model.vars)
    (objectives : List Exact) (rows : List (Nat × Exact)) :
    let column := Mps.column entry.2 (said entry.1 (boxes model.constraints)) objectives rows
    Bounds.IsLower column.lower ∧ Bounds.IsUpper column.upper ∧
      ∀ value, (⟨column.lower, column.upper⟩ : Bounds Exact).Holds value ↔
        model.Allows entry value := by
  have own := exportable.bounds entry member
  have boxes : ∀ box ∈ said entry.1 (boxes model.constraints),
      (⟨box.lhs, box.rhs⟩ : Bounds Exact).Ordered := by
    intro box inside
    obtain ⟨other, listed, kind, -⟩ := mem_boxes.mp inside
    have ordered := exportable.levels other listed
    rw [kind] at ordered
    exact ordered
  obtain ⟨isLower, lower⟩ := foldl_larger own.isLower fun box inside => (boxes box inside).isLower
  obtain ⟨isUpper, upper⟩ := foldl_smaller own.isUpper fun box inside =>
    (boxes box inside).isUpper
  refine ⟨isLower, isUpper, fun value => ?_⟩
  rw [allows_iff]
  refine (and_congr (lower value) (upper value)).trans ?_
  simp only [Bounds.Holds, forall_and]
  exact and_and_and_comm

theorem describesColumn (name : String) {place : Nat} {entry : VarRef × Variable Exact}
    (found : model.vars[place]? = some entry) :
    (documentOf model name).deck.DescribesColumn model (columnName place) entry := by
  have member := List.mem_of_getElem? found
  have written := getElem?_columns name found
  obtain ⟨lower, upper, means⟩ := exportable.column_bounds member
    (said entry.1 model.objectiveTerms)
    (said entry.1 (rowTerms (keptRows 0 model.constraints)))
  have binary (isBinary : (entry.2.kind == .binary) = true) :=
    Bounds.eq_of_holds_iff Bounds.ordered_zero_one lower.1 upper.1 fun value =>
      (means value).trans (exportable.binaries entry member (by simpa using isBinary) value)
  have column := MpsDocument.column_deck written
  rw [foldl_deckBounds lower upper fun isBinary =>
    Bounds.mk.inj (binary isBinary)] at column
  refine ⟨?_, fun value => ?_, ?_⟩
  · rw [column]
    exact beq_iff_eq
  · rw [column]
    exact means value
  · rw [objectiveCoefficient?_documentOf name found, sum_objectiveTerms]

theorem describesRow (name : String) {number : Nat} {row : String × Row Exact}
    (found : model.boundedRows[number]? = some row) :
    (documentOf model name).deck.DescribesRow model (rowName row.1 number) row := by
  obtain ⟨sense, value, range, formed, listed⟩ := exists_row_documentOf name found
  have read := (named_documentOf name).bounds?_deck (List.mem_of_getElem? listed)
  have ordered : (⟨row.2.lhs, row.2.rhs⟩ : Bounds Exact).Ordered := by
    obtain ⟨⟨entry, member, kind⟩, -⟩ := mem_boundedRows (List.mem_of_getElem? found)
    have ordered := exportable.levels entry member
    rw [kind] at ordered
    exact ordered
  obtain ⟨holds, moved⟩ := holds_rowForm row.2.function.constant ordered formed
  exact ⟨fun place entry column => coefficient?_documentOf name column found,
    _, read, holds, fun constant same => by rw [moved constant same, same]⟩

theorem describes (name : String) : (documentOf model name).deck.Describes model where
  sense objective member := by
    obtain ⟨first, rest, listed⟩ := List.exists_cons_of_ne_nil (List.ne_nil_of_mem member)
    have agreed := exportable.agreed first (by simp [listed]) objective member
    rw [← agreed]
    simp [documentOf, MpsDocument.deck, firstSense, listed]
  minimise none := by
    simp [documentOf, MpsDocument.deck, firstSense, none]
  objective := MpsDocument.freeRows_deck
  constant := constant?_documentOf name
  columns place entry found := exportable.describesColumn name found
  rows := by
    rw [MpsDocument.boundedRows_deck, names_rows, List.forall₂_iff_get]
    refine ⟨List.length_mapIdx, fun number _ within => ?_⟩
    rw [List.get_eq_getElem, List.get_eq_getElem, List.getElem_mapIdx]
    exact exportable.describesRow name (List.getElem?_eq_getElem within)
  distinct := (named_documentOf name).nodup_rows_deck
  entriesKnown entry member := by
    have columns : (documentOf model name).columns.length = model.vars.length :=
      List.length_map _
    rw [← columns]
    exact MpsDocument.mem_entries_deck member
  boundsKnown bound member := by
    have columns : (documentOf model name).columns.length = model.vars.length :=
      List.length_map _
    rw [← columns]
    exact MpsDocument.mem_bounds_deck member

end Exportable

theorem worded_documentOf {K : Type} [Scalar K] {model : Model K} {name : String}
    (named : ∀ row ∈ model.boundedRows, IsSolid row.1) :
    (documentOf model name).Worded := by
  intro row member
  have listed : row.name ∈ (documentOf model name).rows.map MpsRow.name :=
    List.mem_map_of_mem member
  rw [names_rows] at listed
  obtain ⟨place, _, same⟩ := List.mem_mapIdx.mp listed
  rw [← same]
  exact isWord_rowName (named _ (List.getElem_mem _)) place

theorem Exportable.mpsWith_eq_ok (exportable : model.Exportable) (numeral : Exact → String)
    (name : String) :
    model.mpsWith numeral name = .ok ((documentOf model name).text numeral) := by
  rw [mpsWith, ofModel_eq_ok name exportable.objectives exportable.constraints]
  rfl

/-- Where the families of rows are words and the name is on one line, there is a text, and it
reads back as the model. -/
theorem faithful_of_exportable (exportable : model.Exportable)
    (named : ∀ row ∈ model.boundedRows, IsSolid row.1)
    {name : String} (single : '\n' ∉ name.toList) (numerals : Numerals Exact) :
    model.Faithful numerals name := by
  exact ⟨(documentOf model name).text numerals.write, (documentOf model name).deck,
    exportable.mpsWith_eq_ok numerals.write name, (worded_documentOf named).read_text single,
    exportable.describes name⟩

/-- Two variables, one of them binary, a row that has the other twice, a constant and bounds on
both sides, a row that is not bounded, and a box. -/
def mixed : Model Exact where
  block := ⟨0⟩
  kind := "raw"
  stage := .objective
  settings := none
  vars := [(⟨⟨0⟩, 0⟩, .nonNegative), (⟨⟨0⟩, 1⟩, .binary)]
  lookup? _ := none
  constraints := [
    ⟨"free", 0, .row ⟨⟨[(⟨⟨0⟩, 0⟩, 1)], 0⟩, -Scalar.infinity, Scalar.infinity⟩⟩,
    ⟨"limit", 0, .row ⟨⟨[(⟨⟨0⟩, 0⟩, .number 2), (⟨⟨0⟩, 1⟩, .number (-1)),
      (⟨⟨0⟩, 0⟩, .number 3)], .number 3⟩, 0, .number 20⟩⟩,
    ⟨"box", 0, .box ⟨⟨⟨0⟩, 0⟩, 1, .number 5⟩⟩]
  objectives := [⟨⟨[(⟨⟨0⟩, 0⟩, .number 4)], 1⟩, .minimise⟩]

theorem faithful_mixed : mixed.Faithful Exact.numerals "mixed" := by
  have exportable : mixed.Exportable := by
    constructor
    · decide
    · decide
    · decide
    · decide
    · simp only [mixed, List.forall_mem_cons]
      exact ⟨⟨rfl, nofun, nofun⟩, Bounds.ordered_zero_one, nofun⟩
    · simp only [mixed, List.forall_mem_cons]
      exact ⟨⟨rfl, nofun, nofun⟩, ⟨rfl, nofun, nofun⟩, ⟨rfl, nofun, nofun⟩, nofun⟩
    · simp only [mixed, List.forall_mem_cons]
      refine ⟨nofun, fun _ value => and_iff_left ?_, nofun⟩
      simp only [List.forall_mem_cons]
      refine ⟨nofun, nofun, ?_, nofun⟩
      rintro box ⟨⟩ same
      cases same
  exact faithful_of_exportable exportable (by decide +kernel) (by decide) Exact.numerals

/-- One variable and one constraint of the family. -/
def lone (family : String) (decision : Variable Exact) (constraint : Constraint Exact) :
    Model Exact where
  block := ⟨0⟩
  kind := "raw"
  stage := .objective
  settings := none
  vars := [(⟨⟨0⟩, 0⟩, decision)]
  lookup? var := if var = ⟨⟨0⟩, 0⟩ then some decision else none
  constraints := [⟨family, 0, constraint⟩]
  objectives := []

theorem exportable_lone {family : String} {decision : Variable Exact}
    {constraint : Constraint Exact} (mentioned : ∀ var ∈ mentions constraint, var = ⟨⟨0⟩, 0⟩)
    (bounds : decision.bounds.Ordered) (levels : constraint.bounds.Ordered)
    (continuous : decision.kind = .continuous) :
    (lone family decision constraint).Exportable where
  distinct := List.nodup_singleton _
  objectives _ member := by cases member
  constraints := by
    simp only [lone, List.forall_mem_singleton]
    exact fun var member => List.mem_singleton.mpr (mentioned var member)
  agreed _ member := by cases member
  bounds := by
    simp only [lone, List.forall_mem_singleton]
    exact bounds
  levels := by
    simp only [lone, List.forall_mem_singleton]
    exact levels
  binaries := by
    simp only [lone, List.forall_mem_singleton, continuous]
    nofun

/-- One variable between one and two by a row of the family. -/
def between (family : String) : Model Exact :=
  lone family .continuous (.row ⟨⟨[(⟨⟨0⟩, 0⟩, 1)], 0⟩, 1, .number 2⟩)

theorem exportable_between (family : String) : (between family).Exportable :=
  exportable_lone (by simp [mentions]) ⟨rfl, nofun, nofun⟩ ⟨rfl, nofun, nofun⟩ rfl

/-- A blank in a family splits the name of a row, and a break in the name of the model starts
another line. -/
theorem not_faithful_of_blank_of_break :
    ((between "flow limit").Exportable ∧
      ¬(between "flow limit").Faithful Exact.numerals "m") ∧
    (between "flow_limit").Exportable ∧
      ¬(between "flow_limit").Faithful Exact.numerals "m\nENDATA" := by
  refine ⟨⟨exportable_between _, ?_⟩, exportable_between _, ?_⟩
  · rintro ⟨text, deck, written, read, -⟩
    rw [(exportable_between _).mpsWith_eq_ok] at written
    cases written
    have unread : (Deck.read? Exact.numerals ((documentOf (between "flow limit") "m").text
        Exact.numerals.write)).isNone = true := by decide +kernel
    rw [read] at unread
    cases unread
  · rintro ⟨text, deck, written, read, describes⟩
    rw [(exportable_between _).mpsWith_eq_ok] at written
    cases written
    have rows : (Deck.read? Exact.numerals ((documentOf (between "flow_limit") "m\nENDATA").text
        Exact.numerals.write)).map (fun deck => deck.boundedRows.length) = some 0 := by
      decide +kernel
    rw [read] at rows
    have none : deck.boundedRows.length = 0 := Option.some.inj rows
    have one := describes.rows.length_eq
    rw [none] at one
    exact absurd one (by decide +kernel)

end Model

end Dispatch
