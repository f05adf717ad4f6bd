import Dispatch.Proofs.Change.Laws
import Dispatch.Proofs.Mps.Faithful
import Dispatch.Proofs.Number.Weighing

namespace Dispatch

open Mps

/-! An export admits nothing that the model refuses, where bounds do not cross and binary
variables keep both of their values. -/

namespace Mps

theorem sum_of_once? {values : List Exact} {value : Exact}
    (single : once? 0 values = some value) : values.sum = value := by
  cases values with
  | nil => exact Option.some.inj single
  | cons first rest =>
      cases rest with
      | nil => exact (add_zero first).trans (Option.some.inj single)
      | cons _ _ => cases single

end Mps

namespace Deck

variable (deck : Deck Exact) (values : String → ℚ)

/-- What the entries of a row add up to. -/
def activity (row : String) : Exact :=
  (deck.entries.map fun entry =>
    if entry.2.1 = row then entry.2.2 * .number (values entry.1) else 0).sum

/-- Numbers for the columns that a text allows, rows read as intervals. -/
structure Admits : Prop where
  bounds : ∀ name, (deck.column name).bounds.Holds (.number (values name))
  whole : ∀ name, (deck.column name).isInteger = true → ∃ whole : ℤ, values name = whole
  rows : ∀ row ∈ deck.boundedRows, ∃ bounds level, deck.bounds? row = some bounds ∧
    deck.activity values row = .number level ∧ bounds.Holds (.number level)

end Deck

namespace Model

/-- The variables of a model are found, and these are their values. -/
structure Assigned (model : Model Exact) (values : VarRef → ℚ) : Prop where
  found : ∀ entry ∈ model.vars, model.lookup? entry.1 = some entry.2
  value : ∀ entry ∈ model.vars, entry.2.value = .number (values entry.1)

variable {model : Model Exact} {values : VarRef → ℚ} {columns : String → ℚ}

theorem Assigned.valueOf_eq (assigned : model.Assigned values) {var : VarRef}
    (listed : var ∈ model.vars.map Prod.fst) :
    LinearFunction.valueOf model.lookup? var = .ok (.number (values var)) := by
  obtain ⟨entry, member, rfl⟩ := List.mem_map.mp listed
  rw [LinearFunction.valueOf, assigned.found entry member, ← assigned.value entry member]

theorem Assigned.addTerms_eq (assigned : model.Assigned values) {terms : List (VarRef × Exact)}
    (listed : ∀ term ∈ terms, term.1 ∈ model.vars.map Prod.fst) (total : Exact) :
    LinearFunction.addTerms model.lookup? terms total =
      .ok (total + (terms.map fun term => term.2 * .number (values term.1)).sum) :=
  LinearFunction.addTerms_of_valueOf (fun term member => assigned.valueOf_eq (listed term member))
    total

/-- The columns have the values of their variables. -/
def Columnwise (model : Model Exact) (values : VarRef → ℚ) (columns : String → ℚ) : Prop :=
  ∀ place entry, model.vars[place]? = some entry → columns (columnName place) = values entry.1

end Model

theorem Deck.Describes.activity_eq {deck : Deck Exact} {model : Model Exact}
    (describes : deck.Describes model) (distinct : (model.vars.map Prod.fst).Nodup)
    {name : String} {row : String × Row Exact} (described : deck.DescribesRow model name row)
    (listed : ∀ term ∈ row.2.function.terms, term.1 ∈ model.vars.map Prod.fst)
    {values : VarRef → ℚ} {columns : String → ℚ} (same : model.Columnwise values columns) :
    deck.activity columns name =
      (row.2.function.terms.map fun term => term.2 * .number (values term.1)).sum := by
  have known : ∀ entry ∈ deck.entries,
      entry.1 ∈ model.vars.mapIdx fun place _ => columnName place := by
    intro entry member
    obtain ⟨⟨place, within, same⟩, -⟩ := describes.entriesKnown entry member
    exact List.mem_mapIdx.mpr ⟨place, within, same.symm⟩
  have apart : (model.vars.mapIdx fun place _ => columnName place).Nodup :=
    nodup_mapIdx columnName_inj _
  have byColumn := sum_map_said apart (fun column (entry : String × Exact) =>
    if entry.1 = name then entry.2 * .number (columns column) else 0) known
  have byVariable := sum_map_said distinct
    (fun var (value : Exact) => value * .number (values var)) listed
  refine byColumn.trans (Eq.trans (congrArg List.sum (List.ext_getElem? fun place => ?_))
    byVariable.symm)
  rw [List.getElem?_map, List.getElem?_map, List.getElem?_mapIdx, List.getElem?_map]
  cases column : model.vars[place]? with
  | none => rfl
  | some entry =>
      have coefficient := sum_of_once? (described.coefficient place entry column)
      refine congrArg some ?_
      calc
        _ = ((said name (said (columnName place) deck.entries)).map fun value =>
              value * .number (values entry.1)).sum := by
            rw [← same place entry column]
            exact sum_map_ite_said name
              (fun value => value * Exact.number (columns (columnName place))) _
        _ = row.2.function.coefficient entry.1 * .number (values entry.1) := by
            rw [Exact.sum_map_mul_number, coefficient]
        _ = _ := (Exact.sum_map_mul_number _ _).symm

theorem Bounds.Ordered.eq_unbounded {bounds : Bounds Exact} (ordered : bounds.Ordered)
    (unbounded : (Scalar.isFinite bounds.lower || Scalar.isFinite bounds.upper) = false) :
    bounds.lower = .infinite true ∧ bounds.upper = .infinite false := by
  obtain ⟨lower, upper⟩ := Bool.or_eq_false_iff.mp unbounded
  constructor
  · rcases ordered.isLower.cases with ⟨bound, number⟩ | below
    · rw [number] at lower
      cases lower
    · exact below
  · rcases ordered.isUpper.cases with ⟨bound, number⟩ | above
    · rw [number] at upper
      cases upper
    · exact above

theorem boundViolation_eq_zero {value lhs rhs : Exact}
    (lower : Scalar.below value lhs = false) (upper : Scalar.below rhs value = false)
    (relative : Bool) : boundViolation value lhs rhs relative = 0 := by
  simp [boundViolation, lower, upper]

namespace Model

variable {model : Model Exact} {values : VarRef → ℚ} {columns : String → ℚ} {deck : Deck Exact}

theorem violation_of_holds {constraint : Constraint Exact} {level : Exact}
    {lookup? : VarRef → Option (Variable Exact)} (found : constraint.level lookup? = .ok level)
    (holds : constraint.bounds.Holds level) (relative : Bool) :
    constraint.violation lookup? relative = .ok 0 := by
  rw [Constraint.violation, found]
  exact congrArg Except.ok (boundViolation_eq_zero (Exact.below_eq_false holds.1)
    (Exact.below_eq_false holds.2) relative)

theorem violation_of_unbounded {constraint : Constraint Exact} {level : Exact}
    {lookup? : VarRef → Option (Variable Exact)} (found : constraint.level lookup? = .ok level)
    (lower : constraint.lhs = .infinite true) (upper : constraint.rhs = .infinite false)
    (relative : Bool) : constraint.violation lookup? relative = .ok 0 := by
  rw [Constraint.violation, found, lower, upper]
  exact congrArg Except.ok
    (boundViolation_eq_zero (Exact.below_lowest level) (Exact.highest_below level) relative)

theorem satisfied_of_violations {lookup? : VarRef → Option (Variable Exact)} {relative : Bool}
    {constraints : List (Entry Exact)}
    (kept : ∀ entry ∈ constraints, entry.constraint.violation lookup? relative = .ok 0) :
    satisfied lookup? ⟨0, relative⟩ constraints = .ok true := by
  induction constraints with
  | nil => rfl
  | cons entry rest induction =>
      obtain ⟨here, later⟩ := List.forall_mem_cons.mp kept
      rw [satisfied, here]
      exact induction later

section Admitted

variable (describes : deck.Describes model)
  (assigned : model.Assigned values) (same : model.Columnwise values columns)
  (admits : deck.Admits columns)

include describes assigned same admits

theorem allows_value {entry : VarRef × Variable Exact} (member : entry ∈ model.vars) :
    model.Allows entry entry.2.value := by
  obtain ⟨place, found⟩ := List.mem_iff_getElem?.mp member
  have described := describes.columns place entry found
  rw [assigned.value entry member, ← same place entry found]
  exact (described.bounds _).mp (admits.bounds _)

theorem isFeasible_variable {entry : VarRef × Variable Exact} (member : entry ∈ model.vars) :
    entry.2.isFeasible 0 = true := by
  have allowed := allows_value describes assigned same admits member
  have within : entry.2.withinBounds 0 = true := by
    have noLess : entry.2.lower - 0 = entry.2.lower := by
      rw [Exact.sub_def, Exact.zero_def, Exact.neg_number, neg_zero, ← Exact.zero_def, add_zero]
    have lower : Scalar.below entry.2.value entry.2.lower = false :=
      Exact.below_eq_false allowed.1.1
    have upper : Scalar.below entry.2.upper entry.2.value = false :=
      Exact.below_eq_false allowed.1.2
    rw [Variable.withinBounds, noLess, add_zero, lower, upper]
    rfl
  rw [Variable.isFeasible, within, Bool.true_and]
  cases kind : entry.2.kind with
  | continuous => rfl
  | binary =>
      obtain ⟨place, found⟩ := List.mem_iff_getElem?.mp member
      have isInteger := (describes.columns place entry found).isInteger.mpr kind
      obtain ⟨whole, number⟩ := admits.whole _ isInteger
      dsimp only
      rw [Variable.isWhole, assigned.value entry member, ← same place entry found, number]
      exact Exact.isWhole_intCast whole

variable (exportable : model.Exportable)

include exportable

theorem violation_row {entry : Entry Exact} (member : entry ∈ model.constraints)
    {row : Row Exact} (kind : entry.constraint = .row row) (relative : Bool) :
    entry.constraint.violation model.lookup? relative = .ok 0 := by
  have listed : ∀ term ∈ row.function.terms, term.1 ∈ model.vars.map Prod.fst := by
    intro term inside
    refine exportable.constraints entry member term.1 ?_
    rw [kind]
    exact List.mem_map_of_mem inside
  have ordered := exportable.levels entry member
  have level : entry.constraint.level model.lookup? = .ok (row.function.constant +
      (row.function.terms.map fun term => term.2 * .number (values term.1)).sum) := by
    rw [kind]
    exact assigned.addTerms_eq listed _
  rw [kind] at ordered
  cases bounded : Scalar.isFinite row.lhs || Scalar.isFinite row.rhs with
  | true =>
      have inside : (entry.family, row) ∈ model.boundedRows :=
        List.mem_filterMap.mpr ⟨entry, member, by rw [kind]; exact if_pos bounded⟩
      obtain ⟨name, written, described⟩ := Change.mem_of_forall₂ describes.rows inside
      obtain ⟨bounds, active, read, activity, holds⟩ := admits.rows name written
      obtain ⟨_, read', means, -⟩ := described.bounds
      cases read.symm.trans read'
      rw [describes.activity_eq exportable.distinct described listed same] at activity
      refine violation_of_holds level ?_ relative
      rw [kind, activity, add_comm]
      exact (means active).mp holds
  | false =>
      obtain ⟨lower, upper⟩ := ordered.eq_unbounded bounded
      exact violation_of_unbounded level (by rw [kind]; exact lower) (by rw [kind]; exact upper)
        relative

theorem violation_box {entry : Entry Exact} (member : entry ∈ model.constraints)
    {box : Box Exact} (kind : entry.constraint = .box box) (relative : Bool) :
    entry.constraint.violation model.lookup? relative = .ok 0 := by
  have listed : box.var ∈ model.vars.map Prod.fst :=
    exportable.constraints entry member box.var (by rw [kind]; exact .head _)
  obtain ⟨decision, present, named⟩ := List.mem_map.mp listed
  have level : entry.constraint.level model.lookup? = .ok decision.2.value := by
    rw [kind, assigned.value decision present, named]
    exact assigned.valueOf_eq listed
  have allowed := allows_value describes assigned same admits present
  exact violation_of_holds level (allowed.2 entry member box kind named.symm) relative

end Admitted

/-- The model is feasible where it has what its description admits. -/
theorem isFeasible_of_admits (exportable : model.Exportable) (describes : deck.Describes model)
    (assigned : model.Assigned values) (same : model.Columnwise values columns)
    (admits : deck.Admits columns) (relative : Bool) :
    model.isFeasible (some ⟨0, relative⟩) = .ok true := by
  have within : model.vars.all fun entry => entry.2.isFeasible 0 :=
    List.all_eq_true.mpr fun entry member =>
      isFeasible_variable describes assigned same admits member
  have kept : ∀ entry ∈ model.constraints,
      entry.constraint.violation model.lookup? relative = .ok 0 := by
    intro entry member
    cases kind : entry.constraint with
    | row row =>
        rw [← kind]
        exact violation_row describes assigned same admits exportable member kind relative
    | box box =>
        rw [← kind]
        exact violation_box describes assigned same admits exportable member kind relative
  exact (if_pos within).trans (satisfied_of_violations kept)

/-- A text of the model admits numbers with which the model is not feasible. -/
def Relaxed (model : Model Exact) (numerals : Numerals Exact) (name : String) : Prop :=
  ∃ text deck values columns relative, model.mpsWith numerals.write name = .ok text ∧
    Deck.read? numerals text = some deck ∧ model.Assigned values ∧
    model.Columnwise values columns ∧ deck.Admits columns ∧
    model.isFeasible (some ⟨0, relative⟩) ≠ .ok true

theorem not_relaxed_of_exportable (exportable : model.Exportable)
    (named : ∀ row ∈ model.boundedRows, IsSolid row.1) {name : String}
    (single : '\n' ∉ name.toList) (numerals : Numerals Exact) :
    ¬model.Relaxed numerals name := by
  rintro ⟨text, deck, values, columns, relative, written, read, assigned, same, admits, refused⟩
  cases written.symm.trans (exportable.mpsWith_eq_ok numerals.write name)
  cases read.symm.trans ((worded_documentOf named).read_text single)
  have describes := exportable.describes name
  exact refused (isFeasible_of_admits exportable describes assigned same admits relative)

section Lone

variable {decision : Variable Exact} {constraint : Constraint Exact} {value : ℚ}

theorem mpsWith_lone (mentioned : ∀ var ∈ mentions constraint, var = ⟨⟨0⟩, 0⟩) :
    (lone "limit" decision constraint).mpsWith Exact.numerals.write "m" =
      .ok ((documentOf (lone "limit" decision constraint) "m").text Exact.numerals.write) := by
  have known : ∀ entry ∈ (lone "limit" decision constraint).constraints,
      ∀ var ∈ mentions entry.constraint,
        var ∈ (lone "limit" decision constraint).vars.map Prod.fst := by
    simp only [lone, List.forall_mem_singleton]
    exact fun var member => List.mem_singleton.mpr (mentioned var member)
  rw [mpsWith, ofModel_eq_ok "m" (fun _ member => by cases member) known]
  rfl

theorem solid_lone : ∀ row ∈ (lone "limit" decision constraint).boundedRows, IsSolid row.1 := by
  have solid : IsSolid "limit" := by decide +kernel
  intro row member
  obtain ⟨entry, listed, found⟩ := List.mem_filterMap.mp member
  rw [List.mem_singleton.mp listed] at found
  split at found
  · split at found
    · cases found
      exact solid
    · cases found
  · cases found

theorem assigned_lone (valued : decision.value = .number value) :
    (lone "limit" decision constraint).Assigned fun _ => value where
  found entry member := by
    rw [List.mem_singleton.mp member]
    simp [lone]
  value entry member := by
    rw [List.mem_singleton.mp member]
    exact valued

theorem admits_lone (positive : 0 ≤ value)
    (bounds : ((documentOf (lone "limit" decision constraint) "m").deck.column
      (columnName 0)).bounds.Holds (.number value))
    (continuous : ((documentOf (lone "limit" decision constraint) "m").deck.column
      (columnName 0)).isInteger = false)
    (rows : ∀ row ∈ (documentOf (lone "limit" decision constraint) "m").deck.boundedRows,
      ∃ bounds level,
        (documentOf (lone "limit" decision constraint) "m").deck.bounds? row = some bounds ∧
        (documentOf (lone "limit" decision constraint) "m").deck.activity (fun _ => value) row =
          .number level ∧ bounds.Holds (.number level)) :
    (documentOf (lone "limit" decision constraint) "m").deck.Admits fun _ => value := by
  have other (name : String) (apart : name ≠ columnName 0) :
      (documentOf (lone "limit" decision constraint) "m").deck.column name = .default := by
    rw [Deck.column, said_eq_nil_of_not_mem, List.foldl_nil]
    intro listed
    obtain ⟨bound, member, rfl⟩ := List.mem_map.mp listed
    obtain ⟨place, within, same⟩ := MpsDocument.mem_bounds_deck member
    cases Nat.lt_one_iff.mp within
    exact apart same
  refine ⟨fun name => ?_, fun name isInteger => ?_, rows⟩
  · by_cases same : name = columnName 0
    · rw [same]
      exact bounds
    · rw [other name same]
      exact ⟨(Exact.atMost_number 0 value).trans (decide_eq_true positive), rfl⟩
  · by_cases same : name = columnName 0
    · rw [same, continuous] at isInteger
      cases isInteger
    · rw [other name same] at isInteger
      cases isInteger

theorem relaxed_lone (mentioned : ∀ var ∈ mentions constraint, var = ⟨⟨0⟩, 0⟩)
    (valued : decision.value = .number value)
    (admits : (documentOf (lone "limit" decision constraint) "m").deck.Admits fun _ => value)
    (infeasible : ((lone "limit" decision constraint).isFeasible (some ⟨0, false⟩)).toOption =
      some false) :
    (lone "limit" decision constraint).Relaxed Exact.numerals "m" := by
  have single : '\n' ∉ "m".toList := by decide
  refine ⟨_, _, fun _ => value, fun _ => value, false, mpsWith_lone mentioned,
    (worded_documentOf solid_lone).read_text single, assigned_lone valued, fun _ _ _ => rfl,
    admits, fun feasible => ?_⟩
  rw [feasible] at infeasible
  cases infeasible

end Lone

/-- A half more than one, which is between one and two. -/
def settled : Model Exact :=
  lone "limit" { Variable.continuous with value := .number (3 / 2) }
    (.row ⟨⟨[(⟨⟨0⟩, 0⟩, 1)], 0⟩, 1, .number 2⟩)

theorem not_relaxed_settled :
    (documentOf settled "m").deck.Admits (fun _ => 3 / 2) ∧
      ¬settled.Relaxed Exact.numerals "m" := by
  constructor
  · refine admits_lone (by norm_num) ⟨by decide +kernel, by decide +kernel⟩ (by decide +kernel)
      fun row listed => ?_
    have named : (documentOf settled "m").deck.boundedRows = ["limit_0"] := by decide +kernel
    cases List.mem_singleton.mp (named ▸ listed)
    exact ⟨⟨1, .number 2⟩, 3 / 2, by decide +kernel, by decide +kernel, by decide +kernel,
      by decide +kernel⟩
  · exact not_relaxed_of_exportable
      (exportable_lone (by simp [mentions]) ⟨rfl, by decide, by decide⟩
        ⟨rfl, by decide, by decide⟩ rfl)
      solid_lone (by decide) Exact.numerals

/-- Nothing is between ten and minus ten, but the row is written as one from ten to thirty. -/
def crossed : Model Exact :=
  lone "limit" { Variable.continuous with value := .number 20 }
    (.row ⟨⟨[(⟨⟨0⟩, 0⟩, 1)], 0⟩, .number 10, .number (-10)⟩)

/-- Of its two values only zero is at most a half, but the text forgets that there are two. -/
def tightened : Model Exact :=
  lone "limit" { Variable.binary with value := .number (1 / 2) }
    (.box ⟨⟨⟨0⟩, 0⟩, 0, .number (1 / 2)⟩)

/-- Crossed bounds and a binary variable that loses a value are not exportable. -/
theorem relaxed_crossed_tightened :
    crossed.Relaxed Exact.numerals "m" ∧ tightened.Relaxed Exact.numerals "m" := by
  refine ⟨relaxed_lone (by simp [mentions]) rfl ?_ (by decide +kernel),
    relaxed_lone (by simp [mentions]) rfl ?_ (by decide +kernel)⟩
  · refine admits_lone (by norm_num) ⟨by decide +kernel, by decide +kernel⟩ (by decide +kernel)
      fun row listed => ?_
    have named : (documentOf crossed "m").deck.boundedRows = ["limit_0"] := by decide +kernel
    cases List.mem_singleton.mp (named ▸ listed)
    exact ⟨⟨.number 10, .number 30⟩, 20, by decide +kernel, by decide +kernel,
      by decide +kernel, by decide +kernel⟩
  · exact admits_lone (by norm_num) ⟨by decide +kernel, by decide +kernel⟩ (by decide +kernel)
      fun row listed => by cases listed

end Model

end Dispatch
