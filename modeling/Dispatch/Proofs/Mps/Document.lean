import Dispatch.Proofs.Mps.Merging
import Dispatch.Proofs.Mps.Parsing

namespace Dispatch

open Mps

/-! The document of a model, looked up by column and by row. -/

namespace Model

variable {K : Type} [Scalar K] (model : Model K)

/-- The rows that are bounded on a side, with their families. -/
def boundedRows : List (String × Row K) :=
  model.constraints.filterMap fun entry =>
    match entry.constraint with
    | .row row =>
        if Scalar.isFinite row.lhs || Scalar.isFinite row.rhs then some (entry.family, row)
        else none
    | .box _ => none

def objectiveTerms : List (VarRef × K) :=
  model.objectives.flatMap fun objective => objective.function.terms

end Model

namespace Mps

variable {K : Type} [Scalar K]

/-- The document of a model in which every variable is known. -/
def documentOf (model : Model K) (name : String) : MpsDocument K where
  name
  sense := firstSense model.objectives
  objectiveConstant := model.objectives.foldl
    (fun total objective => total + objective.function.constant) 0
  rows := (keptRows 0 model.constraints).filterMap fun row => mpsRow? row.1 row.2.1 row.2.2
  columns := model.vars.map fun entry =>
    column entry.2 (said entry.1 (boxes model.constraints)) (said entry.1 model.objectiveTerms)
      (said entry.1 (rowTerms (keptRows 0 model.constraints)))

theorem isSome_rowForm? (lhs rhs : K) :
    (rowForm? lhs rhs).isSome = (Scalar.isFinite lhs || Scalar.isFinite rhs) := by
  unfold rowForm?
  cases Scalar.isFinite lhs <;> cases Scalar.isFinite rhs
  · rfl
  · rfl
  · rfl
  · dsimp only
    split <;> rfl

/-- The variables that an export refers to are among those that the constraint mentions. -/
def mentions : Constraint K → List VarRef
  | .row row => row.function.terms.map Prod.fst
  | .box box => [box.var]

theorem mem_mentions_of_mem_exportedVars {constraint : Constraint K} {var : VarRef}
    (member : var ∈ exportedVars constraint) : var ∈ mentions constraint := by
  cases constraint with
  | row row =>
      rw [exportedVars] at member
      split at member
      · exact member
      · cases member
  | box box => exact member

/-- An export fails on the first unknown variable, and there is the document otherwise. -/
theorem ofModel_eq (model : Model K) (name : String) :
    ofModel model name =
      match firstUnknown? (VarIndex.ofEntries model.vars).contains
          (model.objectiveTerms.map Prod.fst ++
            model.constraints.flatMap fun entry => exportedVars entry.constraint) with
      | some var => .error (.unknownVariable var)
      | none => .ok (documentOf model name) := by
  have found {α : Type} (entries : List (VarRef × α)) :
      (VarIndex.ofEntries entries).find = fun var => said var entries := by
    funext var
    exact VarIndex.find_ofEntries entries var
  unfold ofModel
  simp only [found]
  rfl

theorem ofModel_eq_ok {model : Model K} (name : String)
    (objectives : ∀ objective ∈ model.objectives, ∀ term ∈ objective.function.terms,
      term.1 ∈ model.vars.map Prod.fst)
    (constraints : ∀ entry ∈ model.constraints, ∀ var ∈ mentions entry.constraint,
      var ∈ model.vars.map Prod.fst) :
    ofModel model name = .ok (documentOf model name) := by
  have known : firstUnknown? (VarIndex.ofEntries model.vars).contains
      (model.objectiveTerms.map Prod.fst ++
        model.constraints.flatMap fun entry => exportedVars entry.constraint) = none := by
    refine List.find?_eq_none.mpr fun var member => ?_
    have listed : var ∈ model.vars.map Prod.fst := by
      cases List.mem_append.mp member with
      | inl inObjective =>
          obtain ⟨term, inside, rfl⟩ := List.mem_map.mp inObjective
          obtain ⟨objective, among, inside⟩ := List.mem_flatMap.mp inside
          exact objectives objective among term inside
      | inr inConstraint =>
          obtain ⟨entry, among, inside⟩ := List.mem_flatMap.mp inConstraint
          exact constraints entry among var (mem_mentions_of_mem_exportedVars inside)
    have holds : (VarIndex.ofEntries model.vars).contains var = true := by
      rw [VarIndex.contains_ofEntries]
      exact List.contains_iff_mem.mpr listed
    simp [holds]
  rw [ofModel_eq, known]

theorem eq_documentOf_of_ofModel {model : Model K} {name : String} {document : MpsDocument K}
    (written : ofModel model name = .ok document) : document = documentOf model name := by
  rw [ofModel_eq] at written
  split at written
  · cases written
  · exact (Except.ok.inj written).symm

/-- Kept rows are numbered in their order, without a gap. -/
theorem keptRows_eq (model : Model K) :
    keptRows 0 model.constraints =
      model.boundedRows.zipIdx.map fun item => (item.2, item.1) := by
  unfold Model.boundedRows
  generalize model.constraints = entries
  have from' (start : Nat) : keptRows start entries =
      ((entries.filterMap fun entry =>
        match entry.constraint with
        | .row row =>
            if Scalar.isFinite row.lhs || Scalar.isFinite row.rhs then some (entry.family, row)
            else none
        | .box _ => none).zipIdx start).map fun item => (item.2, item.1) := by
    induction entries generalizing start with
    | nil => rfl
    | cons entry rest induction =>
        obtain ⟨family, index, row | box⟩ := entry
        · rw [keptRows, List.filterMap_cons]
          dsimp only
          rw [isSome_rowForm?]
          split
          · rw [induction]
            rfl
          · exact induction start
        · exact induction start
  exact from' 0

theorem getElem?_filterMap_of_isSome {α β : Type} {items : List α} {f : α → Option β}
    (total : ∀ item ∈ items, (f item).isSome = true) (place : Nat) :
    (items.filterMap f)[place]? = items[place]?.bind f := by
  induction items generalizing place with
  | nil => rfl
  | cons item rest induction =>
      obtain ⟨value, found⟩ := Option.isSome_iff_exists.mp (total item List.mem_cons_self)
      rw [List.filterMap_cons_some found]
      cases place with
      | zero => exact found.symm
      | succ place => exact induction (fun other member => total other (.tail _ member)) place

variable {model : Model K}

theorem mem_boundedRows {row : String × Row K} (member : row ∈ model.boundedRows) :
    (∃ entry ∈ model.constraints, entry.constraint = .row row.2) ∧
      (Scalar.isFinite row.2.lhs || Scalar.isFinite row.2.rhs) = true := by
  obtain ⟨entry, listed, found⟩ := List.mem_filterMap.mp member
  split at found
  · rename_i kind
    split at found
    · rename_i bounded
      cases found
      exact ⟨⟨entry, listed, kind⟩, bounded⟩
    · cases found
  · cases found

theorem getElem?_rows (name : String) (place : Nat) :
    (documentOf model name).rows[place]? =
      model.boundedRows[place]?.bind fun row => mpsRow? place row.1 row.2 := by
  have total : ∀ item ∈ keptRows 0 model.constraints,
      (mpsRow? item.1 item.2.1 item.2.2).isSome = true := by
    intro item member
    rw [keptRows_eq] at member
    obtain ⟨numbered, inside, rfl⟩ := List.mem_map.mp member
    have bounded := (mem_boundedRows (List.fst_mem_of_mem_zipIdx inside)).2
    rw [mpsRow?, Option.isSome_map, isSome_rowForm?]
    exact bounded
  refine (getElem?_filterMap_of_isSome total place).trans ?_
  rw [keptRows_eq, List.getElem?_map, List.getElem?_zipIdx]
  cases model.boundedRows[place]? <;> simp

theorem names_rows (name : String) :
    (documentOf model name).rows.map MpsRow.name =
      model.boundedRows.mapIdx fun place row => rowName row.1 place := by
  refine List.ext_getElem? fun place => ?_
  rw [List.getElem?_map, getElem?_rows, List.getElem?_mapIdx]
  cases found : model.boundedRows[place]? with
  | none => rfl
  | some row =>
      have bounded := (mem_boundedRows (List.mem_of_getElem? found)).2
      rw [← isSome_rowForm?] at bounded
      obtain ⟨form, formed⟩ := Option.isSome_iff_exists.mp bounded
      simp [mpsRow?, formed]

theorem nodup_names (name : String) :
    ((documentOf model name).rows.map MpsRow.name).Nodup := by
  rw [names_rows]
  exact nodup_mapIdx rowName_inj _

theorem getElem?_columns (name : String) {place : Nat} {entry : VarRef × Variable K}
    (found : model.vars[place]? = some entry) :
    (documentOf model name).columns[place]? =
      some (column entry.2 (said entry.1 (boxes model.constraints))
        (said entry.1 model.objectiveTerms)
        (said entry.1 (rowTerms (keptRows 0 model.constraints)))) := by
  rw [documentOf, List.getElem?_map, found]
  rfl

theorem said_rowTerms (var : VarRef) :
    said var (rowTerms (keptRows 0 model.constraints)) =
      (model.boundedRows.mapIdx fun place row =>
        (said var row.2.function.terms).map fun value => (place, value)).flatten := by
  have terms : rowTerms (keptRows 0 model.constraints) =
      (model.boundedRows.mapIdx fun place row =>
        row.2.function.terms.map fun term => (term.1, (place, term.2))).flatten := by
    rw [rowTerms, keptRows_eq, List.mapIdx_eq_zipIdx_map]
    simp [List.flatMap_def, Function.comp_def]
  have each (place : Nat) (row : String × Row K) :
      said var (row.2.function.terms.map fun term => (term.1, (place, term.2))) =
        (said var row.2.function.terms).map fun value => (place, value) :=
    said_map_snd var (fun value => (place, value)) _
  rw [terms, said_flatten, List.mapIdx_eq_zipIdx_map, List.mapIdx_eq_zipIdx_map, List.map_map]
  simp only [Function.comp_def, each]

end Mps

end Dispatch
