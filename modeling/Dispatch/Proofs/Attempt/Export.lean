import Dispatch.Proofs.Attempt.Trial
import Dispatch.Proofs.Closure.Store

namespace Dispatch

/-! The export of a model as it is written: one column per variable, into which the terms of
objectives and rows and the boxes are entered one by one, at the place of their variable. -/

namespace Mps

variable {K : Type} [Scalar K]

/-- What a term or a box adds to the column of its variable. -/
inductive Posting (K : Type)
  | objective (value : K)
  | factor (row : Nat) (value : K)
  | box (box : Box K)

/-- The column of a variable that nothing has been entered into. -/
def blank (decision : Variable K) : MpsColumn K :=
  ⟨decision.lower, decision.upper, decision.kind == .binary, none, []⟩

/-- A factor is added to the last one, if that belongs to its row. -/
def addFactor (factors : List (Nat × K)) (factor : Nat × K) : List (Nat × K) :=
  match factors.getLast? with
  | some (row, total) =>
      if row = factor.1 then factors.dropLast ++ [(row, total + factor.2)]
      else factors ++ [factor]
  | none => [factor]

def addObjective (total : Option K) (value : K) : Option K :=
  match total with
  | none => some value
  | some total => some (total + value)

def post (column : MpsColumn K) : Posting K → MpsColumn K
  | .objective value => { column with objective := addObjective column.objective value }
  | .factor row value => { column with factors := addFactor column.factors (row, value) }
  | .box box => { column with
      lower := Scalar.larger column.lower box.lhs
      upper := Scalar.smaller column.upper box.rhs }

/-- The entries of the constraints; a row that is left out has none and takes no number. -/
def constraintPostings : Nat → List (Entry K) → List (VarRef × Posting K)
  | _, [] => []
  | number, entry :: rest =>
      match entry.constraint with
      | .box box => (box.var, .box box) :: constraintPostings number rest
      | .row row =>
          if (rowForm? row.lhs row.rhs).isSome then
            row.function.terms.map (fun term => (term.1, .factor number term.2)) ++
              constraintPostings (number + 1) rest
          else constraintPostings number rest

def postings (model : Model K) : List (VarRef × Posting K) :=
  model.objectiveTerms.map (fun term => (term.1, .objective term.2)) ++
    constraintPostings 0 model.constraints

/-- An entry for a variable without a column is refused; a column is asked for by number. -/
def post? (vars : List VarRef) (columns : List (MpsColumn K))
    (posting : VarRef × Posting K) : Trial (List (MpsColumn K)) :=
  match vars.idxOf? posting.1 with
  | none => Trial.refuse (.unknownVariable posting.1)
  | some place => do
      let column ← Trial.look columns[place]?
      return columns.set place (post column posting.2)

def ofModel? (model : Model K) (name : String) : Trial (MpsDocument K) := do
  let columns ← (postings model).foldlM (post? (model.vars.map Prod.fst))
    (model.vars.map fun entry => blank entry.2)
  return {
    name
    sense := firstSense model.objectives
    objectiveConstant := model.objectives.foldl
      (fun total objective => total + objective.function.constant) 0
    rows := (keptRows 0 model.constraints).filterMap fun row => mpsRow? row.1 row.2.1 row.2.2
    columns }

def Posting.objective? : Posting K → Option K
  | .objective value => some value
  | _ => none

def Posting.factor? : Posting K → Option (Nat × K)
  | .factor row value => some (row, value)
  | _ => none

def Posting.box? : Posting K → Option (Box K)
  | .box limits => some limits
  | _ => none

theorem foldl_post (entries : List (Posting K)) (column : MpsColumn K) :
    entries.foldl post column = {
      lower := (entries.filterMap Posting.box?).foldl
        (fun lower box => Scalar.larger lower box.lhs) column.lower
      upper := (entries.filterMap Posting.box?).foldl
        (fun upper box => Scalar.smaller upper box.rhs) column.upper
      isBinary := column.isBinary
      objective := (entries.filterMap Posting.objective?).foldl addObjective column.objective
      factors := (entries.filterMap Posting.factor?).foldl addFactor column.factors } := by
  induction entries generalizing column with
  | nil => rfl
  | cons entry rest induction =>
      rw [List.foldl_cons, induction]
      cases entry <;>
        simp [post, List.filterMap_cons, Posting.box?, Posting.objective?, Posting.factor?]

theorem foldl_addObjective (values : List K) : values.foldl addObjective none = total? values := by
  cases values with
  | nil => rfl
  | cons first rest =>
      have added (total : K) : rest.foldl addObjective (some total) =
          some (rest.foldl (· + ·) total) := by
        induction rest generalizing total with
        | nil => rfl
        | cons value rest induction => exact induction (total + value)
      exact added first

theorem foldl_addFactor_concat (earlier : List (Nat × K)) (row : Nat) (total : K)
    (pairs : List (Nat × K)) :
    pairs.foldl addFactor (earlier ++ [(row, total)]) = earlier ++ mergeFrom row total pairs := by
  induction pairs generalizing earlier row total with
  | nil => rfl
  | cons pair rest induction =>
      obtain ⟨next, value⟩ := pair
      rw [List.foldl_cons, mergeFrom, addFactor, List.getLast?_concat]
      by_cases same : next = row
      · subst same
        simp only [if_true, List.dropLast_concat]
        exact induction earlier next (total + value)
      · simp only [if_neg same, if_neg (Ne.symm same)]
        rw [induction]
        simp

theorem foldl_addFactor (pairs : List (Nat × K)) : pairs.foldl addFactor [] = mergeRows pairs := by
  cases pairs with
  | nil => rfl
  | cons pair rest => exact foldl_addFactor_concat [] pair.1 pair.2 rest

/-- The entries of one kind. -/
def ofKind {α : Type} (kind? : Posting K → Option α) (entries : List (VarRef × Posting K)) :
    List (VarRef × α) :=
  entries.filterMap fun entry => (kind? entry.2).map fun value => (entry.1, value)

omit [Scalar K] in
theorem filterMap_said {α : Type} (kind? : Posting K → Option α) (var : VarRef)
    (entries : List (VarRef × Posting K)) :
    (said var entries).filterMap kind? = said var (ofKind kind? entries) := by
  unfold said ofKind
  rw [List.filterMap_filterMap, List.filterMap_filterMap]
  refine List.filterMap_congr fun entry _ => ?_
  by_cases same : entry.1 = var <;> cases kind : kind? entry.2 <;> simp [same, kind]

omit [Scalar K] in
theorem ofKind_append {α : Type} (kind? : Posting K → Option α)
    (first second : List (VarRef × Posting K)) :
    ofKind kind? (first ++ second) = ofKind kind? first ++ ofKind kind? second :=
  List.filterMap_append

omit [Scalar K] in
/-- Entries that are all of the kind. -/
theorem ofKind_map_some {α β : Type} {kind? : Posting K → Option α} {make : β → Posting K}
    (value : β → α) (made : ∀ term, kind? (make term) = some (value term))
    (terms : List (VarRef × β)) :
    ofKind kind? (terms.map fun term => (term.1, make term.2)) =
      terms.map fun term => (term.1, value term.2) := by
  unfold ofKind
  rw [List.filterMap_map]
  simp [made]

omit [Scalar K] in
theorem ofKind_map_none {α β : Type} {kind? : Posting K → Option α} {make : β → Posting K}
    (made : ∀ term, kind? (make term) = none) (terms : List (VarRef × β)) :
    ofKind kind? (terms.map fun term => (term.1, make term.2)) = [] := by
  unfold ofKind
  rw [List.filterMap_map]
  simp [made]

theorem ofKind_constraintPostings (number : Nat) (entries : List (Entry K)) :
    ofKind Posting.box? (constraintPostings number entries) = boxes entries ∧
      ofKind Posting.objective? (constraintPostings number entries) = [] ∧
      ofKind Posting.factor? (constraintPostings number entries) =
        rowTerms (keptRows number entries) := by
  induction entries generalizing number with
  | nil => exact ⟨rfl, rfl, rfl⟩
  | cons entry rest induction =>
      unfold constraintPostings keptRows boxes
      rw [List.filterMap_cons]
      cases entry.constraint with
      | box box =>
          obtain ⟨boxed, priced, weighed⟩ := induction number
          exact ⟨congrArg ((box.var, box) :: ·) boxed, priced, weighed⟩
      | row row =>
          dsimp only
          by_cases kept : (rowForm? row.lhs row.rhs).isSome
          · obtain ⟨boxed, priced, weighed⟩ := induction (number + 1)
            simp only [if_pos kept, ofKind_append]
            rw [boxed, priced, weighed, ofKind_map_none fun _ => rfl, ofKind_map_none fun _ => rfl,
              ofKind_map_some (fun value => (number, value)) fun _ => rfl]
            exact ⟨rfl, rfl, rfl⟩
          · simp only [if_neg kept]
            exact induction number

/-- What is entered into a blank column makes the column of the document. -/
theorem foldl_post_postings (model : Model K) (entry : VarRef × Variable K) :
    (said entry.1 (postings model)).foldl post (blank entry.2) =
      column entry.2 (said entry.1 (boxes model.constraints))
        (said entry.1 model.objectiveTerms)
        (said entry.1 (rowTerms (keptRows 0 model.constraints))) := by
  obtain ⟨boxed, priced, weighed⟩ := ofKind_constraintPostings 0 model.constraints
  have objectives : ofKind Posting.objective?
        (model.objectiveTerms.map fun term => (term.1, .objective term.2)) =
      model.objectiveTerms :=
    (ofKind_map_some id (fun value => show Posting.objective? (.objective value) = some value
      from rfl) _).trans (List.map_id _)
  rw [foldl_post]
  simp only [filterMap_said, postings, ofKind_append, boxed, priced, weighed, objectives]
  rw [ofKind_map_none fun _ => rfl, ofKind_map_none fun _ => rfl]
  simp only [List.nil_append, List.append_nil]
  unfold column blank
  rw [foldl_addObjective, foldl_addFactor]

/-- Entering at the place of a variable changes its column alone. -/
theorem post?_eq {vars : List (VarRef × Variable K)} (distinct : (vars.map Prod.fst).Nodup)
    (content : VarRef × Variable K → MpsColumn K) {posting : VarRef × Posting K}
    (known : posting.1 ∈ vars.map Prod.fst) :
    post? (vars.map Prod.fst) (vars.map content) posting =
      Trial.done (vars.map fun entry =>
        if entry.1 = posting.1 then post (content entry) posting.2 else content entry) := by
  obtain ⟨entry, member, same⟩ := List.mem_map.mp known
  obtain ⟨place, place_lt, found⟩ := List.getElem_of_mem member
  have there (other : Nat) (other_lt : other < vars.length) :
      (vars[other]).1 = posting.1 ↔ other = place := by
    have first : other < (vars.map Prod.fst).length := by simpa using other_lt
    have second : place < (vars.map Prod.fst).length := by simpa using place_lt
    have apart : (vars.map Prod.fst)[other] = (vars.map Prod.fst)[place] ↔ other = place :=
      distinct.getElem_inj_iff
    simpa [found, same] using apart
  have numbered : (vars.map Prod.fst).idxOf? posting.1 = some place := by
    rw [List.idxOf?_eq_some_iff]
    refine ⟨by simpa using place_lt, by simpa using (there place place_lt).mpr rfl, ?_⟩
    intro other earlier
    rw [List.getElem_map, there other (earlier.trans place_lt)]
    exact earlier.ne
  unfold post?
  rw [numbered]
  dsimp only
  have column : (vars.map content)[place]? = some (content entry) := by
    simp [place_lt, found]
  rw [column]
  refine congrArg Trial.done (List.ext_getElem (by simp) fun other first second => ?_)
  have other_lt : other < vars.length := by simpa using second
  rw [List.getElem_set]
  simp only [List.getElem_map]
  by_cases here : place = other
  · subst here
    rw [if_pos rfl, if_pos ((there place place_lt).mpr rfl), found]
  · rw [if_neg here, if_neg fun same => here ((there other other_lt).mp same).symm]

theorem completes_columns {model : Model K} (closed : model.Closed)
    {entries : List (VarRef × Posting K)}
    (known : ∀ posting ∈ entries, posting.1 ∈ model.vars.map Prod.fst)
    (content : VarRef × Variable K → MpsColumn K) :
    entries.foldlM (post? (model.vars.map Prod.fst)) (model.vars.map content) =
      Trial.done (model.vars.map fun entry =>
        (said entry.1 entries).foldl post (content entry)) := by
  induction entries generalizing content with
  | nil => rfl
  | cons posting rest induction =>
      rw [List.foldlM_cons, post?_eq closed.distinct content (known posting List.mem_cons_self)]
      change List.foldlM _ _ rest = _
      rw [induction fun later member => known later (List.mem_cons_of_mem _ member)]
      refine congrArg Trial.done (List.map_congr_left fun entry _ => ?_)
      rw [said_cons]
      by_cases same : posting.1 = entry.1
      · rw [if_pos same, if_pos same.symm]
        rfl
      · rw [if_neg same, if_neg (Ne.symm same)]

theorem mem_constraintPostings {number : Nat} {entries : List (Entry K)}
    {posting : VarRef × Posting K} (member : posting ∈ constraintPostings number entries) :
    ∃ entry ∈ entries, posting.1 ∈ mentions entry.constraint := by
  induction entries generalizing number with
  | nil => cases member
  | cons entry rest induction =>
      have later {number : Nat} (member : posting ∈ constraintPostings number rest) :
          ∃ other ∈ entry :: rest, posting.1 ∈ mentions other.constraint := by
        obtain ⟨other, listed, mentioned⟩ := induction member
        exact ⟨other, List.mem_cons_of_mem _ listed, mentioned⟩
      unfold constraintPostings at member
      cases shape : entry.constraint with
      | box box =>
          rw [shape] at member
          rcases List.mem_cons.mp member with rfl | member
          · exact ⟨entry, List.mem_cons_self, by simp [shape, mentions]⟩
          · exact later member
      | row row =>
          rw [shape] at member
          dsimp only at member
          split at member
          · rcases List.mem_append.mp member with own | member
            · obtain ⟨term, listed, rfl⟩ := List.mem_map.mp own
              refine ⟨entry, List.mem_cons_self, ?_⟩
              rw [shape]
              exact List.mem_map_of_mem listed
            · exact later member
          · exact later member

theorem known_postings {model : Model K} (closed : model.Closed) :
    ∀ posting ∈ postings model, posting.1 ∈ model.vars.map Prod.fst := by
  intro posting member
  cases List.mem_append.mp member with
  | inl objective =>
      obtain ⟨term, listed, rfl⟩ := List.mem_map.mp objective
      obtain ⟨target, present, inside⟩ := List.mem_flatMap.mp listed
      exact closed.refers.objectives target present term inside
  | inr constraint =>
      obtain ⟨entry, present, mentioned⟩ := mem_constraintPostings constraint
      exact closed.refers.constraints entry present _ mentioned

theorem completes_ofModel {model : Model K} (closed : model.Closed) (name : String) :
    (ofModel? model name).Completes (ofModel model name) := by
  have columns := completes_columns closed (known_postings closed) fun entry => blank entry.2
  rw [ofModel_eq_ok name closed.refers.objectives closed.refers.constraints]
  unfold ofModel?
  rw [columns]
  simp only [foldl_post_postings]
  rfl

end Mps

namespace MpsDocument

open Mps

variable {K : Type} [Scalar K] (numeral : K → String) (document : MpsDocument K)

/-- The row of a factor has to be there. -/
def columnLines? (rowNames : Array String) (place : Nat) (column : MpsColumn K) :
    Option (List String) := do
  let factors ← column.factors.mapM fun factor => do
    return factorLine numeral (columnName place) (← rowNames[factor.1]?) factor.2
  return column.objective.toList.map (factorLine numeral (columnName place) objectiveRow) ++
    factors

def lines? : Option (List String) := do
  let rowNames := (document.rows.map MpsRow.name).toArray
  let columns ← document.columns.zipIdx.mapM fun entry =>
    columnLines? numeral rowNames entry.2 entry.1
  return ["NAME " ++ document.name, "OBJSENSE", senseLine document.sense, "ROWS",
    " N " ++ objectiveRow] ++ document.rowLines ++ ["COLUMNS"] ++ columns.flatten ++ ["RHS"] ++
    document.rhsLines numeral ++ ["RANGES"] ++ document.rangeLines numeral ++ ["BOUNDS"] ++
    (document.columns.mapIdx fun place column =>
      (columnBounds column).map (boundLine numeral (columnName place))).flatten ++ ["ENDATA"]

def text? : Option String := do
  let lines ← document.lines? numeral
  return String.join (lines.map fun line => line ++ "\n")

variable {numeral} {document}

omit [Scalar K] in
theorem columnLines?_eq {rowNames : Array String} (place : Nat) {column : MpsColumn K}
    (within : ∀ factor ∈ column.factors, factor.1 < rowNames.size) :
    columnLines? numeral rowNames place column =
      some (columnLines numeral rowNames place column) := by
  unfold columnLines? columnLines
  rw [Lookup.mapM_eq_filterMap fun factor member => by simp [within factor member]]
  simp only [Option.bind_eq_bind, Option.bind_some]
  refine congrArg (fun factors => some (_ ++ factors)) (List.filterMap_congr fun factor _ => ?_)
  cases rowNames[factor.1]? <;> rfl

theorem text?_eq
    (within : ∀ column ∈ document.columns, ∀ factor ∈ column.factors,
      factor.1 < document.rows.length) :
    document.text? numeral = some (document.text numeral) := by
  have columns : (document.columns.zipIdx.mapM fun entry =>
        columnLines? numeral (document.rows.map MpsRow.name).toArray entry.2 entry.1) =
      some (document.columns.mapIdx
        (columnLines numeral (document.rows.map MpsRow.name).toArray)) := by
    rw [List.mapIdx_eq_zipIdx_map]
    refine Lookup.mapM_eq_some fun entry listed => columnLines?_eq entry.2 ?_
    have present := List.mem_of_getElem? (List.mem_zipIdx_iff_getElem?.mp listed)
    simpa using within entry.1 present
  unfold text? lines?
  dsimp only
  rw [columns]
  rfl

end MpsDocument

namespace Mps

variable {K : Type} [Scalar K]

theorem mem_mergeFrom {row : Nat} {total : K} {pairs : List (Nat × K)} {pair : Nat × K}
    (member : pair ∈ mergeFrom row total pairs) : pair.1 ∈ row :: pairs.map Prod.fst := by
  induction pairs generalizing row total with
  | nil =>
      rw [List.mem_singleton.mp member]
      exact List.mem_cons_self
  | cons next rest induction =>
      unfold mergeFrom at member
      split at member
      · rcases List.mem_cons.mp (induction member) with same | later
        · simp [same]
        · simp [later]
      · rcases List.mem_cons.mp member with rfl | member
        · exact List.mem_cons_self
        · exact List.mem_cons_of_mem _ (induction member)

theorem mem_mergeRows {pairs : List (Nat × K)} {pair : Nat × K}
    (member : pair ∈ mergeRows pairs) : pair.1 ∈ pairs.map Prod.fst := by
  cases pairs with
  | nil => cases member
  | cons first rest => exact mem_mergeFrom member

/-- A factor belongs to one of the rows of the document. -/
theorem factor_lt_documentOf (model : Model K) (name : String) :
    ∀ column ∈ (documentOf model name).columns, ∀ factor ∈ column.factors,
      factor.1 < (documentOf model name).rows.length := by
  intro column member factor inside
  have rows : (documentOf model name).rows.length = model.boundedRows.length := by
    have names : (documentOf model name).rows.map MpsRow.name = _ := names_rows name
    simpa using congrArg List.length names
  obtain ⟨entry, _, rfl⟩ := List.mem_map.mp member
  obtain ⟨term, listed, same⟩ := List.mem_map.mp (mem_mergeRows inside)
  obtain ⟨row, kept, inside⟩ := List.mem_flatMap.mp (mem_of_mem_said listed)
  obtain ⟨_, _, equality⟩ := List.mem_map.mp inside
  rw [keptRows_eq] at kept
  obtain ⟨item, numbered, rfl⟩ := List.mem_map.mp kept
  have number_lt := (List.getElem?_eq_some_iff.mp (List.mem_zipIdx_iff_getElem?.mp numbered)).1
  rw [rows, ← same, ← congrArg (fun entry => entry.2.1) equality]
  exact number_lt

end Mps

def Model.mpsWith? {K : Type} [Scalar K] (numeral : K → String) (model : Model K)
    (name : String) : Trial String := do
  let document ← Mps.ofModel? model name
  Trial.look (document.text? numeral)

theorem Model.Closed.completes_mpsWith {K : Type} [Scalar K] {model : Model K}
    (closed : model.Closed) (numeral : K → String) (name : String) :
    (model.mpsWith? numeral name).Completes (model.mpsWith numeral name) := by
  have written := Mps.completes_ofModel closed name
  unfold mpsWith? mpsWith
  rw [Mps.ofModel_eq_ok name closed.refers.objectives closed.refers.constraints] at written ⊢
  unfold Trial.Completes at written ⊢
  rw [written]
  exact congrArg (Option.map Except.ok)
    (MpsDocument.text?_eq (Mps.factor_lt_documentOf model name))

end Dispatch
