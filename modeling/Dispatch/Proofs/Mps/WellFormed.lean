import Dispatch.Network.Generation
import Dispatch.Proofs.Except
import Dispatch.Proofs.Mps.Faithful

namespace Dispatch

open Mps

/-! An export names things once and where they belong: rows have names of their own, a column has
one coefficient in a row, a row has one right-hand side and one range. Columns alone are not all
listed where they belong. One that no objective and no kept row mentions has no coefficient, so
that its bounds name a column that was never introduced. -/

variable {K : Type}

namespace Deck

/-- What is said of rows is said of rows that are there, and once. -/
structure WellFormed (deck : Deck K) : Prop where
  objective : (deck.rows.filter fun row => row.2.isNone) = [(objectiveRow, none)]
  rows : (deck.rows.map Prod.fst).Nodup
  entries : (deck.entries.map fun entry => (entry.1, entry.2.1)).Nodup
  entriesListed : ∀ entry ∈ deck.entries, entry.2.1 ∈ deck.rows.map Prod.fst
  rhs : (deck.rhs.map Prod.fst).Nodup
  rhsListed : ∀ name ∈ deck.rhs.map Prod.fst, name ∈ deck.rows.map Prod.fst
  ranges : (deck.ranges.map Prod.fst).Nodup
  rangesListed : ∀ name ∈ deck.ranges.map Prod.fst, (name, some .greater) ∈ deck.rows

/-- The columns that are introduced. -/
def introduced (deck : Deck K) : List String :=
  deck.entries.map Prod.fst

theorem WellFormed.map {L : Type} {deck : Deck K} (wellFormed : deck.WellFormed)
    (meaning : K → L) : (deck.map meaning).WellFormed where
  objective := wellFormed.objective
  rows := wellFormed.rows
  entries := by
    rw [Deck.map, List.map_map]
    exact wellFormed.entries
  entriesListed := List.forall_mem_map.mpr wellFormed.entriesListed
  rhs := by
    rw [Deck.map, List.map_map]
    exact wellFormed.rhs
  rhsListed := by
    rw [Deck.map, List.map_map]
    exact wellFormed.rhsListed
  ranges := by
    rw [Deck.map, List.map_map]
    exact wellFormed.ranges
  rangesListed := by
    rw [Deck.map, List.map_map]
    exact wellFormed.rangesListed

theorem introduced_map {L : Type} (deck : Deck K) (meaning : K → L) :
    (deck.map meaning).introduced = deck.introduced :=
  List.map_map

end Deck

namespace Mps

/-- What is listed about some of the members goes by their keys in their order. -/
theorem map_fst_filterMap_sublist {γ κ α : Type} {key : γ → κ} {about : γ → Option (κ × α)}
    (keyed : ∀ member item, about member = some item → item.1 = key member)
    (members : List γ) :
    ((members.filterMap about).map Prod.fst).Sublist (members.map key) := by
  induction members with
  | nil => exact .slnil
  | cons member rest induction =>
      rw [List.filterMap_cons, List.map_cons]
      cases found : about member with
      | none => exact .cons _ induction
      | some item =>
          rw [List.map_cons, keyed member item found]
          exact .cons_cons _ induction

/-- Pieces without duplicates, each under the key of its place, have none together. -/
theorem nodup_flatten_mapIdx {γ κ α : Type} {key : Nat → κ}
    (injective : ∀ {first second}, key first = key second → first = second)
    {piece : γ → List α} {items : List γ} (distinct : ∀ item ∈ items, (piece item).Nodup) :
    ((items.mapIdx fun place item =>
      (piece item).map fun value => (key place, value)).flatten).Nodup := by
  rw [List.nodup_flatten]
  constructor
  · intro pairs listed
    obtain ⟨place, within, rfl⟩ := List.mem_mapIdx.mp listed
    exact (distinct _ (List.getElem_mem within)).map fun _ _ same => (Prod.mk.inj same).2
  · rw [List.pairwise_iff_getElem]
    intro earlier later _ _ before pair first second
    rw [List.getElem_mapIdx] at first second
    obtain ⟨_, -, rfl⟩ := List.mem_map.mp first
    obtain ⟨_, -, same⟩ := List.mem_map.mp second
    exact absurd (injective (Prod.mk.inj same).1) (Nat.ne_of_gt before)

end Mps

namespace MpsDocument

variable [Scalar K] {document : MpsDocument K}

/-- What a document needs for a well-formed text. -/
structure Tidy (document : MpsDocument K) : Prop where
  named : document.Named
  factors : ∀ column ∈ document.columns, (column.factors.map Prod.fst).Nodup
  ranges : ∀ row ∈ document.rows, row.range.isSome → row.sense = .greater

omit [Scalar K] in
theorem map_fst_columnEntries (rowNames : Array String) (column : MpsColumn K) :
    (columnEntries rowNames column).map Prod.fst =
      (column.objective.toList.map fun _ => objectiveRow) ++
        (column.factors.map Prod.fst).filterMap fun number => rowNames[number]? := by
  rw [columnEntries, List.map_append, List.map_map, List.map_filterMap, List.filterMap_map]
  simp only [Option.map_map, Function.comp_def, Option.map_id']

omit [Scalar K] in
theorem Named.nodup_columnEntries (named : document.Named) {column : MpsColumn K}
    (distinct : (column.factors.map Prod.fst).Nodup) :
    ((columnEntries (document.rows.map MpsRow.name).toArray column).map Prod.fst).Nodup := by
  rw [map_fst_columnEntries, List.nodup_append]
  refine ⟨?_, ?_, ?_⟩
  · cases column.objective <;> simp
  · refine List.Nodup.filterMap (fun first second name here there => ?_) distinct
    rw [Option.mem_def, List.getElem?_toArray] at here there
    exact (List.getElem?_inj (List.getElem?_eq_some_iff.mp here).1 named.distinct).mp
      (here.trans there.symm)
  · rintro name objective other factor rfl
    obtain ⟨_, -, rfl⟩ := List.mem_map.mp objective
    obtain ⟨number, -, found⟩ := List.mem_filterMap.mp factor
    rw [List.getElem?_toArray] at found
    obtain ⟨row, member, same⟩ := List.mem_map.mp (List.mem_of_getElem? found)
    exact named.apart row member same

theorem Tidy.nodup_entries (tidy : document.Tidy) :
    (document.deck.entries.map fun entry => (entry.1, entry.2.1)).Nodup := by
  have keys : (document.deck.entries.map fun entry => (entry.1, entry.2.1)) =
      (document.columns.mapIdx fun place column =>
        ((columnEntries (document.rows.map MpsRow.name).toArray column).map Prod.fst).map
          fun row => (columnName place, row)).flatten := by
    simp only [deck, List.mapIdx_eq_zipIdx_map, List.map_flatten, List.map_map,
      Function.comp_def]
  rw [keys]
  exact nodup_flatten_mapIdx columnName_inj fun column member =>
    tidy.named.nodup_columnEntries (tidy.factors column member)

theorem sublist_rhs : (document.deck.rhs.map Prod.fst).Sublist
    (document.deck.rows.map Prod.fst) := by
  have rows : ((document.rows.filterMap fun row =>
      if row.rhs != 0 then some (row.name, row.rhs) else none).map Prod.fst).Sublist
        (document.rows.map MpsRow.name) := by
    refine map_fst_filterMap_sublist (fun row item found => ?_) _
    split at found
    · cases found
      rfl
    · cases found
  rw [map_fst_rows_deck, deck, List.map_append]
  split
  · exact .cons_cons _ rows
  · exact .cons _ rows

theorem sublist_ranges : (document.deck.ranges.map Prod.fst).Sublist
    (document.rows.map MpsRow.name) := by
  refine map_fst_filterMap_sublist (fun row item found => ?_) _
  obtain ⟨range, -, rfl⟩ := Option.map_eq_some_iff.mp found
  rfl

theorem Tidy.rangesListed (tidy : document.Tidy) :
    ∀ name ∈ document.deck.ranges.map Prod.fst, (name, some .greater) ∈ document.deck.rows := by
  intro name member
  obtain ⟨pair, listed, rfl⟩ := List.mem_map.mp member
  obtain ⟨row, inside, found⟩ := List.mem_filterMap.mp listed
  obtain ⟨range, wide, rfl⟩ := Option.map_eq_some_iff.mp found
  have greater := tidy.ranges row inside (Option.isSome_of_eq_some wide)
  exact .tail _ (List.mem_map.mpr ⟨row, inside, by rw [greater]⟩)

theorem Tidy.wellFormed (tidy : document.Tidy) : document.deck.WellFormed where
  objective := freeRows_deck
  rows := tidy.named.nodup_rows_deck
  entries := tidy.nodup_entries
  entriesListed _ member := (mem_entries_deck member).2
  rhs := tidy.named.nodup_rows_deck.sublist sublist_rhs
  rhsListed _ member := sublist_rhs.subset member
  ranges := tidy.named.distinct.sublist sublist_ranges
  rangesListed := tidy.rangesListed

/-- A column is introduced by its coefficients. -/
theorem mem_introduced {column : MpsColumn K} {place : Nat}
    (found : document.columns[place]? = some column) :
    columnName place ∈ document.deck.introduced ↔ column.objective.isSome ∨
      ∃ number ∈ column.factors.map Prod.fst, number < document.rows.length := by
  have given : columnName place ∈ document.deck.introduced ↔
      (columnEntries (document.rows.map MpsRow.name).toArray column).map Prod.fst ≠ [] := by
    rw [Deck.introduced, ← not_iff_not, ← said_eq_nil_iff, said_entries found, not_not,
      List.map_eq_nil_iff]
  rw [given, map_fst_columnEntries, ne_eq, List.append_eq_nil_iff, not_and_or]
  refine or_congr ?_ ?_
  · cases column.objective <;> simp
  · rw [List.filterMap_eq_nil_iff]
    simp

end MpsDocument

namespace Mps

variable [Scalar K] {model : Model K}

theorem sense_of_range {number : Nat} {family : String} {row : Row K} {made : MpsRow K}
    (kept : mpsRow? number family row = some made) (wide : made.range.isSome) :
    made.sense = .greater := by
  obtain ⟨⟨sense, rhs, range⟩, formed, rfl⟩ := Option.map_eq_some_iff.mp kept
  unfold rowForm? at formed
  split at formed
  · cases formed
  · split at formed <;> cases formed
    · cases wide
    · rfl
  · cases formed
    cases wide
  · cases formed
    cases wide

theorem ascending_rowTerms (var : VarRef) :
    Ascending (said var (rowTerms (keptRows 0 model.constraints))) := by
  rw [said_rowTerms]
  exact ascending_flatten_mapIdx _ _

theorem tidy_documentOf (name : String) : (documentOf model name).Tidy where
  named := named_documentOf name
  factors column member := by
    obtain ⟨entry, -, rfl⟩ := List.mem_map.mp member
    exact nodup_mergeRows (ascending_rowTerms entry.1)
  ranges row member := by
    obtain ⟨kept, -, made⟩ := List.mem_filterMap.mp member
    exact sense_of_range made

theorem isSome_total? (values : List K) : (total? values).isSome ↔ values ≠ [] := by
  cases values <;> simp [total?]

/-- The rows in which a variable has a coefficient, by their numbers. -/
theorem mem_rowTerms {var : VarRef} {number : Nat} :
    number ∈ (said var (rowTerms (keptRows 0 model.constraints))).map Prod.fst ↔
      ∃ row, model.boundedRows[number]? = some row ∧ var ∈ row.2.function.terms.map Prod.fst := by
  rw [← not_not (a := number ∈ _), ← said_eq_nil_iff, said_rowTerms, said_flatten_mapIdx id]
  cases model.boundedRows[number]? with
  | none => simp
  | some row => simp [said_eq_nil_iff]

theorem length_rows (name : String) :
    (documentOf model name).rows.length = model.boundedRows.length := by
  rw [← List.length_map MpsRow.name, names_rows, List.length_mapIdx]

end Mps

namespace Model

variable [Scalar K] (model : Model K)

/-- Some objective or some row that is bounded has a coefficient for the variable. -/
def Weighs (var : VarRef) : Prop :=
  var ∈ model.objectiveTerms.map Prod.fst ∨
    ∃ row ∈ model.boundedRows, var ∈ row.2.function.terms.map Prod.fst

variable {model}

theorem mem_introduced_documentOf (name : String) {place : Nat} {entry : VarRef × Variable K}
    (found : model.vars[place]? = some entry) :
    columnName place ∈ (documentOf model name).deck.introduced ↔ model.Weighs entry.1 := by
  rw [MpsDocument.mem_introduced (getElem?_columns name found), Mps.column, isSome_total?,
    ne_eq, said_eq_nil_iff, not_not]
  refine or_congr_right ⟨?_, ?_⟩
  · rintro ⟨number, member, -⟩
    obtain ⟨row, listed, mentioned⟩ := mem_rowTerms.mp (mem_fst_mergeRows.mp member)
    exact ⟨row, List.mem_of_getElem? listed, mentioned⟩
  · rintro ⟨row, member, mentioned⟩
    obtain ⟨number, listed⟩ := List.mem_iff_getElem?.mp member
    refine ⟨number, mem_fst_mergeRows.mpr (mem_rowTerms.mpr ⟨row, listed, mentioned⟩), ?_⟩
    rw [length_rows]
    exact (List.getElem?_eq_some_iff.mp listed).1

/-- A text is read with its numerals as they stand. -/
theorem read_mps {model : Model Float} {name text : String}
    (written : model.mps name = .ok text) (named : ∀ row ∈ model.boundedRows, IsSolid row.1)
    (single : '\n' ∉ name.toList) :
    Deck.read? Word.numerals text =
      some ((documentOf model name).deck.map Decimal.Style.word) := by
  obtain ⟨document, made, rfl⟩ := Except.map_eq_ok.mp written
  obtain rfl := eq_documentOf_of_ofModel made
  exact (worded_documentOf named).read_text_through single Word.numerals Decimal.Style.word

/-- Every text that is written is well-formed, and it introduces a column exactly if something
weighs its variable. Bounds are written of any column. -/
theorem wellFormed_of_mps {model : Model Float} {name text : String}
    (written : model.mps name = .ok text) (named : ∀ row ∈ model.boundedRows, IsSolid row.1)
    (single : '\n' ∉ name.toList) :
    ∃ deck, Deck.read? Word.numerals text = some deck ∧ deck.WellFormed ∧
      (∀ bound ∈ deck.bounds, ∃ place entry, model.vars[place]? = some entry ∧
        bound.1 = columnName place) ∧
      ∀ place entry, model.vars[place]? = some entry →
        (columnName place ∈ deck.introduced ↔ model.Weighs entry.1) := by
  refine ⟨_, read_mps written named single, (tidy_documentOf name).wellFormed.map _, ?_,
    fun place entry found => ?_⟩
  · intro bound member
    obtain ⟨kept, listed, rfl⟩ := List.mem_map.mp member
    obtain ⟨place, within, same⟩ := MpsDocument.mem_bounds_deck listed
    have columns : (documentOf model name).columns.length = model.vars.length :=
      List.length_map _
    rw [columns] at within
    exact ⟨place, _, List.getElem?_eq_getElem within, same⟩
  · rw [Deck.introduced_map]
    exact mem_introduced_documentOf name found

/-- Two nodes, a line that takes part in distribution and one that is free of limits. -/
def looseMesh : Network Float :=
  (Network.bus ⟨0⟩).attach (.owned (.dc
    { (DcData.bus : DcData Float) with
      nodes := 2
      start := [0, 0]
      finish := [1, 1]
      minFlow := [-10, -Scalar.infinity]
      maxFlow := [10, Scalar.infinity]
      susceptance := [1, 0]
      factors := some [0.5, 0.5, 0, 0] }))

def meshModel : Model Float :=
  (Network.generateObjective (Network.generateConstraints
    (Network.generateVariables looseMesh).state).state).state.model

theorem mps_meshModel : meshModel.mps "mesh" =
    .ok ((documentOf meshModel "mesh").text Decimal.Style.plain.text) := by
  rw [mps, mpsWith, ofModel_eq_ok "mesh" (by decide +kernel) (by decide +kernel)]
  rfl

/-- The flow on the free line has bounds and no coefficient. -/
theorem bounds_not_introduced_meshModel : ∃ text deck, meshModel.mps "mesh" = .ok text ∧
    Deck.read? Word.numerals text = some deck ∧
    "x3" ∈ deck.bounds.map Prod.fst ∧ "x3" ∉ deck.introduced := by
  have named : ∀ row ∈ meshModel.boundedRows, IsSolid row.1 := by decide +kernel
  refine ⟨_, _, mps_meshModel, read_mps mps_meshModel named (by decide), ?_, ?_⟩
  · rw [Deck.map, List.map_map]
    change "x3" ∈ (documentOf meshModel "mesh").deck.bounds.map Prod.fst
    decide +kernel
  · rw [Deck.introduced_map]
    decide +kernel

end Model

end Dispatch
