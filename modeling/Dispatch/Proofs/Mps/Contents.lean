import Dispatch.Proofs.Mps.Document

namespace Dispatch

open Mps

/-! What a document says, asked for by the names of its rows and columns. -/

namespace Exact

theorem eq_zero_of_bne {value : Exact} (same : (value != 0) = false) : value = 0 := by
  cases value with
  | number value =>
      have equal : value = 0 := by
        simpa [bne, zero_def, BEq.beq] using same
      rw [equal, zero_def]
  | infinite => cases same
  | undefined => cases same

end Exact

/-- Rows have names of their own, none of them that of the objective. -/
structure MpsDocument.Named {K : Type} (document : MpsDocument K) : Prop where
  distinct : (document.rows.map MpsRow.name).Nodup
  apart : ∀ row ∈ document.rows, row.name ≠ objectiveRow

theorem MpsDocument.said_entries {K : Type} [Scalar K] {document : MpsDocument K}
    {column : MpsColumn K} {place : Nat} (found : document.columns[place]? = some column) :
    said (columnName place) document.deck.entries =
      columnEntries (document.rows.map MpsRow.name).toArray column := by
  rw [deck, said_flatten_mapIdx columnName_inj, found]
  rfl

namespace MpsDocument.Named

variable {document : MpsDocument Exact} (named : document.Named) {row : MpsRow Exact}

include named

theorem sense?_deck (member : row ∈ document.rows) :
    document.deck.sense? row.name = some row.sense := by
  have found := said_filterMap named.distinct (fun row => some (some row.sense)) member
  simp only [Option.map_some, List.filterMap_eq_map'] at found
  have objective : ¬objectiveRow = row.name := fun same => named.apart row member same.symm
  rw [Deck.sense?, deck, said_cons, if_neg objective, found]
  rfl

theorem rhs?_deck (member : row ∈ document.rows) :
    document.deck.rhs? row.name = some row.rhs := by
  have found := said_filterMap named.distinct
    (fun row => if row.rhs != 0 then some row.rhs else none) member
  have written (row : MpsRow Exact) :
      ((if row.rhs != 0 then some row.rhs else none).map fun value => (row.name, value)) =
        if row.rhs != 0 then some (row.name, row.rhs) else none := by
    split <;> rfl
  simp only [written] at found
  have objective : ¬objectiveRow = row.name := fun same => named.apart row member same.symm
  have own : said row.name (if document.objectiveConstant != 0 then
      [(objectiveRow, -document.objectiveConstant)] else []) = [] := by
    split
    · rw [said_cons, if_neg objective, said_nil]
    · rfl
  rw [Deck.rhs?, deck, said_append, own, List.nil_append, found]
  cases nonzero : row.rhs != 0 with
  | true => rfl
  | false =>
      rw [Exact.eq_zero_of_bne nonzero]
      rfl

theorem range?_deck (member : row ∈ document.rows) :
    document.deck.range? row.name = some row.range := by
  rw [Deck.range?, deck, said_filterMap named.distinct MpsRow.range member]
  cases row.range <;> rfl

theorem bounds?_deck (member : row ∈ document.rows) :
    document.deck.bounds? row.name = some (row.sense.bounds row.rhs row.range) := by
  rw [Deck.bounds?, named.sense?_deck member, named.rhs?_deck member,
    named.range?_deck member]
  rfl

theorem constant?_deck : document.deck.constant? = some document.objectiveConstant := by
  have others : said objectiveRow (document.rows.filterMap fun row =>
      if row.rhs != 0 then some (row.name, row.rhs) else none) = [] := by
    refine said_eq_nil_of_not_mem fun inside => ?_
    obtain ⟨pair, listed, same⟩ := List.mem_map.mp inside
    obtain ⟨row, member, found⟩ := List.mem_filterMap.mp listed
    split at found
    · cases found
      exact named.apart row member same
    · cases found
  have objective : document.deck.objective? = some objectiveRow := rfl
  rw [Deck.constant?, objective, Option.bind_eq_bind, Option.bind_some, Deck.rhs?, deck,
    said_append, others, List.append_nil]
  cases written : document.objectiveConstant != 0 with
  | true =>
      rw [if_pos rfl, said_cons, if_pos rfl, said_nil]
      exact congrArg some (neg_neg document.objectiveConstant)
  | false =>
      rw [Exact.eq_zero_of_bne written]
      rfl

/-- The factors of a column go by the numbers of rows, its entries by their names. -/
theorem said_factors {number : Nat} (found : document.rows[number]? = some row)
    (factors : List (Nat × Exact)) :
    said row.name (factors.filterMap fun factor =>
      ((document.rows.map MpsRow.name).toArray[factor.1]?).map fun name => (name, factor.2)) =
      said number factors := by
  have here : (document.rows.map MpsRow.name)[number]? = some row.name := by
    rw [List.getElem?_map, found]
    rfl
  have within : number < (document.rows.map MpsRow.name).length :=
    (List.getElem?_eq_some_iff.mp here).1
  induction factors with
  | nil => rfl
  | cons factor rest induction =>
      rw [List.filterMap_cons, said_cons, List.getElem?_toArray]
      cases named' : (document.rows.map MpsRow.name)[factor.1]? with
      | none =>
          have other : ¬factor.1 = number := by
            rintro rfl
            rw [here] at named'
            cases named'
          rw [if_neg other]
          exact induction
      | some name =>
          have same : name = row.name ↔ factor.1 = number := by
            rw [← List.getElem?_inj (List.getElem?_eq_some_iff.mp named').1 named.distinct,
              here, named', Option.some.injEq]
          dsimp only [Option.map_some]
          rw [said_cons, induction]
          simp only [same]

theorem coefficient?_row {column : MpsColumn Exact} {place number : Nat}
    (found : document.columns[place]? = some column)
    (listed : document.rows[number]? = some row) :
    document.deck.coefficient? (columnName place) row.name =
      once? 0 (said number column.factors) := by
  have other : ¬objectiveRow = row.name :=
    fun same => named.apart row (List.mem_of_getElem? listed) same.symm
  rw [Deck.coefficient?, said_entries found, columnEntries, said_append, said_map_pair,
    if_neg other, named.said_factors listed, List.nil_append]

theorem coefficient?_objective {column : MpsColumn Exact} {place : Nat}
    (found : document.columns[place]? = some column) :
    document.deck.coefficient? (columnName place) objectiveRow =
      once? 0 column.objective.toList := by
  have others : said objectiveRow (column.factors.filterMap fun factor =>
      ((document.rows.map MpsRow.name).toArray[factor.1]?).map fun name =>
        (name, factor.2)) = [] := by
    refine said_eq_nil_of_not_mem fun inside => ?_
    obtain ⟨pair, listed, same⟩ := List.mem_map.mp inside
    obtain ⟨factor, -, found⟩ := List.mem_filterMap.mp listed
    obtain ⟨name, among, rfl⟩ := Option.map_eq_some_iff.mp found
    rw [List.getElem?_toArray] at among
    obtain ⟨row, member, rfl⟩ := List.mem_map.mp (List.mem_of_getElem? among)
    exact named.apart row member same
  rw [Deck.coefficient?, said_entries found, columnEntries, said_append, said_map_pair,
    if_pos rfl, others, List.append_nil]

end MpsDocument.Named

namespace MpsDocument

variable {K : Type} [Scalar K] {document : MpsDocument K}

theorem boundedRows_deck :
    document.deck.boundedRows = document.rows.map MpsRow.name := by
  have kept : (document.rows.map fun row => (row.name, some row.sense)).filter
      (fun row => row.2.isSome) = document.rows.map fun row => (row.name, some row.sense) :=
    List.filter_eq_self.mpr (List.forall_mem_map.mpr fun _ _ => rfl)
  rw [Deck.boundedRows, deck, List.filter_cons_of_neg (by decide), kept, List.map_map]
  rfl

theorem column_deck {column : MpsColumn K} {place : Nat}
    (found : document.columns[place]? = some column) :
    document.deck.column (columnName place) =
      (deckBounds column).foldl DeckColumn.bounded .default := by
  rw [Deck.column, deck, said_flatten_mapIdx columnName_inj, found]
  rfl

theorem map_fst_rows_deck :
    document.deck.rows.map Prod.fst = objectiveRow :: document.rows.map MpsRow.name := by
  rw [deck, List.map_cons, List.map_map]
  rfl

theorem Named.nodup_rows_deck (named : document.Named) :
    (document.deck.rows.map Prod.fst).Nodup := by
  rw [map_fst_rows_deck]
  refine List.nodup_cons.mpr ⟨fun listed => ?_, named.distinct⟩
  obtain ⟨row, member, same⟩ := List.mem_map.mp listed
  exact named.apart row member same

/-- Only the objective is free. -/
theorem freeRows_deck :
    (document.deck.rows.filter fun row => row.2.isNone) = [(objectiveRow, none)] := by
  have kept : (document.rows.map fun row => (row.name, some row.sense)).filter
      (fun row => row.2.isNone) = [] :=
    List.filter_eq_nil_iff.mpr (by simp)
  rw [deck, List.filter_cons_of_pos rfl, kept]

/-- Entries are of columns and rows that are there. -/
theorem mem_entries_deck {entry : String × String × K}
    (member : entry ∈ document.deck.entries) :
    (∃ place < document.columns.length, entry.1 = columnName place) ∧
      entry.2.1 ∈ document.deck.rows.map Prod.fst := by
  rw [map_fst_rows_deck]
  obtain ⟨entries, listed, member⟩ := List.mem_flatten.mp member
  obtain ⟨place, within, rfl⟩ := List.mem_mapIdx.mp listed
  obtain ⟨written, inside, rfl⟩ := List.mem_map.mp member
  refine ⟨⟨place, within, rfl⟩, ?_⟩
  cases List.mem_append.mp inside with
  | inl objective =>
      obtain ⟨value, -, rfl⟩ := List.mem_map.mp objective
      exact .head _
  | inr factor =>
      obtain ⟨factor, -, found⟩ := List.mem_filterMap.mp factor
      obtain ⟨name, row, rfl⟩ := Option.map_eq_some_iff.mp found
      rw [List.getElem?_toArray] at row
      exact .tail _ (List.mem_of_getElem? row)

theorem mem_bounds_deck {bound : String × Bound K}
    (member : bound ∈ document.deck.bounds) :
    ∃ place < document.columns.length, bound.1 = columnName place := by
  obtain ⟨bounds, listed, member⟩ := List.mem_flatten.mp member
  obtain ⟨place, within, rfl⟩ := List.mem_mapIdx.mp listed
  obtain ⟨written, -, rfl⟩ := List.mem_map.mp member
  exact ⟨place, within, rfl⟩

end MpsDocument

namespace Mps

theorem named_documentOf {K : Type} [Scalar K] {model : Model K} (name : String) :
    (documentOf model name).Named where
  distinct := nodup_names name
  apart row member := by
    have listed : row.name ∈ (documentOf model name).rows.map MpsRow.name :=
      List.mem_map_of_mem member
    rw [names_rows] at listed
    obtain ⟨place, _, same⟩ := List.mem_mapIdx.mp listed
    rw [← same]
    exact rowName_ne_objectiveRow _ _

variable {model : Model Exact}

theorem exists_row_documentOf (name : String) {place : Nat} {row : String × Row Exact}
    (found : model.boundedRows[place]? = some row) :
    ∃ sense value range, rowForm? row.2.lhs row.2.rhs = some (sense, value, range) ∧
      (documentOf model name).rows[place]? =
        some ⟨rowName row.1 place, sense, value - row.2.function.constant, range⟩ := by
  have bounded := (mem_boundedRows (List.mem_of_getElem? found)).2
  rw [← isSome_rowForm?] at bounded
  obtain ⟨⟨sense, value, range⟩, formed⟩ := Option.isSome_iff_exists.mp bounded
  refine ⟨sense, value, range, formed, ?_⟩
  rw [getElem?_rows, found, Option.bind_some, mpsRow?, formed]
  rfl

theorem coefficient?_documentOf (name : String) {place number : Nat}
    {entry : VarRef × Variable Exact} {row : String × Row Exact}
    (column : model.vars[place]? = some entry)
    (found : model.boundedRows[number]? = some row) :
    (documentOf model name).deck.coefficient? (columnName place) (rowName row.1 number) =
      some (said entry.1 row.2.function.terms).sum := by
  obtain ⟨sense, value, range, -, listed⟩ := exists_row_documentOf name found
  have written := getElem?_columns name column
  refine ((named_documentOf name).coefficient?_row written listed).trans ?_
  rw [Mps.column, said_rowTerms, once?_said_mergeRows (ascending_flatten_mapIdx _ _),
    said_flatten_mapIdx id, found]
  rfl

theorem objectiveCoefficient?_documentOf (name : String) {place : Nat}
    {entry : VarRef × Variable Exact} (column : model.vars[place]? = some entry) :
    (documentOf model name).deck.coefficient? (columnName place) objectiveRow =
      some (said entry.1 model.objectiveTerms).sum := by
  have written := getElem?_columns name column
  exact ((named_documentOf name).coefficient?_objective written).trans (once?_total? _)

theorem constant?_documentOf (name : String) :
    (documentOf model name).deck.constant? =
      some (model.objectives.map fun objective => objective.function.constant).sum := by
  have sum (objectives : List (Objective Exact)) (total : Exact) :
      objectives.foldl (fun total objective => total + objective.function.constant) total =
        total + (objectives.map fun objective => objective.function.constant).sum := by
    induction objectives generalizing total with
    | nil => simp
    | cons objective rest induction =>
        rw [List.foldl_cons, induction, List.map_cons, List.sum_cons, add_assoc]
  refine (named_documentOf name).constant?_deck.trans (congrArg some ?_)
  exact (sum model.objectives 0).trans (zero_add _)

end Mps

end Dispatch
