import Dispatch.Constraint
import Mathlib.Data.List.Basic

namespace Dispatch.Family

/-! Families that tabulate a function of row and column. A change made through row and
column numbers is a change of the function. -/

variable {α ι : Type}

theorem table_zero (cols : Nat) (item : Nat → Nat → α) : table 0 cols item = [] := rfl

theorem table_succ (rows cols : Nat) (item : Nat → Nat → α) :
    table (rows + 1) cols item =
      table rows cols item ++ (List.range cols).map (item rows) := by
  simp [table, List.range_succ]

@[simp] theorem length_table (rows cols : Nat) (item : Nat → Nat → α) :
    (table rows cols item).length = rows * cols := by
  induction rows with
  | zero => simp [table_zero]
  | succ rows induction => simp [table_succ, induction, Nat.succ_mul]

theorem index_lt {rows cols row col : Nat} (row_lt : row < rows) (col_lt : col < cols) :
    row * cols + col < rows * cols := by
  calc
    row * cols + col < row * cols + cols := by omega
    _ = (row + 1) * cols := (Nat.succ_mul row cols).symm
    _ ≤ rows * cols := Nat.mul_le_mul_right cols row_lt

theorem index_div {cols col : Nat} (row : Nat) (col_lt : col < cols) :
    (row * cols + col) / cols = row := by
  rw [Nat.mul_comm, Nat.mul_add_div (by omega), Nat.div_eq_of_lt col_lt, Nat.add_zero]

theorem index_mod {cols col : Nat} (row : Nat) (col_lt : col < cols) :
    (row * cols + col) % cols = col := by
  rw [Nat.mul_comm, Nat.mul_add_mod, Nat.mod_eq_of_lt col_lt]

/-- A place in the table tells its row and its column. -/
theorem index_inj {cols row row' col col' : Nat} (col_lt : col < cols) (col_lt' : col' < cols)
    (same : row * cols + col = row' * cols + col') : row = row' ∧ col = col' := by
  constructor
  · rw [← index_div row col_lt, same, index_div row' col_lt']
  · rw [← index_mod row col_lt, same, index_mod row' col_lt']

theorem getElem?_table (rows cols : Nat) (item : Nat → Nat → α) (index : Nat) :
    (table rows cols item)[index]? =
      if index < rows * cols then some (item (index / cols) (index % cols))
      else none := by
  induction rows with
  | zero => simp [table_zero]
  | succ rows induction =>
      rw [table_succ, List.getElem?_append, length_table, induction, Nat.succ_mul]
      by_cases before : index < rows * cols
      · simp [before, Nat.lt_add_right]
      · rw [if_neg before]
        by_cases within : index < rows * cols + cols
        · obtain ⟨col, rfl⟩ := Nat.exists_eq_add_of_le (Nat.le_of_not_lt before)
          have col_lt : col < cols := by omega
          simp [within, col_lt, index_div rows col_lt, index_mod rows col_lt]
        · rw [if_neg within]
          simp only [List.getElem?_eq_none_iff, List.length_map, List.length_range]
          omega

theorem mem_table {rows cols : Nat} {item : Nat → Nat → α} {entry : α} :
    entry ∈ table rows cols item ↔ ∃ row < rows, ∃ col < cols, item row col = entry := by
  simp [table]

/-- An entry that names its place stands there and nowhere else. -/
theorem getElem?_table_iff {rows cols : Nat} {item : Nat → Nat → α} (place : α → Nat × Nat)
    (placed : ∀ row col, place (item row col) = (row, col)) {index : Nat} {entry : α} :
    (table rows cols item)[index]? = some entry ↔
      entry ∈ table rows cols item ∧ (place entry).1 * cols + (place entry).2 = index := by
  have sound {index : Nat} (found : (table rows cols item)[index]? = some entry) :
      (place entry).1 * cols + (place entry).2 = index := by
    rw [getElem?_table] at found
    split at found
    · cases found
      rw [placed]
      exact Nat.div_add_mod' index cols
    · cases found
  constructor
  · intro found
    exact ⟨List.mem_of_getElem? found, sound found⟩
  · rintro ⟨member, equality⟩
    obtain ⟨other, found⟩ := List.mem_iff_getElem?.mp member
    rw [← equality, sound found, found]

theorem table_congr {rows cols : Nat} {first second : Nat → Nat → α}
    (agree : ∀ row < rows, ∀ col < cols, first row col = second row col) :
    table rows cols first = table rows cols second := by
  unfold table
  refine List.flatMap_congr fun row row_mem => List.map_congr_left fun col col_mem => ?_
  exact agree row (List.mem_range.mp row_mem) col (List.mem_range.mp col_mem)

theorem tabulate_congr {name : String} {rows cols : Nat} {first second : Nat → Nat → α}
    (agree : ∀ row < rows, ∀ col < cols, first row col = second row col) :
    tabulate name rows cols first = tabulate name rows cols second := by
  unfold tabulate
  rw [table_congr agree]

/-- A place outside the family changes no entry, so neither side needs a bound. -/
theorem modify_tabulate (name : String) (rows cols : Nat) (item : Nat → Nat → α)
    (row col : Nat) (change : α → α) :
    (tabulate name rows cols item).modify row col change =
      tabulate name rows cols fun r c =>
        if (r, c) = (row, col) then change (item r c) else item r c := by
  unfold modify tabulate
  by_cases col_lt : col < cols
  · simp only [col_lt, if_true]
    congr 1
    apply List.ext_getElem?
    intro index
    rw [List.getElem?_modify, getElem?_table, getElem?_table]
    by_cases within : index < rows * cols
    · simp only [within, if_true, Option.map_eq_map, Option.map_some]
      have iff_place : row * cols + col = index ↔ (index / cols, index % cols) = (row, col) := by
        constructor
        · rintro rfl
          rw [index_div row col_lt, index_mod row col_lt]
        · intro place
          cases place
          rw [Nat.mul_comm]
          exact Nat.div_add_mod index cols
      by_cases hit : row * cols + col = index
      · simp [hit, iff_place.mp hit]
      · simp [hit, mt iff_place.mpr hit]
    · simp [within]
  · simp only [col_lt, if_false]
    congr 1
    apply table_congr
    intro r _ c c_lt
    have miss : (r, c) ≠ (row, col) := by
      intro equality
      cases equality
      exact col_lt c_lt
    rw [if_neg miss]

theorem mapIdx_table {β : Type} (change : Nat → α → β) (rows cols : Nat)
    (item : Nat → Nat → α) :
    (table rows cols item).mapIdx change =
      table rows cols fun row col => change (row * cols + col) (item row col) := by
  apply List.ext_getElem?
  intro index
  rw [List.getElem?_mapIdx, getElem?_table, getElem?_table]
  by_cases within : index < rows * cols
  · simp only [within, if_true, Option.map_some, Nat.div_add_mod']
  · simp [within]

/-- Writing over places of a tabulated family, each with a value of its own. Writing twice
over one place is writing once. -/
theorem foldl_modify_tabulate (name : String) (rows cols : Nat)
    (change : Nat → Nat → α → α)
    (overwrites : ∀ row col entry, change row col (change row col entry) = change row col entry)
    (targets : List ι) (place : ι → Nat × Nat) (item : Nat → Nat → α) :
    targets.foldl
        (fun family target =>
          family.modify (place target).1 (place target).2
            (change (place target).1 (place target).2))
        (tabulate name rows cols item) =
      tabulate name rows cols fun row col =>
        if (row, col) ∈ targets.map place then change row col (item row col)
        else item row col := by
  induction targets generalizing item with
  | nil => simp
  | cons target rest induction =>
      rw [List.foldl_cons, modify_tabulate, induction]
      apply tabulate_congr
      intro row _ col _
      by_cases here : (row, col) = place target
      · simp [← here, overwrites]
      · simp [here]

end Dispatch.Family
