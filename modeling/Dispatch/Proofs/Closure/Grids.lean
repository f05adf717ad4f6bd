import Dispatch.Proofs.Closure.Store
import Mathlib.Data.List.GetD
import Mathlib.Data.Set.Function

namespace Dispatch

/-! Grids that are added to one store tile it: each slot is that of exactly one cell of exactly
one grid. A grid starts where the store ended, so that its slots are apart from all earlier ones
whatever the widths of the grids are, and a grid without rows or columns takes no slot. -/

namespace Grid

variable {grid : Grid} {slot : Nat}

theorem mem_slots : slot ∈ grid.slots ↔ grid.first ≤ slot ∧ slot < grid.first + grid.size :=
  List.mem_range'_1

/-- The slots of a grid are those of its cells, row by row. -/
theorem slots_eq_table (grid : Grid) :
    grid.slots = Family.table grid.rows grid.cols grid.slot := by
  refine List.ext_getElem? fun index => ?_
  rw [slots, Family.getElem?_table, size]
  by_cases within : index < grid.rows * grid.cols
  · rw [if_pos within, List.getElem?_range' within, Nat.one_mul, Grid.slot, Nat.add_assoc,
      Nat.div_add_mod']
  · rw [if_neg within, List.getElem?_eq_none_iff, List.length_range']
    exact Nat.le_of_not_lt within

theorem mem_slots_iff_cell :
    slot ∈ grid.slots ↔ ∃ row < grid.rows, ∃ col < grid.cols, grid.slot row col = slot := by
  rw [slots_eq_table, Family.mem_table]

theorem slot_inj {row row' col col' : Nat} (col_lt : col < grid.cols) (col_lt' : col' < grid.cols)
    (same : grid.slot row col = grid.slot row' col') : row = row' ∧ col = col' := by
  simp only [Grid.slot, Nat.add_assoc] at same
  exact Family.index_inj col_lt col_lt' (Nat.add_left_cancel same)

end Grid

variable {K : Type}

namespace Store

/-- A grid is added to the store, or a variable is edited in its slot. -/
inductive Call (K : Type)
  | addGrid (rows cols : Nat) (proto : Variable K)
  | edit (slot : Nat) (change : Variable K → Variable K)

/-- The rows and columns of the grid that is added. -/
def Call.shape? : Call K → Option (Nat × Nat)
  | .addGrid rows cols _ => some (rows, cols)
  | .edit _ _ => none

/-- Whatever is stored stays as it is. -/
def Keeps (before after : Store K) : Prop :=
  ∀ var decision, before.lookup? var = some decision → after.lookup? var = some decision

theorem keeps_addGrid (store : Store K) (rows cols : Nat) (proto : Variable K) :
    store.Keeps (store.addGrid rows cols proto).1 := by
  intro var decision found
  unfold lookup? at found ⊢
  split at found
  · rename_i home
    have stored : var.slot < store.vars.length := (List.getElem?_eq_some_iff.mp found).1
    rw [← found]
    exact (if_pos home).trans (List.getElem?_append_left stored)
  · cases found

end Store

/-- A store and the grids that were added to it, in their order. -/
structure Tiling (K : Type) where
  store : Store K
  grids : List Grid

namespace Tiling

def empty (block : BlockId) : Tiling K := ⟨.empty block, []⟩

def perform (tiling : Tiling K) : Store.Call K → Tiling K
  | .addGrid rows cols proto =>
      let (store, grid) := tiling.store.addGrid rows cols proto
      ⟨store, tiling.grids ++ [grid]⟩
  | .edit slot change => { tiling with store := tiling.store.edit slot change }

def play (tiling : Tiling K) (calls : List (Store.Call K)) : Tiling K :=
  calls.foldl perform tiling

/-- A row and a column of one of the grids. -/
structure Cell where
  number : Nat
  row : Nat
  col : Nat

/-- The cell lies within the shape of its grid. -/
def Cell.Within (cell : Cell) (shapes : List (Nat × Nat)) : Prop :=
  ∃ shape, shapes[cell.number]? = some shape ∧ cell.row < shape.1 ∧ cell.col < shape.2

def Cell.slot (grids : List Grid) (cell : Cell) : Nat :=
  (grids.getD cell.number Grid.none).slot cell.row cell.col

/-- The grids have the given shapes, and their cells stand for the slots of the store one to
one. -/
structure Partitions (tiling : Tiling K) (shapes : List (Nat × Nat)) : Prop where
  shaped : tiling.grids.map (fun grid => (grid.rows, grid.cols)) = shapes
  cells : Set.BijOn (Cell.slot tiling.grids) {cell | cell.Within shapes}
    (Set.Iio tiling.store.size)

variable {grids : List Grid} {shapes : List (Nat × Nat)} {cell : Cell}

/-- The cell is one of the grid that comes after `number` others. -/
def Cell.IsOf (cell : Cell) (number rows cols : Nat) : Prop :=
  cell.number = number ∧ cell.row < rows ∧ cell.col < cols

theorem Cell.within_append {rows cols : Nat} :
    cell.Within (shapes ++ [(rows, cols)]) ↔
      cell.Within shapes ∨ cell.IsOf shapes.length rows cols := by
  constructor
  · rintro ⟨shape, found, fits⟩
    rcases Nat.lt_or_ge cell.number shapes.length with early | late
    · rw [List.getElem?_append_left early] at found
      exact .inl ⟨shape, found, fits⟩
    · rw [List.getElem?_append_right late, List.getElem?_singleton] at found
      split at found
      · cases found
        exact .inr ⟨by omega, fits⟩
      · cases found
  · rintro (⟨shape, found, fits⟩ | ⟨last, fits⟩)
    · have early := (List.getElem?_eq_some_iff.mp found).1
      exact ⟨shape, (List.getElem?_append_left early).trans found, fits⟩
    · exact ⟨(rows, cols), by rw [last, List.getElem?_concat_length], fits⟩

theorem Cell.slot_append_left (early : cell.number < grids.length) (grid : Grid) :
    cell.slot (grids ++ [grid]) = cell.slot grids := by
  unfold Cell.slot
  rw [List.getD_append _ _ _ _ early]

theorem Cell.slot_append_right (last : cell.number = grids.length) (grid : Grid) :
    cell.slot (grids ++ [grid]) = grid.slot cell.row cell.col := by
  unfold Cell.slot
  rw [last, List.getD_append_right _ _ _ _ (Nat.le_refl _), Nat.sub_self]
  rfl

/-- The cells of a grid, wherever it stands in the list, have its slots. -/
theorem Cell.bijOn_isOf (number : Nat) (grid : Grid) :
    Set.BijOn (fun cell : Cell => grid.slot cell.row cell.col)
      {cell | cell.IsOf number grid.rows grid.cols} {slot | slot ∈ grid.slots} := by
  refine ⟨?_, ?_, ?_⟩
  · intro cell added
    exact Grid.mem_slots_iff_cell.mpr ⟨_, added.2.1, _, added.2.2, rfl⟩
  · intro first one second other same
    obtain ⟨row, col⟩ := Grid.slot_inj one.2.2 other.2.2 same
    cases first
    cases second
    cases one.1.trans other.1.symm
    cases row
    cases col
    rfl
  · intro slot listed
    obtain ⟨row, row_lt, col, col_lt, same⟩ := Grid.mem_slots_iff_cell.mp listed
    exact ⟨⟨number, row, col⟩, ⟨rfl, row_lt, col_lt⟩, same⟩

/-- A grid that starts where the slots of the cells before it end takes the slots that follow. -/
theorem Cell.bijOn_append (grid : Grid) (length : grids.length = shapes.length)
    (cells : Set.BijOn (Cell.slot grids) {cell | cell.Within shapes} (Set.Iio grid.first)) :
    Set.BijOn (Cell.slot (grids ++ [grid]))
      {cell | cell.Within (shapes ++ [(grid.rows, grid.cols)])}
      (Set.Iio (grid.first + grid.size)) := by
  have early : Set.BijOn (Cell.slot (grids ++ [grid])) {cell | cell.Within shapes}
      (Set.Iio grid.first) := by
    refine cells.congr fun cell ⟨shape, found, _⟩ => ?_
    have listed := (List.getElem?_eq_some_iff.mp found).1
    exact (slot_append_left (length.symm ▸ listed) grid).symm
  have late : Set.BijOn (Cell.slot (grids ++ [grid]))
      {cell | cell.IsOf shapes.length grid.rows grid.cols} {slot | slot ∈ grid.slots} := by
    refine (bijOn_isOf shapes.length grid).congr fun cell added => ?_
    exact (slot_append_right (added.1.trans length.symm) grid).symm
  -- Slots of earlier cells are below the place where the grid starts.
  have apart {first second : Cell} (one : first.Within shapes)
      (other : second.IsOf shapes.length grid.rows grid.cols) :
      first.slot (grids ++ [grid]) ≠ second.slot (grids ++ [grid]) :=
    Nat.ne_of_lt (Nat.lt_of_lt_of_le (early.mapsTo one) (Grid.mem_slots.mp (late.mapsTo other)).1)
  have injective : Set.InjOn (Cell.slot (grids ++ [grid]))
      ({cell | cell.Within shapes} ∪ {cell | cell.IsOf shapes.length grid.rows grid.cols}) :=
    (Set.injOn_union (Set.disjoint_left.mpr fun _ one other => apart one other rfl)).mpr
      ⟨early.injOn, late.injOn, fun _ one _ other => apart one other⟩
  have within : {cell : Cell | cell.Within (shapes ++ [(grid.rows, grid.cols)])} =
      {cell | cell.Within shapes} ∪ {cell | cell.IsOf shapes.length grid.rows grid.cols} :=
    Set.ext fun cell => within_append
  have taken : Set.Iio (grid.first + grid.size) =
      Set.Iio grid.first ∪ {slot | slot ∈ grid.slots} := by
    ext slot
    rw [Set.mem_union, Set.mem_Iio, Set.mem_Iio, Set.mem_ofPred_eq, Grid.mem_slots]
    omega
  rw [within, taken]
  exact early.union late injective

variable {tiling : Tiling K}

theorem partitions_empty (block : BlockId) : (empty block : Tiling K).Partitions [] where
  shaped := rfl
  cells := by
    have none : {cell : Cell | cell.Within []} = ∅ := by
      refine Set.eq_empty_iff_forall_notMem.mpr ?_
      rintro cell ⟨shape, found, -⟩
      cases found
    rw [none]
    exact ⟨fun _ => nofun, Set.injOn_empty _,
      fun slot below => absurd below (Nat.not_lt_zero slot)⟩

theorem Partitions.addGrid (partitions : tiling.Partitions shapes) (rows cols : Nat)
    (proto : Variable K) :
    (tiling.perform (.addGrid rows cols proto)).Partitions (shapes ++ [(rows, cols)]) where
  shaped := by
    rw [← partitions.shaped]
    exact List.map_append
  cells := by
    have length : tiling.grids.length = shapes.length := by
      rw [← partitions.shaped, List.length_map]
    change Set.BijOn _ _ (Set.Iio (tiling.store.extend rows cols proto).size)
    rw [Store.size_extend]
    exact Cell.bijOn_append (tiling.store.nextGrid rows cols) length partitions.cells

theorem Partitions.edit (partitions : tiling.Partitions shapes) (slot : Nat)
    (change : Variable K → Variable K) :
    (tiling.perform (.edit slot change)).Partitions shapes where
  shaped := partitions.shaped
  cells := by
    have size : (tiling.store.edit slot change).size = tiling.store.size :=
      List.length_modify ..
    change Set.BijOn _ _ (Set.Iio (tiling.store.edit slot change).size)
    rw [size]
    exact partitions.cells

theorem Partitions.perform (partitions : tiling.Partitions shapes) (call : Store.Call K) :
    (tiling.perform call).Partitions (shapes ++ call.shape?.toList) := by
  cases call with
  | addGrid rows cols proto => exact partitions.addGrid rows cols proto
  | edit slot change =>
      rw [Store.Call.shape?, Option.toList_none, List.append_nil]
      exact partitions.edit slot change

theorem Partitions.play (partitions : tiling.Partitions shapes) (calls : List (Store.Call K)) :
    (tiling.play calls).Partitions (shapes ++ calls.filterMap Store.Call.shape?) := by
  induction calls generalizing tiling shapes with
  | nil => simpa [Tiling.play] using partitions
  | cons call rest induction =>
      have later := induction (partitions.perform call)
      rw [List.append_assoc] at later
      cases call with
      | addGrid rows cols proto => exact later
      | edit slot change => exact later

/-- Grids of any shapes, added to an empty store, tile it, and one more grid would change no
variable. -/
theorem partitions_play (block : BlockId) (calls : List (Store.Call K)) :
    ((empty block).play calls).Partitions (calls.filterMap Store.Call.shape?) ∧
      (∀ grid ∈ ((empty block).play calls).grids,
        grid.slots = Family.table grid.rows grid.cols grid.slot) ∧
      ∀ rows cols proto, ((empty block).play calls).store.Keeps
        (((empty block).play calls).perform (.addGrid rows cols proto)).store :=
  ⟨(partitions_empty block).play calls, fun grid _ => grid.slots_eq_table,
    Store.keeps_addGrid _⟩

/-- A grid without rows takes no slot. -/
example (block : BlockId) (proto : Variable K) :
    ((empty block).play [.addGrid 2 3 proto, .addGrid 0 4 proto, .addGrid 1 2 proto]).grids =
      [⟨0, 2, 3⟩, ⟨6, 0, 4⟩, ⟨6, 1, 2⟩] := rfl

end Tiling

end Dispatch
