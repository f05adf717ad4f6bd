import Dispatch.Proofs.Mps.Document
import Dispatch.Proofs.Table

namespace Dispatch

open Mps

/-! References that resolve. A reference is good in a store when it names the store's block and
one of its slots; slots are only ever added, so a good reference stays good. -/

variable {K : Type}

namespace Store

def Has (store : Store K) (var : VarRef) : Prop :=
  var.block = store.block ∧ var.slot < store.size

/-- The slots of a `rows × cols` grid are all there. -/
structure Lays (store : Store K) (grid : Grid) (rows cols : Nat) : Prop where
  height : grid.rows = rows
  width : grid.cols = cols
  room : grid.first + rows * cols ≤ store.size

structure Extends (before after : Store K) : Prop where
  block : after.block = before.block
  size : before.size ≤ after.size

theorem Extends.refl (store : Store K) : Extends store store := ⟨rfl, Nat.le_refl _⟩

theorem Extends.trans {first second third : Store K} (early : Extends first second)
    (late : Extends second third) : Extends first third :=
  ⟨late.block.trans early.block, Nat.le_trans early.size late.size⟩

variable {store before after : Store K} {grid : Grid} {rows cols row col : Nat} {var : VarRef}

theorem Has.extend (has : before.Has var) (grows : Extends before after) : after.Has var :=
  ⟨has.1.trans grows.block.symm, Nat.lt_of_lt_of_le has.2 grows.size⟩

theorem Lays.extend (lays : before.Lays grid rows cols) (grows : Extends before after) :
    after.Lays grid rows cols :=
  ⟨lays.height, lays.width, Nat.le_trans lays.room grows.size⟩

theorem Lays.cell (lays : store.Lays grid rows cols) (row_lt : row < rows)
    (col_lt : col < cols) : store.Has (store.cell grid row col) := by
  refine ⟨rfl, Nat.lt_of_lt_of_le ?_ lays.room⟩
  change grid.first + row * grid.cols + col < grid.first + rows * cols
  rw [lays.width, Nat.add_assoc]
  exact Nat.add_lt_add_left (Family.index_lt row_lt col_lt) _

/-- An empty grid is never looked into. -/
def LaysOrEmpty (store : Store K) (grid : Grid) (rows cols : Nat) : Prop :=
  grid.isEmpty = true ∨ store.Lays grid rows cols

theorem LaysOrEmpty.extend (lays : before.LaysOrEmpty grid rows cols)
    (grows : Extends before after) : after.LaysOrEmpty grid rows cols :=
  lays.imp id fun lays => lays.extend grows

theorem LaysOrEmpty.cell? (lays : store.LaysOrEmpty grid rows cols) (row_lt : row < rows)
    (col_lt : col < cols) (found : store.cell? grid row col = some var) : store.Has var := by
  unfold Store.cell? at found
  split at found
  · cases found
  · rename_i present
    cases found
    exact (lays.resolve_left present).cell row_lt col_lt

theorem size_extend (store : Store K) (rows cols : Nat) (proto : Variable K) :
    (store.extend rows cols proto).size = store.size + rows * cols := by
  simp [extend, size]

theorem extends_extend (store : Store K) (rows cols : Nat) (proto : Variable K) :
    Extends store (store.extend rows cols proto) :=
  ⟨rfl, by rw [size_extend]; exact Nat.le_add_right _ _⟩

theorem lays_nextGrid (store : Store K) (rows cols : Nat) (proto : Variable K) :
    (store.extend rows cols proto).Lays (store.nextGrid rows cols) rows cols :=
  ⟨rfl, rfl, by rw [size_extend]; exact Nat.le_refl _⟩

/-- Editing a variable in its slot. -/
def edit (store : Store K) (slot : Nat) (change : Variable K → Variable K) : Store K :=
  { store with vars := store.vars.modify slot change }

theorem extends_edit (store : Store K) (slot : Nat) (change : Variable K → Variable K) :
    Extends store (store.edit slot change) :=
  ⟨rfl, by simp [edit, size]⟩

/-- What a store offers: a variable is edited in its slot, or a grid is added. -/
inductive Offers : (Store K → Store K) → Prop
  | edit (slot : Nat) (change : Variable K → Variable K) :
      Offers fun store => store.edit slot change
  | addGrid (rows cols : Nat) (proto : Variable K) :
      Offers fun store => (store.addGrid rows cols proto).1

theorem Offers.extends {change : Store K → Store K} (offers : Offers change) (store : Store K) :
    Extends store (change store) := by
  cases offers with
  | edit slot change => exact extends_edit store slot change
  | addGrid rows cols proto => exact extends_extend store rows cols proto

theorem keys_entries (store : Store K) :
    store.entries.map Prod.fst = (List.range store.size).map store.ref := by
  refine List.ext_getElem (by simp [entries, size]) fun slot _ _ => ?_
  simp [entries]

theorem mem_keys : var ∈ store.entries.map Prod.fst ↔ store.Has var := by
  rw [keys_entries, List.mem_map]
  constructor
  · rintro ⟨slot, member, rfl⟩
    exact ⟨rfl, List.mem_range.mp member⟩
  · rintro ⟨block, slot_lt⟩
    refine ⟨var.slot, List.mem_range.mpr slot_lt, ?_⟩
    rw [ref, ← block]

theorem nodup_keys (store : Store K) : (store.entries.map Prod.fst).Nodup := by
  rw [keys_entries]
  exact List.nodup_range.map fun _ _ same => congrArg VarRef.slot same

theorem lookup?_of_mem {entry : VarRef × Variable K} (member : entry ∈ store.entries) :
    store.lookup? entry.1 = some entry.2 := by
  obtain ⟨slot, slot_lt, rfl⟩ := List.mem_mapIdx.mp member
  rw [lookup?]
  exact (if_pos rfl).trans (List.getElem?_eq_getElem slot_lt)

end Store

/-- Whatever the objectives and constraints of a model refer to is known. -/
structure Model.RefersTo (model : Model K) (known : VarRef → Prop) : Prop where
  objectives : ∀ objective ∈ model.objectives, ∀ term ∈ objective.function.terms, known term.1
  constraints : ∀ entry ∈ model.constraints, ∀ var ∈ mentions entry.constraint, known var

/-- The traversals of a block visit every variable once, its lookup finds just these, and its
objectives and constraints refer to no other. -/
structure Model.Closed (model : Model K) : Prop where
  distinct : (model.vars.map Prod.fst).Nodup
  found : ∀ entry ∈ model.vars, model.lookup? entry.1 = some entry.2
  refers : model.RefersTo fun var => var ∈ model.vars.map Prod.fst

namespace LinearFunction

variable {lookup? : VarRef → Option (Variable K)}

theorem valueOf_ok {var : VarRef} {decision : Variable K}
    (found : lookup? var = some decision) : valueOf lookup? var = .ok decision.value := by
  rw [valueOf, found]

theorem addTerms_ok [Scalar K] {terms : List (VarRef × K)}
    (known : ∀ term ∈ terms, ∃ decision, lookup? term.1 = some decision) (total : K) :
    ∃ value, addTerms lookup? terms total = .ok value := by
  induction terms generalizing total with
  | nil => exact ⟨total, rfl⟩
  | cons term rest induction =>
      obtain ⟨decision, found⟩ := known term List.mem_cons_self
      rw [addTerms, valueOf_ok found]
      exact induction (fun later member => known later (List.mem_cons_of_mem _ member)) _

end LinearFunction

namespace Model

variable [Scalar K] {model : Model K}

/-- No question about the values of a block and no export of it meets an unknown variable, and
none has another cause to fail. -/
structure Answers (model : Model K) : Prop where
  evaluates : ∀ objective ∈ model.objectives,
    ∃ value, objective.function.evaluate model.lookup? = .ok value
  levels : ∀ entry ∈ model.constraints, ∃ value, entry.constraint.level model.lookup? = .ok value
  objectiveValue : ∃ value, model.objectiveValue = .ok value
  isFeasible : ∀ explicit, ∃ answer, model.isFeasible explicit = .ok answer
  mps : ∀ name, ∃ document, Mps.ofModel model name = .ok document

namespace Closed

omit [Scalar K] in
theorem resolves (closed : model.Closed) {var : VarRef}
    (listed : var ∈ model.vars.map Prod.fst) : ∃ decision, model.lookup? var = some decision := by
  obtain ⟨entry, member, rfl⟩ := List.mem_map.mp listed
  exact ⟨entry.2, closed.found entry member⟩

theorem evaluates (closed : model.Closed) {objective : Objective K}
    (member : objective ∈ model.objectives) :
    ∃ value, objective.function.evaluate model.lookup? = .ok value :=
  LinearFunction.addTerms_ok (fun term inside =>
    closed.resolves (closed.refers.objectives objective member term inside)) _

theorem level (closed : model.Closed) {entry : Entry K} (member : entry ∈ model.constraints) :
    ∃ value, entry.constraint.level model.lookup? = .ok value := by
  have known := closed.refers.constraints entry member
  cases shape : entry.constraint with
  | row row =>
      rw [shape] at known
      exact LinearFunction.addTerms_ok (fun term inside =>
        closed.resolves (known term.1 (List.mem_map_of_mem inside))) _
  | box box =>
      rw [shape] at known
      obtain ⟨decision, found⟩ := closed.resolves (known box.var (List.mem_singleton.mpr rfl))
      exact ⟨_, LinearFunction.valueOf_ok found⟩

theorem addObjectives_ok {lookup? : VarRef → Option (Variable K)} {objectives : List (Objective K)}
    (evaluates : ∀ objective ∈ objectives, ∃ value,
      objective.function.evaluate lookup? = .ok value) (total : K) :
    ∃ value, addObjectives lookup? objectives total = .ok value := by
  induction objectives generalizing total with
  | nil => exact ⟨total, rfl⟩
  | cons objective rest induction =>
      obtain ⟨value, evaluated⟩ := evaluates objective List.mem_cons_self
      rw [addObjectives, evaluated]
      exact induction (fun later member => evaluates later (List.mem_cons_of_mem _ member)) _

theorem satisfied_ok {lookup? : VarRef → Option (Variable K)} {entries : List (Entry K)}
    (levels : ∀ entry ∈ entries, ∃ value, entry.constraint.level lookup? = .ok value)
    (tolerance : Tolerance K) :
    ∃ answer, satisfied lookup? tolerance entries = .ok answer := by
  induction entries with
  | nil => exact ⟨true, rfl⟩
  | cons entry rest induction =>
      obtain ⟨value, level⟩ := levels entry List.mem_cons_self
      rw [satisfied, Constraint.violation, level]
      simp only [Except.map]
      split
      · exact induction fun later member => levels later (List.mem_cons_of_mem _ member)
      · exact ⟨false, rfl⟩

theorem answers (closed : model.Closed) : model.Answers where
  evaluates _ member := closed.evaluates member
  levels _ member := closed.level member
  objectiveValue := addObjectives_ok (fun _ member => closed.evaluates member) 0
  isFeasible explicit := by
    unfold Model.isFeasible
    dsimp only
    split
    · exact satisfied_ok (fun _ member => closed.level member) _
    · exact ⟨false, rfl⟩
  mps name := ⟨_, ofModel_eq_ok name closed.refers.objectives closed.refers.constraints⟩

end Closed

omit [Scalar K] in
/-- A block that has a store of its own is closed once its rows are good in the store. -/
theorem closed_of_store {store : Store K} (vars : model.vars = store.entries)
    (lookup? : model.lookup? = store.lookup?) (refers : model.RefersTo store.Has) :
    model.Closed where
  distinct := by
    rw [vars]
    exact store.nodup_keys
  found entry member := by
    rw [vars] at member
    rw [lookup?]
    exact Store.lookup?_of_mem member
  refers := by
    rw [vars]
    exact ⟨fun objective member term inside =>
      Store.mem_keys.mpr (refers.objectives objective member term inside),
      fun entry member var inside =>
        Store.mem_keys.mpr (refers.constraints entry member var inside)⟩

end Model

namespace Family

variable {α : Type} [IsConstraint α K] {known other : VarRef → Prop} {family : Family α}

def RefersTo (family : Family α) (known : VarRef → Prop) : Prop :=
  ∀ item ∈ family.items, ∀ var ∈ mentions (IsConstraint.toConstraint item), known var

theorem refersTo_empty (name : String) (cols : Nat) :
    (Family.empty name cols : Family α).RefersTo known := nofun

theorem RefersTo.imp (refers : family.RefersTo known) (sub : ∀ var, known var → other var) :
    family.RefersTo other :=
  fun item member var inside => sub var (refers item member var inside)

theorem RefersTo.entries (refers : family.RefersTo known) :
    ∀ entry ∈ family.entries, ∀ var ∈ mentions entry.constraint, known var := by
  intro entry member
  obtain ⟨index, index_lt, rfl⟩ := List.mem_mapIdx.mp member
  exact refers _ (List.getElem_mem index_lt)

theorem refersTo_tabulate (name : String) (rows cols : Nat) {item : Nat → Nat → α}
    (refers : ∀ row < rows, ∀ col < cols,
      ∀ var ∈ mentions (IsConstraint.toConstraint (item row col)), known var) :
    (Family.tabulate name rows cols item).RefersTo known := by
  intro _ member
  obtain ⟨row, row_lt, col, col_lt, rfl⟩ := mem_table.mp member
  exact refers row row_lt col col_lt

/-- Other bounds are no other variables. -/
theorem RefersTo.modify (refers : family.RefersTo known) (row col : Nat) {change : α → α}
    (same : ∀ item, mentions (IsConstraint.toConstraint (change item)) =
      mentions (IsConstraint.toConstraint item)) :
    (family.modify row col change).RefersTo known := by
  unfold Family.modify
  split
  · intro item member
    obtain ⟨place, found⟩ := List.mem_iff_getElem?.mp member
    rw [List.getElem?_modify] at found
    obtain ⟨before, there, changed⟩ := Option.map_eq_some_iff.mp found
    have listed := List.mem_of_getElem? there
    split at changed
    · rw [← changed, same]
      exact refers before listed
    · rw [← changed]
      exact refers before listed
  · exact refers

end Family

end Dispatch
