import Dispatch.Network.Basic
import Mathlib.Data.List.Basic

namespace Dispatch

/-! Generation asks little of its numbers and nothing of block identities. What carries
both along the operations it uses carries everything that is generated. -/

structure Transport (K L : Type) [Scalar K] [Scalar L] where
  number : K → L
  block : BlockId → BlockId
  number_zero : number 0 = 0
  number_one : number 1 = 1
  number_infinity : number Scalar.infinity = Scalar.infinity
  number_neg : ∀ value, number (-value) = -number value
  number_add : ∀ left right, number (left + right) = number left + number right
  number_sub : ∀ left right, number (left - right) = number left - number right
  number_mul : ∀ left right, number (left * right) = number left * number right
  number_beq : ∀ left right, (number left == number right) = (left == right)

namespace Transport

variable {K L : Type} [Scalar K] [Scalar L]

attribute [simp] number_zero number_one number_infinity number_neg number_add number_sub
  number_mul number_beq

/-- New identities over the same numbers. -/
def renumbering (block : BlockId → BlockId) : Transport K K where
  number := id
  block := block
  number_zero := rfl
  number_one := rfl
  number_infinity := rfl
  number_neg _ := rfl
  number_add _ _ := rfl
  number_sub _ _ := rfl
  number_mul _ _ := rfl
  number_beq _ _ := rfl

variable (transport : Transport K L)

def var (var : VarRef) : VarRef :=
  ⟨transport.block var.block, var.slot⟩

def term (term : VarRef × K) : VarRef × L :=
  (transport.var term.1, transport.number term.2)

@[simp] theorem term_mk (var : VarRef) (coefficient : K) :
    transport.term (var, coefficient) = (transport.var var, transport.number coefficient) :=
  rfl

@[simp] theorem beq_zero (value : K) : (transport.number value == 0) = (value == 0) := by
  rw [← transport.number_zero, transport.number_beq]

@[simp] theorem bne_zero (value : K) : (transport.number value != 0) = (value != 0) := by
  simp [bne]

@[simp] theorem beq_one (value : K) : (transport.number value == 1) = (value == 1) := by
  rw [← transport.number_one, transport.number_beq]

@[simp] theorem bne_one (value : K) : (transport.number value != 1) = (value != 1) := by
  simp [bne]

@[simp] theorem getD_zero (values : List K) (index : Nat) :
    (values.map transport.number).getD index 0 = transport.number (values.getD index 0) := by
  rw [← transport.number_zero, List.getD_eq_getElem?_getD, List.getElem?_map,
    Option.getD_map, List.getD_eq_getElem?_getD]

@[simp] theorem getD_one (values : List K) (index : Nat) :
    (values.map transport.number).getD index 1 = transport.number (values.getD index 1) := by
  rw [← transport.number_one, List.getD_eq_getElem?_getD, List.getElem?_map,
    Option.getD_map, List.getD_eq_getElem?_getD]

theorem foldl_number {α : Type} {before : K → α → K} {after : L → α → L}
    (agree : ∀ total item, after (transport.number total) item =
      transport.number (before total item)) (items : List α) (start : K) :
    items.foldl after (transport.number start) =
      transport.number (items.foldl before start) := by
  induction items generalizing start with
  | nil => rfl
  | cons item rest induction => rw [List.foldl_cons, List.foldl_cons, agree, induction]

@[simp] theorem sum_map (values : List K) :
    Scalar.sum (values.map transport.number) = transport.number (Scalar.sum values) := by
  unfold Scalar.sum
  rw [List.foldl_map, ← transport.number_zero, ← transport.number_neg]
  exact transport.foldl_number (fun total value => (transport.number_add total value).symm) _ _

@[simp] theorem sumOfProducts_map (left right : List K) :
    Scalar.sumOfProducts (left.map transport.number) (right.map transport.number) =
      transport.number (Scalar.sumOfProducts left right) := by
  unfold Scalar.sumOfProducts
  rw [List.zip_map, List.foldl_map, ← transport.number_zero]
  exact transport.foldl_number (fun total pair => by simp) _ _

@[simp] theorem same_map (left right : List K) :
    Scalar.same (left.map transport.number) (right.map transport.number) =
      Scalar.same left right := by
  simp [Scalar.same, List.zip_map, List.all_map, Function.comp_def]

end Transport

variable {K L : Type} [Scalar K] [Scalar L]

def LinearFunction.map (function : LinearFunction K) (transport : Transport K L) :
    LinearFunction L :=
  ⟨function.terms.map transport.term, transport.number function.constant⟩

def Objective.map (objective : Objective K) (transport : Transport K L) : Objective L :=
  ⟨objective.function.map transport, objective.sense⟩

def Row.map (row : Row K) (transport : Transport K L) : Row L :=
  ⟨row.function.map transport, transport.number row.lhs, transport.number row.rhs⟩

def Box.map (box : Box K) (transport : Transport K L) : Box L :=
  ⟨transport.var box.var, transport.number box.lhs, transport.number box.rhs⟩

def Family.map {α β : Type} (family : Family α) (change : α → β) : Family β :=
  ⟨family.name, family.cols, family.items.map change⟩

def Variable.map (decision : Variable K) (transport : Transport K L) : Variable L :=
  ⟨decision.kind, transport.number decision.lower, transport.number decision.upper,
    transport.number decision.value⟩

def Settings.map (settings : Settings K) (transport : Transport K L) : Settings L :=
  ⟨settings.feasibility.map fun tolerance =>
    ⟨transport.number tolerance.amount, tolerance.relative⟩⟩

def Store.map (store : Store K) (transport : Transport K L) : Store L :=
  ⟨transport.block store.block, store.vars.map fun decision => decision.map transport⟩

@[simp] theorem LinearFunction.map_ofTerms (terms : List (VarRef × K))
    (transport : Transport K L) :
    (LinearFunction.ofTerms terms).map transport = .ofTerms (terms.map transport.term) := by
  simp [LinearFunction.map, LinearFunction.ofTerms]

@[simp] theorem Row.map_equality (function : LinearFunction K) (value : K)
    (transport : Transport K L) :
    (Row.equality function value).map transport =
      .equality (function.map transport) (transport.number value) := rfl

@[simp] theorem Family.map_empty {α β : Type} (name : String) (cols : Nat)
    (change : α → β) : (Family.empty name cols).map change = Family.empty name cols := rfl

theorem Family.tabulate_eq_map {α β : Type} {name : String} {rows cols : Nat}
    {before : Nat → Nat → α} {after : Nat → Nat → β} {change : α → β}
    (agree : ∀ row col, after row col = change (before row col)) :
    Family.tabulate name rows cols after =
      (Family.tabulate name rows cols before).map change := by
  have items : after = fun row col => change (before row col) :=
    funext fun row => funext fun col => agree row col
  subst items
  simp [Family.map, Family.tabulate, Family.table, List.map_flatMap, Function.comp_def]

@[simp] theorem Variable.map_continuous (transport : Transport K L) :
    (Variable.continuous : Variable K).map transport = Variable.continuous := by
  simp [Variable.map, Variable.continuous]

@[simp] theorem Variable.map_nonNegative (transport : Transport K L) :
    (Variable.nonNegative : Variable K).map transport = Variable.nonNegative := by
  simp [Variable.map, Variable.nonNegative, Variable.continuous]

@[simp] theorem Variable.map_binary (transport : Transport K L) :
    (Variable.binary : Variable K).map transport = Variable.binary := by
  simp [Variable.map, Variable.binary]

namespace Store

variable (store : Store K) (transport : Transport K L)

@[simp] theorem size_map : (store.map transport).size = store.size := by
  simp [Store.size, Store.map]

@[simp] theorem map_empty (block : BlockId) :
    (Store.empty block : Store K).map transport = Store.empty (transport.block block) := rfl

@[simp] theorem cell_map (grid : Grid) (row col : Nat) :
    (store.map transport).cell grid row col = transport.var (store.cell grid row col) := rfl

@[simp] theorem cell?_map (grid : Grid) (row col : Nat) :
    (store.map transport).cell? grid row col =
      (store.cell? grid row col).map transport.var := by
  unfold Store.cell?
  split <;> rfl

theorem addGrid_map (rows cols : Nat) (proto : Variable K) :
    (store.map transport).addGrid rows cols (proto.map transport) =
      ((store.addGrid rows cols proto).1.map transport, (store.addGrid rows cols proto).2) := by
  simp [Store.addGrid, Store.extend, Store.nextGrid, Store.map, Store.size]

end Store

end Dispatch
