import Dispatch.Constraint
import Dispatch.Proofs.Number.Exact
import Mathlib.Data.List.Nodup

namespace Dispatch

/-! Linear functions where every variable has a number, and sums of numbers over places. -/

namespace Exact

theorem scalarSum_eq (values : List Exact) : Scalar.sum values = values.sum := by
  have start : (-0 : Exact) = 0 := by simp [zero_def]
  rw [Scalar.sum, start, List.sum_eq_foldl]

theorem eq_number_of_isNumber {value : Exact} (isNumber : value.isNumber = true) :
    ∃ number, value = .number number := by
  cases value with
  | number value => exact ⟨value, rfl⟩
  | infinite isNegative => cases isNumber
  | undefined => cases isNumber

theorem isNumber_sum {values : List Exact} (numbers : ∀ value ∈ values, value.isNumber = true) :
    values.sum.isNumber = true := by
  induction values with
  | nil => rfl
  | cons value rest induction =>
      obtain ⟨here, later⟩ := List.forall_mem_cons.mp numbers
      obtain ⟨first, rfl⟩ := eq_number_of_isNumber here
      obtain ⟨others, sum⟩ := eq_number_of_isNumber (induction later)
      rw [List.sum_cons, sum]
      rfl

theorem sum_map_number {α : Type} (items : List α) (value : α → ℚ) :
    (items.map fun item => number (value item)).sum = number (items.map value).sum := by
  induction items with
  | nil => rfl
  | cons item rest induction =>
      rw [List.map_cons, List.map_cons, List.sum_cons, List.sum_cons, induction, number_add_number]

/-- A number that was taken away may be given back, whatever it was taken from. -/
theorem sub_add_cancel_number (value : Exact) (amount : ℚ) :
    value - number amount + number amount = value := by
  cases value <;> simp [sub_def]

theorem eq_number_of_neg_add {value : Exact} {amount : ℚ} (zero : number (-amount) + value = 0) :
    value = number amount := by
  cases value with
  | number value =>
      have cancels : -amount + value = 0 := number.inj zero
      rw [neg_add_eq_zero.mp cancels]
  | infinite isNegative => cases zero
  | undefined => cases zero

theorem neg_sum_map {α : Type} (items : List α) (value : α → Exact) :
    (items.map fun item => -value item).sum = -(items.map value).sum := by
  have neg_add (first second : Exact) : -(first + second) = -first + -second := by
    rcases first with _ | (_ | _) | _ <;> rcases second with _ | (_ | _) | _ <;>
      simp [add_comm]
  induction items with
  | nil => simp [zero_def]
  | cons item rest induction =>
      rw [List.map_cons, List.map_cons, List.sum_cons, List.sum_cons, induction, neg_add]

end Exact

variable {α β M : Type}

theorem sum_map_flatMap [AddMonoid M] (items : List α) (inner : α → List β) (value : β → M) :
    ((items.flatMap inner).map value).sum =
      (items.map fun item => ((inner item).map value).sum).sum := by
  induction items with
  | nil => rfl
  | cons item rest induction =>
      rw [List.flatMap_cons, List.map_append, List.sum_append, induction, List.map_cons,
        List.sum_cons]

theorem sum_map_filter [AddCommMonoid M] (items : List α) (chosen : α → Bool) (value : α → M) :
    ((items.filter chosen).map value).sum =
      (items.map fun item => if chosen item then value item else 0).sum := by
  induction items with
  | nil => rfl
  | cons item rest induction => cases here : chosen item <;> simp [here, induction]

/-- Every item counts at the one place where it is. -/
theorem sum_at_places [AddCommMonoid M] {items : List α} {place : α → Nat} {count : Nat}
    (within : ∀ item ∈ items, place item < count) (value : α → M) :
    ((List.range count).map fun here =>
      (items.map fun item => if place item = here then value item else 0).sum).sum =
      (items.map value).sum := by
  induction items with
  | nil => simp
  | cons item rest induction =>
      obtain ⟨inside, others⟩ := List.forall_mem_cons.mp within
      have once : ((List.range count).map fun here =>
          if place item = here then value item else 0).sum = value item := by
        rw [List.sum_map_eq_nsmul_single (place item) _ fun _ apart _ => if_neg (Ne.symm apart),
          List.count_eq_one_of_mem List.nodup_range (List.mem_range.mpr inside), one_nsmul,
          if_pos rfl]
      simp only [List.map_cons, List.sum_cons]
      rw [List.sum_map_add, once, induction others]

/-- What the terms come to where the variables have these values. -/
def weigh (values : VarRef → ℚ) (terms : List (VarRef × Exact)) : Exact :=
  (terms.map fun term => term.2 * .number (values term.1)).sum

variable (values : VarRef → ℚ)

@[simp] theorem weigh_nil : weigh values [] = 0 := rfl

@[simp] theorem weigh_cons (term : VarRef × Exact) (rest : List (VarRef × Exact)) :
    weigh values (term :: rest) = term.2 * .number (values term.1) + weigh values rest := by
  rw [weigh, List.map_cons, List.sum_cons]
  rfl

@[simp] theorem weigh_append (first second : List (VarRef × Exact)) :
    weigh values (first ++ second) = weigh values first + weigh values second := by
  rw [weigh, List.map_append, List.sum_append]
  rfl

theorem weigh_flatMap (items : List α) (terms : α → List (VarRef × Exact)) :
    weigh values (items.flatMap terms) = (items.map fun item => weigh values (terms item)).sum :=
  sum_map_flatMap items terms _

theorem weigh_ite (chosen : Prop) [Decidable chosen] (terms : List (VarRef × Exact)) :
    weigh values (if chosen then terms else []) = if chosen then weigh values terms else 0 := by
  split <;> rfl

namespace LinearFunction

variable {values}

theorem addTerms_of_valueOf {lookup? : VarRef → Option (Variable Exact)}
    {terms : List (VarRef × Exact)}
    (known : ∀ term ∈ terms, valueOf lookup? term.1 = .ok (.number (values term.1)))
    (total : Exact) : addTerms lookup? terms total = .ok (total + weigh values terms) := by
  induction terms generalizing total with
  | nil => exact congrArg Except.ok (add_zero total).symm
  | cons term rest induction =>
      obtain ⟨here, later⟩ := List.forall_mem_cons.mp known
      rw [addTerms, here]
      dsimp only
      rw [induction later, weigh_cons, add_assoc]

end LinearFunction

/-- A lookup that gives every variable its value. -/
def assigned (var : VarRef) : Option (Variable Exact) :=
  some { Variable.continuous with value := .number (values var) }

theorem evaluate_assigned (function : LinearFunction Exact) :
    function.evaluate (assigned values) = .ok (function.constant + weigh values function.terms) :=
  LinearFunction.addTerms_of_valueOf (fun _ _ => rfl) function.constant

/-- The row is an equality, and the values meet it without any tolerance. -/
structure Row.Met (row : Row Exact) : Prop where
  lhs : row.function.evaluate (assigned values) = .ok row.lhs
  rhs : row.function.evaluate (assigned values) = .ok row.rhs

variable {values}

theorem Row.met_iff {row : Row Exact} : row.Met values ↔
    row.function.constant + weigh values row.function.terms = row.lhs ∧
      row.function.constant + weigh values row.function.terms = row.rhs := by
  constructor
  · rintro ⟨lhs, rhs⟩
    rw [evaluate_assigned] at lhs rhs
    exact ⟨Except.ok.inj lhs, Except.ok.inj rhs⟩
  · rintro ⟨lhs, rhs⟩
    constructor
    · rw [evaluate_assigned, lhs]
    · rw [evaluate_assigned, rhs]

instance (row : Row Exact) : Decidable (row.Met values) :=
  decidable_of_iff _ Row.met_iff.symm

theorem Row.Met.weigh_eq {terms : List (VarRef × Exact)} {level upper : Exact}
    (met : (⟨.ofTerms terms, level, upper⟩ : Row Exact).Met values) :
    weigh values terms = level :=
  (zero_add _).symm.trans (Row.met_iff.mp met).1

end Dispatch
