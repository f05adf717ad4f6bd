import Dispatch.Scalar
import Mathlib

namespace Dispatch

/-! The order of doubles. Two numbers always compare and what is not a number compares with
nothing, so that only among numbers a comparison that fails says which one holds instead. -/

open Float.Model

namespace Unpacked

variable {left right : UnpackedFloat}

theorem compare_swap (left right : UnpackedFloat) :
    right.compare left = (left.compare right).map Ordering.swap := by
  rcases left with ⟨_ | _⟩ | _ | _ | ⟨⟨_ | _⟩, mantissa, exponent, _⟩ <;>
    rcases right with ⟨_ | _⟩ | _ | _ | ⟨⟨_ | _⟩, mantissa', exponent', _⟩ <;>
    try rfl
  -- two finite values of one sign compare by exponent and mantissa
  all_goals
    simp [UnpackedFloat.compare, Ordering.swap_then, Int.compare_swap, Nat.compare_swap]

theorem compare_eq_none : left.compare right = none ↔ left.isNaN ∨ right.isNaN := by
  rcases left with ⟨_ | _⟩ | _ | _ | ⟨⟨_ | _⟩, _, _, _⟩ <;>
    rcases right with ⟨_ | _⟩ | _ | _ | ⟨⟨_ | _⟩, _, _, _⟩ <;>
    simp [UnpackedFloat.compare, UnpackedFloat.isNaN]

/-- Only zeros have two forms. -/
theorem compare_eq_eq : left.compare right = some .eq ↔
    left = right ∧ left.isNaN = false ∨
      (∃ sign, left = .zero sign) ∧ ∃ sign, right = .zero sign := by
  rcases left with ⟨_ | _⟩ | _ | _ | ⟨⟨_ | _⟩, _, _, _⟩ <;>
    rcases right with ⟨_ | _⟩ | _ | _ | ⟨⟨_ | _⟩, _, _, _⟩ <;>
    simp [UnpackedFloat.compare, UnpackedFloat.isNaN, Ordering.then_eq_eq, and_comm] <;>
    rfl

end Unpacked

namespace Float

/-- How two doubles compare, if they do. -/
def order? (left right : Float) : Option Ordering :=
  left.toModel.unpack.compare right.toModel.unpack

variable {left right third : Float}

theorem lt_iff : left < right ↔ order? left right = some .lt := by
  show decide (left.toModel < right.toModel) = true ↔ _
  rw [decide_eq_true_iff]
  exact beq_iff_eq

theorem beq_iff : (left == right) = true ↔ order? left right = some .eq := by
  show (order? left right == some .eq) = true ↔ _
  exact beq_iff_eq

theorem le_iff : left ≤ right ↔ left < right ∨ (left == right) = true := by
  have opened : left ≤ right ↔ (order? left right).any (·.isLE) = true := by
    show decide (left.toModel ≤ right.toModel) = true ↔ _
    rw [decide_eq_true_iff]
    rfl
  rw [opened, lt_iff, beq_iff]
  rcases order? left right with _ | _ | _ | _ <;> simp

theorem order?_swap (left right : Float) :
    order? right left = (order? left right).map Ordering.swap :=
  Unpacked.compare_swap _ _

theorem order?_eq_none : order? left right = none ↔ left.isNaN = true ∨ right.isNaN = true :=
  Unpacked.compare_eq_none

theorem lt_trichotomy (first : left.isNaN = false) (second : right.isNaN = false) :
    left < right ∨ (left == right) = true ∨ right < left := by
  rw [lt_iff, beq_iff, lt_iff, order?_swap left right]
  cases compared : order? left right with
  | none => simp_all [order?_eq_none]
  | some order => cases order <;> simp

theorem not_lt_of_le (atMost : left ≤ right) : ¬right < left := by
  rw [lt_iff, order?_swap left right]
  rcases le_iff.mp atMost with less | same
  · simp [lt_iff.mp less]
  · simp [beq_iff.mp same]

theorem le_of_not_lt (first : left.isNaN = false) (second : right.isNaN = false)
    (atLeast : ¬right < left) : left ≤ right := by
  rw [le_iff]
  rcases lt_trichotomy first second with less | same | more
  · exact .inl less
  · exact .inr same
  · exact absurd more atLeast

theorem le_iff_not_lt (first : left.isNaN = false) (second : right.isNaN = false) :
    left ≤ right ↔ ¬right < left :=
  ⟨not_lt_of_le, le_of_not_lt first second⟩

theorem beq_comm (left right : Float) : (left == right) = (right == left) := by
  rw [Bool.eq_iff_iff, beq_iff, beq_iff, order?_swap left right]
  cases order? left right with
  | none => simp
  | some order => cases order <;> simp

theorem isNaN_of_isFinite {value : Float} (finite : value.isFinite = true) :
    value.isNaN = false := by
  change value.toModel.unpack.isFinite = true at finite
  change value.toModel.unpack.isNaN = false
  cases unpacked : value.toModel.unpack with
  | notANumber => simp [unpacked, UnpackedFloat.isFinite] at finite
  | infinity => rfl
  | zero => rfl
  | finite => rfl

theorem beq_self {value : Float} (number : value.isNaN = false) : (value == value) = true := by
  rw [beq_iff, order?, Unpacked.compare_eq_eq]
  exact .inl ⟨rfl, number⟩

theorem isNaN_of_beq (same : (left == right) = true) :
    left.isNaN = false ∧ right.isNaN = false := by
  have compared : order? left right ≠ none := by
    rw [beq_iff.mp same]
    exact Option.some_ne_none _
  simpa [order?_eq_none] using compared

theorem beq_trans (first : (left == right) = true) (second : (right == third) = true) :
    (left == third) = true := by
  rw [beq_iff, order?, Unpacked.compare_eq_eq] at *
  rcases first with ⟨same, -⟩ | ⟨zero, shared⟩
  · rwa [same]
  · rcases second with ⟨same, -⟩ | ⟨-, last⟩
    · exact .inr ⟨zero, same ▸ shared⟩
    · exact .inr ⟨zero, last⟩

end Float

end Dispatch
