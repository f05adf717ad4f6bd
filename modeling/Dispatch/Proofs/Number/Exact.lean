import Dispatch.Scalar
import Mathlib.Algebra.BigOperators.Group.List.Basic
import Mathlib.Algebra.Order.Field.Rat
import Mathlib.Algebra.Order.Group.Unbundled.Abs
import Mathlib.Data.Rat.Floor
import Mathlib.Tactic.Linarith

namespace Dispatch

/-! Numbers that are never rounded: fractions, the two infinities, and what a meaningless
operation gives. A zero has no sign. -/

inductive Exact
  | number (value : ℚ)
  | infinite (isNegative : Bool)
  | undefined
deriving DecidableEq

namespace Exact

/-- The infinity on the side of a number that is not zero. -/
def beyond (value : ℚ) : Exact :=
  .infinite (decide (value < 0))

instance : Zero Exact := ⟨.number 0⟩

instance : One Exact := ⟨.number 1⟩

instance : Neg Exact where
  neg
    | .number value => .number (-value)
    | .infinite isNegative => .infinite !isNegative
    | .undefined => .undefined

instance : Add Exact where
  add
    | .number left, .number right => .number (left + right)
    | .number _, .infinite side => .infinite side
    | .infinite side, .number _ => .infinite side
    | .infinite left, .infinite right => if left = right then .infinite left else .undefined
    | _, _ => .undefined

instance : Sub Exact := ⟨fun left right => left + -right⟩

instance : Mul Exact where
  mul
    | .number left, .number right => .number (left * right)
    | .number factor, .infinite side | .infinite side, .number factor =>
        if factor = 0 then .undefined else .infinite (side ^^ decide (factor < 0))
    | .infinite left, .infinite right => .infinite (left ^^ right)
    | _, _ => .undefined

instance : Div Exact where
  div
    | .number left, .number right =>
        if right = 0 then if left = 0 then .undefined else beyond left
        else .number (left / right)
    | .number _, .infinite _ => .number 0
    | .infinite side, .number right => .infinite (side ^^ decide (right < 0))
    | _, _ => .undefined

/-- What is undefined differs from itself. -/
instance : BEq Exact where
  beq
    | .number left, .number right => decide (left = right)
    | .infinite left, .infinite right => left == right
    | _, _ => false

def isBelow : Exact → Exact → Bool
  | .number left, .number right => decide (left < right)
  | .number _, .infinite isNegative => !isNegative
  | .infinite isNegative, .number _ => isNegative
  | .infinite left, .infinite right => left && !right
  | _, _ => false

def isNumber : Exact → Bool
  | .number _ => true
  | _ => false

def size : Exact → Exact
  | .number value => .number |value|
  | .infinite _ => .infinite false
  | .undefined => .undefined

def nearestWhole : Exact → Exact
  | .number value =>
      .number (if value < 0 then -⌊-value + 1 / 2⌋ else ⌊value + 1 / 2⌋)
  | other => other

instance : Scalar Exact where
  infinity := .infinite false
  isFinite := isNumber
  below := isBelow
  magnitude := size
  nearest := nearestWhole

theorem zero_def : (0 : Exact) = .number 0 := rfl

theorem one_def : (1 : Exact) = .number 1 := rfl

@[simp] theorem neg_number (value : ℚ) : -number value = number (-value) := rfl

@[simp] theorem neg_infinite (isNegative : Bool) :
    -infinite isNegative = infinite !isNegative := rfl

@[simp] theorem neg_undefined : -undefined = undefined := rfl

@[simp] theorem number_add_number (left right : ℚ) :
    number left + number right = number (left + right) := rfl

@[simp] theorem number_add_infinite (value : ℚ) (isNegative : Bool) :
    number value + infinite isNegative = infinite isNegative := rfl

@[simp] theorem infinite_add_number (isNegative : Bool) (value : ℚ) :
    infinite isNegative + number value = infinite isNegative := rfl

@[simp] theorem infinite_add_infinite (left right : Bool) :
    infinite left + infinite right = if left = right then infinite left else undefined := rfl

@[simp] theorem undefined_add (value : Exact) : undefined + value = undefined := by
  cases value <;> rfl

@[simp] theorem add_undefined (value : Exact) : value + undefined = undefined := by
  cases value <;> rfl

theorem sub_def (left right : Exact) : left - right = left + -right := rfl

instance : AddCommMonoid Exact where
  add_assoc first second third := by
    rcases first with _ | (_ | _) | _ <;> rcases second with _ | (_ | _) | _ <;>
      rcases third with _ | (_ | _) | _ <;> simp [add_assoc]
  zero_add value := by cases value <;> simp [zero_def]
  add_zero value := by cases value <;> simp [zero_def]
  add_comm first second := by
    rcases first with _ | (_ | _) | _ <;> rcases second with _ | (_ | _) | _ <;>
      simp [add_comm]
  nsmul := nsmulRec

instance : InvolutiveNeg Exact where
  neg_neg value := by cases value <;> simp

@[simp] theorem number_mul_number (left right : ℚ) :
    number left * number right = number (left * right) := rfl

@[simp] theorem infinite_mul_number (isNegative : Bool) (factor : ℚ) :
    infinite isNegative * number factor =
      if factor = 0 then undefined else infinite (isNegative ^^ decide (factor < 0)) := rfl

@[simp] theorem undefined_mul (value : Exact) : undefined * value = undefined := by
  cases value <;> rfl

/-- A number distributes over a sum, even one that has no value. -/
theorem add_mul_number (first second : Exact) (factor : ℚ) :
    (first + second) * number factor = first * number factor + second * number factor := by
  by_cases zero : factor = 0
  · rcases first with first | (_ | _) | _ <;> rcases second with second | (_ | _) | _ <;>
      simp [zero]
  · rcases first with first | (_ | _) | _ <;> rcases second with second | (_ | _) | _ <;>
      simp [zero, add_mul]

theorem sum_map_mul_number (values : List Exact) (factor : ℚ) :
    (values.map fun value => value * number factor).sum = values.sum * number factor := by
  induction values with
  | nil => simp [zero_def]
  | cons value rest induction =>
      rw [List.map_cons, List.sum_cons, List.sum_cons, induction, add_mul_number]

@[simp] theorem atMost_number (left right : ℚ) :
    Scalar.atMost (number left) (number right) = decide (left ≤ right) := by
  simp [Scalar.atMost, Scalar.below, isBelow, BEq.beq, le_iff_lt_or_eq]

@[simp] theorem atMost_number_infinite (value : ℚ) (isNegative : Bool) :
    Scalar.atMost (number value) (infinite isNegative) = !isNegative := by
  cases isNegative <;> rfl

@[simp] theorem atMost_infinite_number (isNegative : Bool) (value : ℚ) :
    Scalar.atMost (infinite isNegative) (number value) = isNegative := by
  cases isNegative <;> rfl

@[simp] theorem atMost_infinite (left right : Bool) :
    Scalar.atMost (infinite left) (infinite right) = (left || !right) := by
  cases left <;> cases right <;> rfl

@[simp] theorem atMost_undefined (value : Exact) : Scalar.atMost value undefined = false := by
  cases value <;> rfl

@[simp] theorem undefined_atMost (value : Exact) : Scalar.atMost undefined value = false := by
  cases value <;> rfl

theorem atMost_refl {value : Exact} (defined : value ≠ undefined) :
    Scalar.atMost value value = true := by
  rcases value with value | (_ | _) | _ <;> simp_all

theorem atMost_trans {first second third : Exact} (low : Scalar.atMost first second = true)
    (high : Scalar.atMost second third = true) : Scalar.atMost first third = true := by
  rcases first with first | (_ | _) | _ <;> rcases second with second | (_ | _) | _ <;>
    rcases third with third | (_ | _) | _ <;> simp_all
  exact low.trans high

theorem atMost_total {first second : Exact} (defined : first ≠ undefined)
    (other : second ≠ undefined) :
    Scalar.atMost first second = true ∨ Scalar.atMost second first = true := by
  rcases first with first | (_ | _) | _ <;> rcases second with second | (_ | _) | _ <;>
    simp_all [le_total]

theorem atMost_antisymm {first second : Exact} (low : Scalar.atMost first second = true)
    (high : Scalar.atMost second first = true) : first = second := by
  rcases first with first | (_ | _) | _ <;> rcases second with second | (_ | _) | _ <;>
    simp_all
  exact le_antisymm low high

/-- The order of numbers is total where they are defined. -/
theorem below_eq_not_atMost {first second : Exact} (defined : first ≠ undefined)
    (other : second ≠ undefined) :
    Scalar.below second first = !Scalar.atMost first second := by
  rcases first with first | (_ | _) | _ <;> rcases second with second | (_ | _) | _ <;>
    simp_all [Scalar.below, isBelow]
  rw [← decide_not, decide_eq_decide, not_le]

theorem below_eq_false {low high : Exact} (order : Scalar.atMost low high = true) :
    Scalar.below high low = false := by
  rcases low with low | (_ | _) | _ <;> rcases high with high | (_ | _) | _ <;>
    simp_all [Scalar.below, isBelow]

theorem below_lowest (value : Exact) : Scalar.below value (infinite true) = false := by
  rcases value with value | (_ | _) | _ <;> rfl

theorem highest_below (value : Exact) : Scalar.below (infinite false) value = false := by
  rcases value with value | (_ | _) | _ <;> rfl

theorem beq_self {value : Exact} (defined : value ≠ undefined) : (value == value) = true := by
  cases value <;> simp_all [BEq.beq]

theorem larger_eq {first second : Exact} (defined : first ≠ undefined)
    (other : second ≠ undefined) :
    Scalar.larger first second = if Scalar.atMost first second then second else first := by
  rw [Scalar.larger, if_pos (beq_self other), below_eq_not_atMost defined other]
  cases Scalar.atMost first second <;> rfl

theorem smaller_eq {first second : Exact} (defined : first ≠ undefined)
    (other : second ≠ undefined) :
    Scalar.smaller first second = if Scalar.atMost second first then second else first := by
  rw [Scalar.smaller, if_pos (beq_self other), below_eq_not_atMost other defined]
  cases Scalar.atMost second first <;> rfl

/-- The larger of two lower bounds stands for both. -/
theorem larger_atMost {first second : Exact} (defined : first ≠ undefined)
    (other : second ≠ undefined) (value : Exact) :
    Scalar.atMost (Scalar.larger first second) value = true ↔
      Scalar.atMost first value = true ∧ Scalar.atMost second value = true := by
  rw [larger_eq defined other]
  split
  · rename_i order
    exact ⟨fun holds => ⟨atMost_trans order holds, holds⟩, And.right⟩
  · rename_i reverse
    have order := (atMost_total defined other).resolve_left reverse
    exact ⟨fun holds => ⟨holds, atMost_trans order holds⟩, And.left⟩

/-- The smaller of two upper bounds stands for both. -/
theorem atMost_smaller {first second : Exact} (defined : first ≠ undefined)
    (other : second ≠ undefined) (value : Exact) :
    Scalar.atMost value (Scalar.smaller first second) = true ↔
      Scalar.atMost value first = true ∧ Scalar.atMost value second = true := by
  rw [smaller_eq defined other]
  split
  · rename_i order
    exact ⟨fun holds => ⟨atMost_trans holds order, holds⟩, And.right⟩
  · rename_i reverse
    have order := (atMost_total other defined).resolve_left reverse
    exact ⟨fun holds => ⟨holds, atMost_trans holds order⟩, And.left⟩

/-- A constant may be taken to the other side. -/
theorem sub_atMost (bound value : ℚ) (constant : Exact) :
    Scalar.atMost (number bound - constant) (number value) =
      Scalar.atMost (number bound) (number value + constant) := by
  rcases constant with constant | (_ | _) | _ <;> simp [sub_def]

theorem atMost_sub (value bound : ℚ) (constant : Exact) :
    Scalar.atMost (number value) (number bound - constant) =
      Scalar.atMost (number value + constant) (number bound) := by
  rcases constant with constant | (_ | _) | _ <;> simp [sub_def]

theorem isWhole_intCast (whole : ℤ) :
    Scalar.atMost (Scalar.magnitude (number whole - Scalar.nearest (number whole))) 0 =
      true := by
  have rounded (whole : ℤ) : ⌊(whole : ℚ) + 1 / 2⌋ = whole := by
    rw [Int.floor_eq_iff]
    constructor <;> linarith
  have nearest : Scalar.nearest (number whole) = number whole := by
    have negative : ⌊-(whole : ℚ) + 1 / 2⌋ = -whole := by
      rw [← Int.cast_neg]
      exact rounded (-whole)
    simp only [Scalar.nearest, nearestWhole, negative, rounded, Int.cast_neg, neg_neg, ite_self]
  rw [nearest, sub_def, neg_number, number_add_number, add_neg_cancel]
  rfl

end Exact

end Dispatch
