import Dispatch.Proofs.Mps.Contents
import Mathlib.Tactic.Ring

namespace Dispatch

open Mps

/-! The values that a written row or column allows are those that the row or the variable with
its boxes allows. -/

def Variable.bounds {K : Type} (decision : Variable K) : Bounds K :=
  ⟨decision.lower, decision.upper⟩

def Constraint.bounds {K : Type} (constraint : Constraint K) : Bounds K :=
  ⟨constraint.lhs, constraint.rhs⟩

namespace Bounds

variable {bounds : Bounds Exact}

/-- Some number may lie between the bounds, as far as each alone shows. -/
structure Ordered (bounds : Bounds Exact) : Prop where
  atMost : Scalar.atMost bounds.lower bounds.upper = true
  lower : bounds.lower ≠ .infinite false
  upper : bounds.upper ≠ .infinite true

/-- A bound from below that is a number or does not bound. -/
def IsLower (value : Exact) : Prop :=
  value ≠ .undefined ∧ value ≠ .infinite false

def IsUpper (value : Exact) : Prop :=
  value ≠ .undefined ∧ value ≠ .infinite true

theorem Ordered.isLower (ordered : bounds.Ordered) : IsLower bounds.lower := by
  refine ⟨fun undefined => ?_, ordered.lower⟩
  have atMost := ordered.atMost
  rw [undefined, Exact.undefined_atMost] at atMost
  cases atMost

theorem Ordered.isUpper (ordered : bounds.Ordered) : IsUpper bounds.upper := by
  refine ⟨fun undefined => ?_, ordered.upper⟩
  have atMost := ordered.atMost
  rw [undefined, Exact.atMost_undefined] at atMost
  cases atMost

theorem IsLower.cases {value : Exact} (isLower : IsLower value) :
    (∃ bound, value = .number bound) ∨ value = .infinite true := by
  rcases value with bound | (_ | _) | _
  · exact .inl ⟨bound, rfl⟩
  · exact absurd rfl isLower.2
  · exact .inr rfl
  · exact absurd rfl isLower.1

theorem IsUpper.cases {value : Exact} (isUpper : IsUpper value) :
    (∃ bound, value = .number bound) ∨ value = .infinite false := by
  rcases value with bound | (_ | _) | _
  · exact .inl ⟨bound, rfl⟩
  · exact .inr rfl
  · exact absurd rfl isUpper.2
  · exact absurd rfl isUpper.1

theorem ordered_zero_one : (⟨0, 1⟩ : Bounds Exact).Ordered :=
  ⟨by simp [Exact.zero_def, Exact.one_def], nofun, nofun⟩

/-- Bounds that allow the same values are the same, if they allow any. -/
theorem eq_of_holds_iff {first second : Bounds Exact} (ordered : first.Ordered)
    (defined : second.lower ≠ .undefined) (other : second.upper ≠ .undefined)
    (same : ∀ value, second.Holds value ↔ first.Holds value) : second = first := by
  have lowest : first.Holds first.lower := ⟨Exact.atMost_refl ordered.isLower.1, ordered.atMost⟩
  have highest : first.Holds first.upper := ⟨ordered.atMost, Exact.atMost_refl ordered.isUpper.1⟩
  have low := (same _).mpr lowest
  have high := (same _).mpr highest
  have between := Exact.atMost_trans low.1 low.2
  have lower := (same _).mp ⟨Exact.atMost_refl defined, between⟩
  have upper := (same _).mp ⟨between, Exact.atMost_refl other⟩
  have sameLower : second.lower = first.lower := Exact.atMost_antisymm low.1 lower.1
  have sameUpper : second.upper = first.upper := Exact.atMost_antisymm upper.2 high.2
  cases second
  cases first
  congr

end Bounds

namespace Mps

open Bounds

theorem add_width (low high : ℚ) (constant : Exact) :
    Exact.number low - constant + Exact.number (high - low) = Exact.number high - constant := by
  rcases constant with constant | (_ | _) | _ <;> simp [Exact.sub_def]
  ring

/-- A row is read as what it allows, with its constant on the other side. -/
theorem holds_rowForm {lhs rhs value : Exact} {sense : MpsSense} {range : Option Exact}
    (constant : Exact) (ordered : (Bounds.mk lhs rhs).Ordered)
    (formed : rowForm? lhs rhs = some (sense, value, range)) :
    (∀ level : ℚ, (sense.bounds (value - constant) range).Holds (.number level) ↔
      (Bounds.mk lhs rhs).Holds (.number level + constant)) ∧
    ∀ shift, constant = .number shift →
      sense.bounds (value - constant) range = ⟨lhs - constant, rhs - constant⟩ := by
  rcases ordered.isLower.cases with ⟨low, lower⟩ | lower <;>
    rcases ordered.isUpper.cases with ⟨high, upper⟩ | upper <;>
    dsimp only at lower upper <;> subst lower upper
  · have order : low ≤ high := by simpa using ordered.atMost
    have read : sense.bounds (value - constant) range =
        ⟨.number low - constant, .number high - constant⟩ := by
      dsimp only [rowForm?, Scalar.isFinite, Exact.isNumber] at formed
      split at formed
      · rename_i equal
        cases formed
        have same : low = high := of_decide_eq_true equal
        rw [same]
        rfl
      · cases formed
        have width : Scalar.magnitude (Exact.number high - Exact.number low) =
            .number (high - low) := by
          simp [Exact.sub_def, Scalar.magnitude, Exact.size, abs_of_nonneg, order,
            ← sub_eq_add_neg]
        rw [MpsSense.bounds, width, add_width]
    rw [read]
    refine ⟨fun level => ?_, fun _ _ => rfl⟩
    simp only [Bounds.Holds, Exact.sub_atMost, Exact.atMost_sub]
  · cases formed
    refine ⟨fun level => ?_, ?_⟩
    · rcases constant with constant | (_ | _) | _ <;>
        simp [Bounds.Holds, MpsSense.bounds, Scalar.infinity, Exact.sub_def]
    · rintro shift rfl
      rfl
  · cases formed
    refine ⟨fun level => ?_, ?_⟩
    · rcases constant with constant | (_ | _) | _ <;>
        simp [Bounds.Holds, MpsSense.bounds, Scalar.infinity, Exact.sub_def]
    · rintro shift rfl
      rfl
  · cases formed

theorem foldl_larger {boxes : List (Box Exact)} {start : Exact} (isLower : IsLower start)
    (lowers : ∀ box ∈ boxes, IsLower box.lhs) :
    let lower := boxes.foldl (fun lower box => Scalar.larger lower box.lhs) start
    IsLower lower ∧ ∀ value, Scalar.atMost lower value = true ↔
      Scalar.atMost start value = true ∧ ∀ box ∈ boxes, Scalar.atMost box.lhs value = true := by
  induction boxes generalizing start with
  | nil => exact ⟨isLower, fun value => by simp⟩
  | cons box rest induction =>
      have first := lowers box List.mem_cons_self
      have larger : IsLower (Scalar.larger start box.lhs) := by
        rw [Exact.larger_eq isLower.1 first.1]
        split
        · exact first
        · exact isLower
      obtain ⟨kept, means⟩ := induction larger fun other member => lowers other (.tail _ member)
      refine ⟨kept, fun value => (means value).trans ?_⟩
      rw [Exact.larger_atMost isLower.1 first.1, List.forall_mem_cons, and_assoc]

theorem foldl_smaller {boxes : List (Box Exact)} {start : Exact} (isUpper : IsUpper start)
    (uppers : ∀ box ∈ boxes, IsUpper box.rhs) :
    let upper := boxes.foldl (fun upper box => Scalar.smaller upper box.rhs) start
    IsUpper upper ∧ ∀ value, Scalar.atMost value upper = true ↔
      Scalar.atMost value start = true ∧ ∀ box ∈ boxes, Scalar.atMost value box.rhs = true := by
  induction boxes generalizing start with
  | nil => exact ⟨isUpper, fun value => by simp⟩
  | cons box rest induction =>
      have first := uppers box List.mem_cons_self
      have smaller : IsUpper (Scalar.smaller start box.rhs) := by
        rw [Exact.smaller_eq isUpper.1 first.1]
        split
        · exact first
        · exact isUpper
      obtain ⟨kept, means⟩ := induction smaller fun other member => uppers other (.tail _ member)
      refine ⟨kept, fun value => (means value).trans ?_⟩
      rw [Exact.atMost_smaller isUpper.1 first.1, List.forall_mem_cons, and_assoc]

/-- The bounds of a written column are read back. -/
theorem foldl_deckBounds {column : MpsColumn Exact} (lower : IsLower column.lower)
    (upper : IsUpper column.upper)
    (binary : column.isBinary = true → column.lower = 0 ∧ column.upper = 1) :
    (MpsDocument.deckBounds column).foldl DeckColumn.bounded .default =
      ⟨column.isBinary, column.lower, column.upper⟩ := by
  obtain ⟨low, high, isBinary, objective, factors⟩ := column
  dsimp only at lower upper binary ⊢
  unfold MpsDocument.deckBounds columnBounds
  dsimp only
  cases isBinary with
  | true =>
      obtain ⟨rfl, rfl⟩ := binary rfl
      rfl
  | false =>
      rw [Bool.false_and, Bool.false_and, if_neg Bool.false_ne_true]
      rcases lower.cases with ⟨low, rfl⟩ | rfl <;> rcases upper.cases with ⟨high, rfl⟩ | rfl
      · split
        · rename_i equal
          have same : low = high := of_decide_eq_true equal
          rw [same]
          rfl
        · dsimp only [Scalar.isFinite, Exact.isNumber]
          cases nonzero : Exact.number low != 0 with
          | true => rfl
          | false =>
              rw [Exact.eq_zero_of_bne nonzero]
              rfl
      · dsimp only [Scalar.isFinite, Exact.isNumber]
        cases nonzero : Exact.number low != 0 with
        | true => rfl
        | false =>
            rw [Exact.eq_zero_of_bne nonzero]
            rfl
      · rfl
      · rfl

end Mps

end Dispatch
