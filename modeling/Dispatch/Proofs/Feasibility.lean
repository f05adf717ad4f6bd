import Dispatch.Model
import Dispatch.Proofs.Except
import Dispatch.Proofs.Number.Order

namespace Dispatch

/-! When a block counts as feasible. Whatever keeps its bounds is feasible. The converse holds
for what can be compared: the bounds of a variable and the ends of a constraint are only asked
whether they are broken, and what is not a number breaks none of them. -/

/-- The gap is small, measured against the size of the bound where that exceeds one. -/
def Tolerance.Covers (tolerance : Tolerance Float) (gap bound : Float) : Prop :=
  (if tolerance.relative then gap / Scalar.larger bound.abs 1 else gap) ≤ tolerance.amount

inductive Tolerance.Admits (tolerance : Tolerance Float) (lhs rhs level : Float) : Prop
  | inside (above : lhs ≤ level) (below : level ≤ rhs)
  | under (short : level < lhs) (close : tolerance.Covers (lhs - level) lhs)
  | past (above : lhs ≤ level) (beyond : rhs < level) (close : tolerance.Covers (level - rhs) rhs)

structure Variable.Within (decision : Variable Float) (tolerance : Float) : Prop where
  lower : decision.lower - tolerance ≤ decision.value
  upper : decision.value ≤ decision.upper + tolerance
  whole : decision.kind = .binary →
    (decision.value - Float.nearestWhole decision.value).abs ≤ tolerance

def Constraint.Holds (constraint : Constraint Float)
    (lookup? : VarRef → Option (Variable Float)) (tolerance : Tolerance Float) : Prop :=
  ∃ level, constraint.level lookup? = .ok level ∧
    tolerance.Admits constraint.lhs constraint.rhs level

structure Model.Feasible (model : Model Float) (tolerance : Tolerance Float) : Prop where
  vars : ∀ entry ∈ model.vars, entry.2.Within tolerance.amount
  constraints : ∀ entry ∈ model.constraints, entry.constraint.Holds model.lookup? tolerance

structure Variable.Comparable (decision : Variable Float) (tolerance : Float) : Prop where
  value : decision.value.isNaN = false
  lower : (decision.lower - tolerance).isNaN = false
  upper : (decision.upper + tolerance).isNaN = false

structure Constraint.Comparable (constraint : Constraint Float)
    (lookup? : VarRef → Option (Variable Float)) : Prop where
  lhs : constraint.lhs.isNaN = false
  rhs : constraint.rhs.isNaN = false
  level : ∀ level, constraint.level lookup? = .ok level → level.isNaN = false

structure Model.Comparable (model : Model Float) (tolerance : Tolerance Float) : Prop where
  vars : ∀ entry ∈ model.vars, entry.2.Comparable tolerance.amount
  constraints : ∀ entry ∈ model.constraints, entry.constraint.Comparable model.lookup?

theorem atMost_iff {left right : Float} : Scalar.atMost left right = true ↔ left ≤ right := by
  rw [Float.le_iff, Scalar.atMost, Bool.or_eq_true]
  exact or_congr_left decide_eq_true_iff

namespace Variable

variable {decision : Variable Float} {tolerance : Float}

theorem isWhole_iff : decision.isWhole tolerance = true ↔
    (decision.value - Float.nearestWhole decision.value).abs ≤ tolerance :=
  atMost_iff

theorem withinBounds_iff : decision.withinBounds tolerance = true ↔
    ¬decision.value < decision.lower - tolerance ∧
      ¬decision.upper + tolerance < decision.value := by
  simp [withinBounds, Scalar.below]

theorem isFeasible_iff : decision.isFeasible tolerance = true ↔
    (¬decision.value < decision.lower - tolerance ∧
      ¬decision.upper + tolerance < decision.value) ∧
      (decision.kind = .binary →
        (decision.value - Float.nearestWhole decision.value).abs ≤ tolerance) := by
  rw [isFeasible, Bool.and_eq_true, withinBounds_iff]
  cases decision.kind <;> simp [isWhole_iff]

theorem Within.isFeasible (within : decision.Within tolerance) :
    decision.isFeasible tolerance = true :=
  isFeasible_iff.mpr ⟨⟨Float.not_lt_of_le within.lower, Float.not_lt_of_le within.upper⟩,
    within.whole⟩

theorem Comparable.within (comparable : decision.Comparable tolerance)
    (feasible : decision.isFeasible tolerance = true) : decision.Within tolerance := by
  obtain ⟨⟨lower, upper⟩, whole⟩ := isFeasible_iff.mp feasible
  exact ⟨Float.le_of_not_lt comparable.lower comparable.value lower,
    Float.le_of_not_lt comparable.value comparable.upper upper, whole⟩

end Variable

namespace Tolerance

variable {tolerance : Tolerance Float} {lhs rhs level : Float}

theorem boundViolation_of_lt (short : level < lhs) :
    boundViolation level lhs rhs tolerance.relative ≤ tolerance.amount ↔
      tolerance.Covers (lhs - level) lhs := by
  simp [boundViolation, Scalar.below, short, Covers, Scalar.magnitude]

theorem boundViolation_of_gt (above : ¬level < lhs) (beyond : rhs < level) :
    boundViolation level lhs rhs tolerance.relative ≤ tolerance.amount ↔
      tolerance.Covers (level - rhs) rhs := by
  simp [boundViolation, Scalar.below, above, beyond, Covers, Scalar.magnitude]

theorem boundViolation_of_inside (above : ¬level < lhs) (below : ¬rhs < level)
    (relative : Bool) : boundViolation level lhs rhs relative = 0 := by
  simp [boundViolation, Scalar.below, above, below]

theorem Admits.boundViolation_le (admits : tolerance.Admits lhs rhs level)
    (nonneg : 0 ≤ tolerance.amount) :
    boundViolation level lhs rhs tolerance.relative ≤ tolerance.amount := by
  cases admits with
  | inside above below =>
      rw [boundViolation_of_inside (Float.not_lt_of_le above) (Float.not_lt_of_le below)]
      exact nonneg
  | under short close => exact (boundViolation_of_lt short).mpr close
  | past above beyond close =>
      exact (boundViolation_of_gt (Float.not_lt_of_le above) beyond).mpr close

theorem admits_of_boundViolation_le (lhsNumber : lhs.isNaN = false)
    (rhsNumber : rhs.isNaN = false) (levelNumber : level.isNaN = false)
    (close : boundViolation level lhs rhs tolerance.relative ≤ tolerance.amount) :
    tolerance.Admits lhs rhs level := by
  by_cases short : level < lhs
  · exact .under short ((boundViolation_of_lt short).mp close)
  · have above := Float.le_of_not_lt lhsNumber levelNumber short
    by_cases beyond : rhs < level
    · exact .past above beyond ((boundViolation_of_gt short beyond).mp close)
    · exact .inside above (Float.le_of_not_lt levelNumber rhsNumber beyond)

end Tolerance

namespace Constraint

variable {constraint : Constraint Float} {lookup? : VarRef → Option (Variable Float)}
  {tolerance : Tolerance Float}

theorem violation_eq_ok {relative : Bool} {violation : Float} :
    constraint.violation lookup? relative = .ok violation ↔
      ∃ level, constraint.level lookup? = .ok level ∧
        boundViolation level constraint.lhs constraint.rhs relative = violation :=
  Except.map_eq_ok

theorem Holds.violation_le (holds : constraint.Holds lookup? tolerance)
    (nonneg : 0 ≤ tolerance.amount) :
    ∃ violation, constraint.violation lookup? tolerance.relative = .ok violation ∧
      violation ≤ tolerance.amount := by
  obtain ⟨level, evaluated, admits⟩ := holds
  exact ⟨_, violation_eq_ok.mpr ⟨level, evaluated, rfl⟩, admits.boundViolation_le nonneg⟩

theorem Comparable.holds (comparable : constraint.Comparable lookup?) {violation : Float}
    (evaluated : constraint.violation lookup? tolerance.relative = .ok violation)
    (close : violation ≤ tolerance.amount) : constraint.Holds lookup? tolerance := by
  obtain ⟨level, found, rfl⟩ := violation_eq_ok.mp evaluated
  exact ⟨level, found, Tolerance.admits_of_boundViolation_le comparable.lhs comparable.rhs
    (comparable.level level found) close⟩

end Constraint

namespace Model

variable {lookup? : VarRef → Option (Variable Float)} {tolerance : Tolerance Float}

/-- The first violation that is too large ends the search, and so does the first constraint
without a level. -/
theorem satisfied_iff {entries : List (Entry Float)} :
    satisfied lookup? tolerance entries = .ok true ↔ ∀ entry ∈ entries, ∃ violation,
      entry.constraint.violation lookup? tolerance.relative = .ok violation ∧
        violation ≤ tolerance.amount := by
  induction entries with
  | nil => simp [satisfied]
  | cons entry rest induction =>
      rw [List.forall_mem_cons, ← induction, satisfied]
      cases entry.constraint.violation lookup? tolerance.relative with
      | error error => simp
      | ok violation => by_cases close : violation ≤ tolerance.amount <;> simp [atMost_iff, close]

variable {model : Model Float} {explicit : Option (Tolerance Float)}

theorem isFeasible_eq_ok : model.isFeasible explicit = .ok true ↔
    (∀ entry ∈ model.vars,
      entry.2.isFeasible (Settings.resolve explicit model.settings).amount = true) ∧
      satisfied model.lookup? (Settings.resolve explicit model.settings) model.constraints =
        .ok true := by
  unfold isFeasible
  dsimp only
  split
  · rename_i within
    simp only [List.all_eq_true] at within
    exact (and_iff_right within).symm
  · rename_i broken
    simp only [List.all_eq_true] at broken
    exact iff_of_false nofun fun feasible => broken feasible.1

/-- Keeping all bounds is enough, whatever the values are. -/
theorem Feasible.isFeasible
    (feasible : model.Feasible (Settings.resolve explicit model.settings))
    (nonneg : 0 ≤ (Settings.resolve explicit model.settings).amount) :
    model.isFeasible explicit = .ok true :=
  isFeasible_eq_ok.mpr ⟨fun entry member => (feasible.vars entry member).isFeasible,
    satisfied_iff.mpr fun entry member =>
      (feasible.constraints entry member).violation_le nonneg⟩

/-- Among numbers the verdict says that all bounds are kept. -/
theorem isFeasible_iff (nonneg : 0 ≤ (Settings.resolve explicit model.settings).amount)
    (comparable : model.Comparable (Settings.resolve explicit model.settings)) :
    model.isFeasible explicit = .ok true ↔
      model.Feasible (Settings.resolve explicit model.settings) := by
  refine ⟨fun verdict => ?_, fun feasible => feasible.isFeasible nonneg⟩
  obtain ⟨within, satisfied⟩ := isFeasible_eq_ok.mp verdict
  constructor
  · exact fun entry member => (comparable.vars entry member).within (within entry member)
  · intro entry member
    obtain ⟨violation, evaluated, close⟩ := satisfied_iff.mp satisfied entry member
    exact (comparable.constraints entry member).holds evaluated close

def notANumber : Float := Float.ofBits 0x7FF8000000000000

/-- A free variable without a value and no constraint. -/
def undefined : Model Float :=
  let store : Store Float := ⟨⟨0⟩, [{ Variable.continuous with value := notANumber }]⟩
  { block := store.block
    kind := "Block"
    stage := .empty
    settings := none
    vars := store.entries
    lookup? := store.lookup?
    constraints := []
    objectives := [] }

/-- What is not a number keeps no bound, yet is reported as feasible. -/
theorem isFeasible_undefined :
    undefined.isFeasible none = .ok true ∧ ¬undefined.Feasible Tolerance.exact := by
  refine ⟨by rfl, fun feasible => ?_⟩
  have within := feasible.vars _ List.mem_cons_self
  exact absurd within.lower (by decide)

end Model

namespace Family

variable {α : Type} [IsConstraint α Float] {family : Family α}
  {lookup? : VarRef → Option (Variable Float)} {tolerance : Tolerance Float}

theorem feasibleItems_iff {items : List α} :
    feasibleItems lookup? tolerance.amount tolerance.relative items = .ok true ↔
      ∀ item ∈ items, ∃ violation,
        (IsConstraint.toConstraint item).violation lookup? tolerance.relative = .ok violation ∧
          ¬tolerance.amount < violation := by
  induction items with
  | nil => simp [feasibleItems]
  | cons item rest induction =>
      rw [List.forall_mem_cons, ← induction, feasibleItems]
      cases (IsConstraint.toConstraint item).violation lookup? tolerance.relative with
      | error error => simp
      | ok violation =>
          by_cases large : tolerance.amount < violation <;> simp [Scalar.below, large]

theorem constraints_entries :
    family.entries.map Entry.constraint = family.items.map IsConstraint.toConstraint := by
  calc family.entries.map Entry.constraint
    _ = (family.items.zipIdx.map Prod.fst).map IsConstraint.toConstraint := by
        rw [entries, List.mapIdx_eq_zipIdx_map, List.map_map, List.map_map]
        rfl
    _ = family.items.map IsConstraint.toConstraint := by rw [List.zipIdx_map_fst]

/-- What satisfies the block satisfies the family. -/
theorem isFeasible_of_satisfied
    (satisfied : Model.satisfied lookup? tolerance family.entries = .ok true) :
    family.isFeasible lookup? tolerance.amount tolerance.relative = .ok true := by
  rw [Model.satisfied_iff, ← List.forall_mem_map (f := Entry.constraint)
    (P := fun constraint => ∃ violation,
      constraint.violation lookup? tolerance.relative = .ok violation ∧
        violation ≤ tolerance.amount),
    constraints_entries, List.forall_mem_map] at satisfied
  refine feasibleItems_iff.mpr fun item member => ?_
  obtain ⟨violation, evaluated, close⟩ := satisfied item member
  exact ⟨violation, evaluated, Float.not_lt_of_le close⟩

theorem feasibleItems_eq_satisfied {items : List α} {entries : List (Entry Float)}
    (same : entries.map Entry.constraint = items.map IsConstraint.toConstraint)
    (number : tolerance.amount.isNaN = false)
    (comparable : ∀ item ∈ items, ∀ violation,
      (IsConstraint.toConstraint item).violation lookup? tolerance.relative = .ok violation →
        violation.isNaN = false) :
    feasibleItems lookup? tolerance.amount tolerance.relative items =
      Model.satisfied lookup? tolerance entries := by
  induction items generalizing entries with
  | nil =>
      obtain rfl := List.map_eq_nil_iff.mp same
      rfl
  | cons item rest induction =>
      obtain ⟨entry, others, rfl, here, later⟩ := List.map_eq_cons_iff.mp same
      have further := induction later fun other member =>
        comparable other (List.mem_cons_of_mem _ member)
      rw [feasibleItems, Model.satisfied, here, further]
      cases evaluated : (IsConstraint.toConstraint item).violation lookup? tolerance.relative with
      | error error => rfl
      | ok violation =>
          have opposite : Scalar.atMost violation tolerance.amount =
              !Scalar.below tolerance.amount violation := by
            rw [Bool.eq_iff_iff, atMost_iff]
            simpa [Scalar.below] using Float.le_iff_not_lt
              (comparable item List.mem_cons_self violation evaluated) number
          dsimp only
          rw [opposite]
          cases Scalar.below tolerance.amount violation <;> rfl

/-- Among numbers a family is judged as its part of the block is. -/
theorem isFeasible_eq_satisfied (number : tolerance.amount.isNaN = false)
    (comparable : ∀ item ∈ family.items, ∀ violation,
      (IsConstraint.toConstraint item).violation lookup? tolerance.relative = .ok violation →
        violation.isNaN = false) :
    family.isFeasible lookup? tolerance.amount tolerance.relative =
      Model.satisfied lookup? tolerance family.entries :=
  feasibleItems_eq_satisfied constraints_entries number comparable

/-- A variable at zero that is asked to be infinite. -/
def unreachable : Family (Box Float) :=
  ⟨"bounds", 1, [⟨⟨⟨0⟩, 0⟩, Scalar.infinity, Scalar.infinity⟩]⟩

/-- Its relative violation is not a number, which the family admits and the block refuses. -/
theorem isFeasible_unreachable :
    let lookup? := Store.lookup? ⟨⟨0⟩, [Variable.continuous]⟩
    unreachable.isFeasible lookup? 0 true = .ok true ∧
      Model.satisfied lookup? ⟨0, true⟩ unreachable.entries = .ok false :=
  ⟨by rfl, by rfl⟩

end Family

end Dispatch
