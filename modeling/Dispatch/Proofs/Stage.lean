import Dispatch.Error

namespace Dispatch.Stage

/-! Each step is taken from one stage only. -/

theorem enter_vars {stage : Stage} (entered : stage.enter .vars = .ok .run) :
    stage = .empty := by
  cases stage <;> first | rfl | cases entered

theorem enter_constraints {stage : Stage} (entered : stage.enter .constraints = .ok .run) :
    stage = .vars := by
  cases stage <;> first | rfl | cases entered

theorem enter_objective {stage : Stage} (entered : stage.enter .objective = .ok .run) :
    stage = .constraints := by
  cases stage <;> first | rfl | cases entered

theorem rank_of_enter_skip {stage target : Stage} (entered : stage.enter target = .ok .skip) :
    target.rank ≤ stage.rank := by
  unfold enter at entered
  split at entered
  · rename_i reached
    exact of_decide_eq_true reached
  · split at entered <;> cases entered

theorem rank_of_enter_run {stage target : Stage} (entered : stage.enter target = .ok .run) :
    stage.rank ≤ target.rank := by
  unfold enter at entered
  split at entered
  · cases entered
  · rename_i early
    exact Nat.le_of_lt (Nat.lt_of_not_le fun late => early (decide_eq_true late))

theorem eq_objective {stage : Stage} (late : Stage.objective.rank ≤ stage.rank) :
    stage = .objective := by
  revert late
  cases stage <;> simp [rank]

theorem hasObjective_of_early {stage : Stage} (early : stage.hasConstraints = false) :
    stage.hasObjective = false := by
  revert early
  cases stage <;> simp [hasConstraints, hasObjective, reached, rank]

theorem hasConstraints_of_bare {stage : Stage} (bare : stage.hasVariables = false) :
    stage.hasConstraints = false := by
  revert bare
  cases stage <;> simp [hasConstraints, hasVariables, reached, rank]

theorem hasVariables_of_late {stage : Stage} (late : stage.hasConstraints = true) :
    stage.hasVariables = true := by
  revert late
  cases stage <;> simp [hasConstraints, hasVariables, reached, rank]

end Dispatch.Stage
