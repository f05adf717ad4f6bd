import Dispatch.LinearFunction
import Mathlib.Data.List.Basic

namespace Dispatch.LinearFunction

/-! Coefficients by position: a run of terms takes the coefficients of another run over the
same variables and becomes it. -/

variable {K : Type}

@[simp] theorem length_setCoefficient (function : LinearFunction K) (position : Nat)
    (value : K) :
    (function.setCoefficient position value).terms.length = function.terms.length := by
  simp [setCoefficient]

@[simp] theorem vars_setCoefficient (function : LinearFunction K) (position : Nat)
    (value : K) :
    (function.setCoefficient position value).terms.map Prod.fst =
      function.terms.map Prod.fst := by
  apply List.ext_getElem?
  intro index
  simp only [setCoefficient, List.getElem?_map, List.getElem?_modify]
  cases function.terms[index]? with
  | none => rfl
  | some term =>
      simp only [Option.map_some, Option.map_eq_map]
      split <;> rfl

theorem setCoefficients_ok {function : LinearFunction K} {positions : List Nat}
    {values : List K} (lengths : values.length = positions.length)
    (within : ∀ position ∈ positions, position < function.terms.length) :
    function.setCoefficients positions values =
      .ok ((positions.zip values).foldl
        (fun function patch => function.setCoefficient patch.1 patch.2) function) := by
  have none : (positions.find? fun position =>
      decide (function.terms.length ≤ position)) = none := by
    rw [List.find?_eq_none]
    intro position member
    simpa using within position member
  unfold setCoefficients
  rw [if_neg (by simp [lengths]), none]

theorem vars_foldl_setCoefficient (patches : List (Nat × K)) (function : LinearFunction K) :
    (patches.foldl (fun function patch => function.setCoefficient patch.1 patch.2)
      function).terms.map Prod.fst = function.terms.map Prod.fst := by
  induction patches generalizing function with
  | nil => rfl
  | cons patch rest induction =>
      rw [List.foldl_cons, induction, vars_setCoefficient]

theorem vars_setCoefficients {function result : LinearFunction K} {positions : List Nat}
    {values : List K} (patched : function.setCoefficients positions values = .ok result) :
    result.terms.map Prod.fst = function.terms.map Prod.fst := by
  unfold setCoefficients at patched
  split at patched
  · cases patched
  · split at patched
    · cases patched
    · cases patched
      exact vars_foldl_setCoefficient (positions.zip values) function

theorem constant_foldl_setCoefficient (patches : List (Nat × K)) (function : LinearFunction K) :
    (patches.foldl (fun function patch => function.setCoefficient patch.1 patch.2)
      function).constant = function.constant := by
  induction patches generalizing function with
  | nil => rfl
  | cons patch rest induction =>
      rw [List.foldl_cons, induction]
      rfl

theorem constant_setCoefficients {function result : LinearFunction K} {positions : List Nat}
    {values : List K} (patched : function.setCoefficients positions values = .ok result) :
    result.constant = function.constant := by
  unfold setCoefficients at patched
  split at patched
  · cases patched
  · split at patched
    · cases patched
    · cases patched
      exact constant_foldl_setCoefficient (positions.zip values) function

private theorem modify_append_cons {α : Type} (front : List α) (item : α) (back : List α)
    (change : α → α) :
    (front ++ item :: back).modify front.length change = front ++ change item :: back := by
  induction front with
  | nil => rfl
  | cons head rest induction =>
      simp only [List.cons_append, List.length_cons, List.modify_succ_cons, induction]

private theorem foldl_setCoefficient_run (front middle run back : List (VarRef × K))
    (constant : K) (vars : run.map Prod.fst = middle.map Prod.fst) :
    ((List.range' front.length middle.length).zip (run.map Prod.snd)).foldl
        (fun function patch => function.setCoefficient patch.1 patch.2)
        ⟨front ++ middle ++ back, constant⟩ =
      (⟨front ++ run ++ back, constant⟩ : LinearFunction K) := by
  induction middle generalizing front run with
  | nil =>
      have empty : run = [] := by simpa using vars
      simp [empty]
  | cons term rest induction =>
      cases run with
      | nil => cases vars
      | cons new others =>
          simp only [List.map_cons, List.cons.injEq] at vars
          have head : (⟨front ++ (term :: rest) ++ back, constant⟩ :
              LinearFunction K).setCoefficient front.length new.2 =
              ⟨(front ++ [new]) ++ rest ++ back, constant⟩ := by
            simp only [setCoefficient]
            rw [List.append_assoc, List.cons_append, modify_append_cons, ← vars.1]
            simp
          have tail := induction (front ++ [new]) others vars.2
          simp only [List.length_append, List.length_singleton] at tail
          simp only [List.length_cons, List.range'_succ, List.map_cons, List.zip_cons_cons,
            List.foldl_cons, head, tail]
          simp

/-- A run is replaced by another run over the same variables. -/
theorem setCoefficients_run (function : LinearFunction K)
    (front middle back : List (VarRef × K)) (run : List (VarRef × K))
    (terms : function.terms = front ++ middle ++ back)
    (vars : run.map Prod.fst = middle.map Prod.fst) :
    function.setCoefficients (List.range' front.length middle.length) (run.map Prod.snd) =
      .ok { function with terms := front ++ run ++ back } := by
  have lengths : run.length = middle.length := by
    simpa using congrArg List.length vars
  rw [setCoefficients_ok]
  · have replaced := foldl_setCoefficient_run front middle run back function.constant vars
    rw [← terms] at replaced
    exact congrArg Except.ok replaced
  · simp [lengths]
  · intro position member
    have within := List.mem_range'_1.mp member
    simp only [terms, List.length_append]
    omega

end Dispatch.LinearFunction
