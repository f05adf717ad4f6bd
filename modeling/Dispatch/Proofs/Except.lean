import Mathlib.Data.List.Basic

namespace Except

/-! Computations that may be refused: when a sequence of them succeeds, every part did. -/

variable {ε α β : Type}

@[simp] theorem ok_bind (answer : α) (next : α → Except ε β) :
    ((.ok answer : Except ε α) >>= next) = next answer := rfl

@[simp] theorem error_bind (error : ε) (next : α → Except ε β) :
    ((.error error : Except ε α) >>= next) = .error error := rfl

@[simp] theorem pure_eq_ok (answer : α) : (pure answer : Except ε α) = .ok answer := rfl

@[simp] theorem throw_eq_error (error : ε) : (throw error : Except ε α) = .error error := rfl

theorem bind_eq_ok {first : Except ε α} {next : α → Except ε β} {result : β} :
    (first >>= next) = .ok result ↔ ∃ answer, first = .ok answer ∧ next answer = .ok result := by
  cases first <;> simp

theorem map_eq_ok {first : Except ε α} {change : α → β} {result : β} :
    first.map change = .ok result ↔ ∃ answer, first = .ok answer ∧ change answer = result := by
  cases first <;> simp [Except.map]

theorem map_eq_error {first : Except ε α} {change : α → β} {error : ε} :
    first.map change = .error error ↔ first = .error error := by
  cases first <;> simp [Except.map]

/-- Computations whose answers are the same, seen from either side, go on to computations whose
answers are. -/
theorem bind_map_congr {γ δ ζ η : Type} {first : Except ε α} {second : Except ε γ}
    {carry : α → δ} {bring : γ → δ} (same : first.map carry = second.map bring)
    {next : α → Except ε β} {other : γ → Except ε ζ} {after : β → η} {later : ζ → η}
    (agree : ∀ answer reply, carry answer = bring reply →
      (next answer).map after = (other reply).map later) :
    (first >>= next).map after = (second >>= other).map later := by
  cases first <;> cases second
  case error.error => exact congrArg Except.error (Except.error.inj same)
  case ok.ok answer reply => exact agree answer reply (Except.ok.inj same)
  all_goals cases same

/-- A guard that refuses in one case only. -/
@[simp] theorem ite_error_bind {condition : Prop} [Decidable condition] {error : ε}
    {next : PUnit → Except ε β} {result : β} :
    ((if condition then .error error else .ok ⟨⟩ : Except ε PUnit) >>= next) = .ok result ↔
      ¬condition ∧ next ⟨⟩ = .ok result := by
  by_cases holds : condition <;> simp [holds]

/-- Computations that succeed under a condition, with a known answer. -/
theorem mapM_eq_ok {compute : α → Except ε β} {condition : α → Prop} {answer : α → β}
    (succeeds : ∀ item result,
      compute item = .ok result ↔ condition item ∧ result = answer item)
    {items : List α} {results : List β} :
    items.mapM compute = .ok results ↔
      (∀ item ∈ items, condition item) ∧ results = items.map answer := by
  induction items generalizing results with
  | nil => simp [eq_comm]
  | cons item rest induction =>
      rw [List.mapM_cons, bind_eq_ok]
      constructor
      · rintro ⟨first, computed, others⟩
        obtain ⟨later, recursion, equality⟩ := bind_eq_ok.mp others
        cases equality
        obtain ⟨holds, rfl⟩ := (succeeds item first).mp computed
        obtain ⟨all, rfl⟩ := induction.mp recursion
        exact ⟨by simpa [holds] using all, rfl⟩
      · rintro ⟨all, rfl⟩
        have holds := all item (by simp)
        refine ⟨answer item, (succeeds _ _).mpr ⟨holds, rfl⟩, ?_⟩
        refine bind_eq_ok.mpr ⟨rest.map answer, induction.mpr ⟨?_, rfl⟩, rfl⟩
        exact fun other member => all other (by simp [member])

theorem mapM_map_congr {γ δ : Type} {compute : α → Except ε β} {other : α → Except ε γ}
    {carry : β → δ} {bring : γ → δ} {items : List α}
    (same : ∀ item ∈ items, (compute item).map carry = (other item).map bring) :
    (items.mapM compute).map (List.map carry) = (items.mapM other).map (List.map bring) := by
  induction items with
  | nil => rfl
  | cons item rest induction =>
      have later := induction fun item member => same item (List.mem_cons_of_mem _ member)
      rw [List.mapM_cons, List.mapM_cons]
      refine bind_map_congr (same item List.mem_cons_self) fun answer reply head => ?_
      refine bind_map_congr later fun answers replies tail => ?_
      exact congrArg Except.ok (congrArg₂ List.cons head tail)

end Except
