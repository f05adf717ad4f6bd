import Dispatch.Proofs.Change.Laws

namespace Dispatch

/-! Changes of two kinds of blocks that run in parallel. Related blocks get one answer and become
related blocks. -/

variable {S T A B α β : Type} {related : S → T → Prop}

/-- One answer, and states that are related. -/
structure Effect.Parallel (related : S → T → Prop) (first : Effect S α)
    (second : Effect T α) : Prop where
  result : first.result = second.result
  state : related first.state second.state

namespace Effect.Parallel

theorem bind {first : Change S α} {second : Change T α} {next : α → Change S β}
    {other : α → Change T β} {state : S} {twin : T}
    (runs : (first state).Parallel related (second twin))
    (goes : ∀ answer before after, related before after →
      (next answer before).Parallel related (other answer after)) :
    ((first >>= next) state).Parallel related ((second >>= other) twin) := by
  obtain ⟨result, states⟩ := runs
  rw [Change.bind_apply, Change.bind_apply, result]
  cases (second twin).result with
  | error error => exact ⟨rfl, states⟩
  | ok answer => exact ⟨(goes answer _ _ states).result, (goes answer _ _ states).state⟩

theorem require {required : Except Error α} {state : S} {twin : T}
    (pair : related state twin) :
    (Change.require required state).Parallel related (Change.require required twin) := by
  cases required <;> exact ⟨rfl, pair⟩

theorem onPart {part : A → B → Prop} {get : S → A} {put : A → S → S} {read : T → B}
    {set : B → T → T} {change : Change A α} {other : Change B α} {state : S} {twin : T}
    (runs : (change (get state)).Parallel part (other (read twin)))
    (puts : ∀ after next, part after next → related (put after state) (set next twin)) :
    (Change.onPart get put change state).Parallel related
      (Change.onPart read set other twin) :=
  ⟨runs.result, puts _ _ runs.state⟩

/-- Lists of parts change in parallel when the parts do. -/
theorem each {related : A → B → Prop} {change : Nat → Change A α} {other : Nat → Change B α}
    {members : List A} {twins : List B} (pairs : List.Forall₂ related members twins)
    (runs : ∀ index member twin, related member twin →
      (change index member).Parallel related (other index twin)) :
    (Change.each change members).Parallel (List.Forall₂ related) (Change.each other twins) := by
  suffices ∀ start, (Change.eachFrom change start members).Parallel (List.Forall₂ related)
      (Change.eachFrom other start twins) from this 0
  induction pairs with
  | nil => exact fun _ => ⟨rfl, .nil⟩
  | @cons member twin rest others pair _ induction =>
      intro start
      obtain ⟨result, here⟩ := runs start member twin pair
      obtain ⟨later, there⟩ := induction (start + 1)
      simp only [Change.eachFrom, result]
      cases (other start twin).result with
      | error error => exact ⟨rfl, .cons here ‹_›⟩
      | ok answer => exact ⟨later, .cons here there⟩

end Effect.Parallel

end Dispatch
