import Dispatch.Network.Basic
import Dispatch.Proofs.Table

namespace Dispatch

/-! What a patch of a family leaves alone. A patch is described by the places that it may write
and by what it may make of an item there; patches of one description may follow each other. -/

variable {K α β : Type}

theorem foldl_related {related : α → α → Prop} (refl : ∀ state, related state state)
    (trans : ∀ first second third, related first second → related second third →
      related first third)
    {items : List β} {step : α → β → α}
    (relates : ∀ item ∈ items, ∀ state, related state (step state item)) (state : α) :
    related state (items.foldl step state) := by
  induction items generalizing state with
  | nil => exact refl state
  | cons item rest induction =>
      obtain ⟨here, later⟩ := List.forall_mem_cons.mp relates
      exact trans _ _ _ (here state) (induction later (step state item))

/-- At most the bounds are new. -/
def Row.Moved (before after : Row K) : Prop :=
  after.function = before.function

def Box.Moved (before after : Box K) : Prop :=
  after.var = before.var

/-- The same items, but for those at places that may be written. -/
structure Family.Patched (may : Nat → Nat → Prop) (moved : α → α → Prop)
    (before after : Family α) : Prop where
  name : after.name = before.name
  cols : after.cols = before.cols
  size : after.items.length = before.items.length
  items : ∀ (index : Nat) (item other : α), before.items[index]? = some item →
    after.items[index]? = some other →
      other = item ∨ may (index / before.cols) (index % before.cols) ∧ moved item other

namespace Family.Patched

variable {may : Nat → Nat → Prop} {moved : α → α → Prop} {first second third : Family α}

theorem refl (family : Family α) : family.Patched may moved family := by
  refine ⟨rfl, rfl, rfl, fun index item other found again => .inl ?_⟩
  rw [found] at again
  exact (Option.some.inj again).symm

theorem trans (transitive : ∀ first second third, moved first second → moved second third →
      moved first third) (early : first.Patched may moved second)
    (late : second.Patched may moved third) : first.Patched may moved third := by
  refine ⟨late.name.trans early.name, late.cols.trans early.cols, late.size.trans early.size,
    fun index item other found last => ?_⟩
  have within : index < second.items.length := by
    rw [early.size]
    exact (List.getElem?_eq_some_iff.mp found).1
  have middle := List.getElem?_eq_getElem within
  have begun := early.items index item _ found middle
  have ended := late.items index _ other middle last
  rw [early.cols] at ended
  rcases begun with same | ⟨here, once⟩
  · rwa [same] at ended
  · rcases ended with kept | ⟨-, twice⟩
    · exact .inr ⟨here, kept ▸ once⟩
    · exact .inr ⟨here, transitive _ _ _ once twice⟩

/-- Writing at one place, wherever that is. -/
theorem modify (family : Family α) {row col : Nat} {change : α → α}
    (here : col < family.cols → may row col) (moves : ∀ item, moved item (change item)) :
    family.Patched may moved (family.modify row col change) := by
  unfold Family.modify
  split
  · rename_i col_lt
    refine ⟨rfl, rfl, List.length_modify .., fun index item other found last => ?_⟩
    dsimp only at last
    rw [List.getElem?_modify, found] at last
    obtain rfl := Option.some.inj last
    dsimp only
    split
    · rename_i place
      rw [← place, Family.index_div row col_lt, Family.index_mod row col_lt]
      exact .inr ⟨here col_lt, moves item⟩
    · exact .inl rfl
  · exact refl family

theorem foldl (transitive : ∀ first second third, moved first second → moved second third →
      moved first third) {places : List β} {step : Family α → β → Family α}
    (steps : ∀ place ∈ places, ∀ family : Family α,
      family.Patched may moved (step family place))
    (family : Family α) : family.Patched may moved (places.foldl step family) :=
  foldl_related refl (fun _ _ _ => trans transitive) steps family

theorem imp {other : Nat → Nat → Prop} (implies : ∀ row col, may row col → other row col)
    (patched : first.Patched may moved second) : first.Patched other moved second :=
  ⟨patched.name, patched.cols, patched.size, fun index item next found last =>
    (patched.items index item next found last).imp_right fun ⟨here, moves⟩ =>
      ⟨implies _ _ here, moves⟩⟩

end Family.Patched

theorem Row.Moved.trans (first second third : Row K) (early : first.Moved second)
    (late : second.Moved third) : first.Moved third :=
  Eq.trans late early

theorem Box.Moved.trans (first second third : Box K) (early : first.Moved second)
    (late : second.Moved third) : first.Moved third :=
  Eq.trans late early

/-- Limits of the same kind, with bounds that are new at places that may be written. -/
inductive FlowLimits.Patched (may : Nat → Nat → Prop) : FlowLimits K → FlowLimits K → Prop
  | none : Patched may .none .none
  | hvdc {before after : Family (Box K)} (limits : before.Patched may Box.Moved after) :
      Patched may (.hvdc before) (.hvdc after)
  | ac {before after : Family (Row K)} (limits : before.Patched may Row.Moved after) :
      Patched may (.ac before) (.ac after)
  | hybrid {before after : Family (Row K)} (limits : before.Patched may Row.Moved after) :
      Patched may (.hybrid before) (.hybrid after)

namespace FlowLimits.Patched

variable {may : Nat → Nat → Prop} {first second third : FlowLimits K}

theorem refl (limits : FlowLimits K) : limits.Patched may limits := by
  cases limits with
  | none => exact .none
  | hvdc limits => exact .hvdc (.refl limits)
  | ac limits => exact .ac (.refl limits)
  | hybrid limits => exact .hybrid (.refl limits)

theorem trans (early : first.Patched may second) (late : second.Patched may third) :
    first.Patched may third := by
  cases early with
  | none => exact late
  | hvdc early =>
      cases late with
      | hvdc late => exact .hvdc (early.trans Box.Moved.trans late)
  | ac early =>
      cases late with
      | ac late => exact .ac (early.trans Row.Moved.trans late)
  | hybrid early =>
      cases late with
      | hybrid late => exact .hybrid (early.trans Row.Moved.trans late)

theorem setBounds (limits : FlowLimits K) {interval line : Nat} (here : may interval line)
    (lhs rhs : K) : limits.Patched may (limits.setBounds interval line lhs rhs) := by
  cases limits with
  | none => exact .none
  | hvdc limits => exact .hvdc (.modify limits (fun _ => here) fun _ => rfl)
  | ac limits => exact .ac (.modify limits (fun _ => here) fun _ => rfl)
  | hybrid limits => exact .hybrid (.modify limits (fun _ => here) fun _ => rfl)

theorem foldl {places : List β} {step : FlowLimits K → β → FlowLimits K}
    (steps : ∀ place ∈ places, ∀ limits : FlowLimits K, limits.Patched may (step limits place))
    (limits : FlowLimits K) : limits.Patched may (places.foldl step limits) :=
  foldl_related refl (fun _ _ _ => trans) steps limits

theorem kind (patched : first.Patched may second) : second.kind = first.kind := by
  cases patched <;> rfl

theorem imp {other : Nat → Nat → Prop} (implies : ∀ row col, may row col → other row col)
    (patched : first.Patched may second) : first.Patched other second := by
  cases patched with
  | none => exact .none
  | hvdc limits => exact .hvdc (limits.imp implies)
  | ac limits => exact .ac (limits.imp implies)
  | hybrid limits => exact .hybrid (limits.imp implies)

end FlowLimits.Patched

end Dispatch
