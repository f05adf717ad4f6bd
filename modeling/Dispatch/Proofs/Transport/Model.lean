import Dispatch.Proofs.Transport.Schedule

namespace Dispatch

/-! What blocks that meet show of their representations. -/

variable {K L M : Type}

def Constraint.map [Scalar K] [Scalar L] (constraint : Constraint K) (transport : Transport K L) :
    Constraint L :=
  match constraint with
  | .row item => .row (item.map transport)
  | .box item => .box (item.map transport)

def Entry.map [Scalar K] [Scalar L] (entry : Entry K) (transport : Transport K L) : Entry L :=
  ⟨entry.family, entry.index, entry.constraint.map transport⟩

section Carried

variable [Scalar K] [Scalar L] (transport : Transport K L)

theorem Family.entries_map {α β : Type} [IsConstraint α K] [IsConstraint β L]
    (family : Family α) {change : α → β}
    (carried : ∀ item, IsConstraint.toConstraint (change item) =
      (IsConstraint.toConstraint item : Constraint K).map transport) :
    (family.map change).entries = family.entries.map fun entry => entry.map transport := by
  apply List.ext_getElem?
  intro place
  simp only [Family.entries, Family.map, List.getElem?_mapIdx, List.getElem?_map, Option.map_map]
  refine congrArg (Option.map · family.items[place]?) (funext fun item => ?_)
  simp only [Function.comp_apply, carried, Entry.map]

theorem Family.rowEntries_map (family : Family (Row K)) :
    (family.map fun row => row.map transport).entries =
      family.entries.map fun entry => entry.map transport :=
  family.entries_map transport fun _ => rfl

theorem Family.boxEntries_map (family : Family (Box K)) :
    (family.map fun box => box.map transport).entries =
      family.entries.map fun entry => entry.map transport :=
  family.entries_map transport fun _ => rfl

theorem FlowLimits.entries_map (limits : FlowLimits K) :
    (limits.map transport).entries = limits.entries.map fun entry => entry.map transport := by
  cases limits with
  | none => rfl
  | hvdc limits => exact limits.boxEntries_map transport
  | ac limits => exact limits.rowEntries_map transport
  | hybrid limits => exact limits.rowEntries_map transport

theorem NetworkRows.entries_map (rows : NetworkRows K) :
    (rows.map transport).entries = rows.entries.map fun entry => entry.map transport := by
  simp only [NetworkRows.entries, NetworkRows.map, List.map_append, FlowLimits.entries_map,
    Family.rowEntries_map, Family.boxEntries_map]

theorem Store.entries_map (store : Store K) :
    (store.map transport).entries =
      store.entries.map fun entry => (transport.var entry.1, entry.2.map transport) := by
  apply List.ext_getElem?
  intro slot
  simp only [Store.entries, Store.map, List.getElem?_mapIdx, List.getElem?_map, Option.map_map]
  rfl

end Carried

variable [Scalar K] [Scalar L] [Scalar M] {left : Transport K L} {right : Transport M L}

/-- Carried over, the two models have the same variables, the same rows and bounds with the same
terms, and the same objectives. -/
structure Model.Meets (left : Transport K L) (right : Transport M L) (first : Model K)
    (second : Model M) : Prop where
  kind : first.kind = second.kind
  stage : first.stage = second.stage
  vars : (first.vars.map fun entry => (left.var entry.1, entry.2.map left)) =
    second.vars.map fun entry => (right.var entry.1, entry.2.map right)
  constraints : (first.constraints.map fun entry => entry.map left) =
    second.constraints.map fun entry => entry.map right
  objectives : (first.objectives.map fun objective => objective.map left) =
    second.objectives.map fun objective => objective.map right

theorem map_toList_congr {α β γ : Type} {option : Option α} {other : Option β} {carry : α → γ}
    {bring : β → γ} (same : option.map carry = other.map bring) :
    option.toList.map carry = other.toList.map bring := by
  have lists := congrArg Option.toList same
  rwa [Option.toList_map, Option.toList_map] at lists

theorem map_flatMap_congr {α β γ δ ε : Type} {related : α → β → Prop} {members : List α}
    {twins : List β} (pairs : List.Forall₂ related members twins) {view : α → List γ}
    {other : β → List δ} {carry : γ → ε} {bring : δ → ε}
    (same : ∀ member twin, related member twin →
      (view member).map carry = (other twin).map bring) :
    (members.flatMap view).map carry = (twins.flatMap other).map bring := by
  induction pairs with
  | nil => rfl
  | cons pair _ induction =>
      rw [List.flatMap_cons, List.flatMap_cons, List.map_append, List.map_append, same _ _ pair,
        induction]

theorem Store.entries_meet {first : Store K} {second : Store M}
    (same : first.map left = second.map right) :
    (first.entries.map fun entry => (left.var entry.1, entry.2.map left)) =
      second.entries.map fun entry => (right.var entry.1, entry.2.map right) := by
  rw [← Store.entries_map, ← Store.entries_map, same]

theorem Family.rowEntries_meet {first : Family (Row K)} {second : Family (Row M)}
    (same : first.map (fun row => row.map left) = second.map fun row => row.map right) :
    (first.entries.map fun entry => entry.map left) =
      second.entries.map fun entry => entry.map right := by
  rw [← Family.rowEntries_map, ← Family.rowEntries_map, same]

theorem Family.boxEntries_meet {first : Family (Box K)} {second : Family (Box M)}
    (same : first.map (fun box => box.map left) = second.map fun box => box.map right) :
    (first.entries.map fun entry => entry.map left) =
      second.entries.map fun entry => entry.map right := by
  rw [← Family.boxEntries_map, ← Family.boxEntries_map, same]

theorem Plant.Meets.model {first : Plant K} {second : Plant M}
    (meets : first.Meets left right second) : first.model.Meets left right second.model where
  kind := rfl
  stage := meets.stage
  vars := Store.entries_meet meets.store
  constraints := by
    simp only [Plant.model, List.map_append, Family.boxEntries_meet meets.powerBounds,
      Family.rowEntries_meet meets.minPowerRows, Family.rowEntries_meet meets.maxPowerRows]
  objectives := map_toList_congr meets.objective

theorem Network.Meets.model {first : Network K} {second : Network M}
    (meets : first.Meets left right second) : first.model.Meets left right second.model where
  kind := rfl
  stage := meets.stage
  vars := Store.entries_meet (Congruent.store meets)
  constraints := by
    have rows : first.rows.map left = second.rows.map right := Congruent.rows meets
    simp only [Network.model]
    rw [← NetworkRows.entries_map, ← NetworkRows.entries_map, rows]
  objectives := map_toList_congr (Congruent.objective meets)

theorem Schedule.Meets.model {first : Schedule K} {second : Schedule M}
    (meets : first.Meets left right second) : first.model.Meets left right second.model where
  kind := rfl
  stage := meets.stage
  vars := by
    simp only [Schedule.model, List.map_append]
    rw [map_flatMap_congr meets.plants fun _ _ pair => pair.model.vars,
      map_flatMap_congr meets.networks fun _ _ pair => pair.model.vars]
  constraints := by
    have linked : ((first.links.flatMap fun link => link.rows.entries).map
          fun entry => entry.map left) =
        (second.links.flatMap fun link => link.rows.entries).map fun entry => entry.map right := by
      have carried {K : Type} [Scalar K] (transport : Transport K L) (links : List (Link K)) :
          ((links.flatMap fun link => link.rows.entries).map fun entry => entry.map transport) =
            (links.map fun link => link.map transport).flatMap fun link => link.rows.entries := by
        rw [List.map_flatMap, List.flatMap_map]
        exact List.flatMap_congr fun link _ => (link.rows.rowEntries_map transport).symm
      rw [carried, carried, meets.links]
    simp only [Schedule.model, List.map_append, linked]
    rw [map_flatMap_congr meets.plants fun _ _ pair => pair.model.constraints,
      map_flatMap_congr meets.networks fun _ _ pair => pair.model.constraints]
  objectives := by
    simp only [Schedule.model, List.map_append, map_toList_congr meets.objective]
    rw [map_flatMap_congr meets.plants fun _ _ pair => pair.model.objectives,
      map_flatMap_congr meets.networks fun _ _ pair => pair.model.objectives]

end Dispatch
