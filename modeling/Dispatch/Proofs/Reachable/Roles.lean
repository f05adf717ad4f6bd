import Dispatch.Proofs.Closure.Store
import Dispatch.Proofs.Reachable.Writing

namespace Dispatch

/-! The variables of a plant, told apart by what they are for, by generator and by instant. -/

variable {K : Type}

/-- What a variable of a generator is for. -/
inductive Role
  | power
  | commitment
  | primary
  | secondary
deriving DecidableEq, Repr

/-- The order in which the store has them. -/
def Role.rank : Role → Nat
  | .power => 0
  | .commitment => 1
  | .primary => 2
  | .secondary => 3

theorem Role.eq_of_rank {first second : Role} (same : first.rank = second.rank) :
    first = second := by
  cases first <;> cases second <;> first | rfl | cases same

namespace Plant

def grid (plant : Plant K) : Role → Grid
  | .power => plant.activePower
  | .commitment => plant.commitment
  | .primary => plant.primaryReserve
  | .secondary => plant.secondaryReserve

def var? (plant : Plant K) (role : Role) (generator instant : Nat) : Option VarRef :=
  plant.store.cell? (plant.grid role) generator instant

/-- The grid is empty, or has a place for every generator and instant within the stretch of
slots. -/
def Keeps (plant : Plant K) (grid : Grid) (start stop : Nat) : Prop :=
  grid.isEmpty = true ∨ grid.rows = plant.generators ∧ grid.cols = plant.horizon ∧
    start ≤ grid.first ∧ grid.first + grid.size ≤ stop

/-- The grids follow each other. -/
def Laid (plant : Plant K) : Prop :=
  ∃ marks : Nat → Nat, (∀ rank, marks rank ≤ marks (rank + 1)) ∧
    ∀ role : Role, plant.Keeps (plant.grid role) (marks role.rank) (marks (role.rank + 1))

variable {plant : Plant K} {generator generator' instant instant' : Nat}

theorem Keeps.slot {grid : Grid} {start stop : Nat} (keeps : plant.Keeps grid start stop)
    (generator_lt : generator < plant.generators) (instant_lt : instant < plant.horizon)
    {var : VarRef} (found : plant.store.cell? grid generator instant = some var) :
    var.slot = grid.first + (generator * plant.horizon + instant) ∧
      start ≤ var.slot ∧ var.slot < stop := by
  unfold Store.cell? at found
  split at found
  · cases found
  · rename_i occupied
    obtain ⟨rows, cols, first, last⟩ := keeps.resolve_left occupied
    cases found
    have within : generator * plant.horizon + instant < plant.generators * plant.horizon :=
      Family.index_lt generator_lt instant_lt
    have slot : (plant.store.cell grid generator instant).slot =
        grid.first + (generator * plant.horizon + instant) := by
      rw [← cols, ← Nat.add_assoc]
      rfl
    rw [Grid.size, rows, cols] at last
    exact ⟨slot, by omega, by omega⟩

/-- A variable is that of one role, one generator and one instant. -/
theorem Laid.var?_inj (laid : plant.Laid) {first second : Role}
    (generator_lt : generator < plant.generators) (instant_lt : instant < plant.horizon)
    (generator_lt' : generator' < plant.generators) (instant_lt' : instant' < plant.horizon)
    {var : VarRef} (one : plant.var? first generator instant = some var)
    (other : plant.var? second generator' instant' = some var) :
    first = second ∧ generator = generator' ∧ instant = instant' := by
  obtain ⟨marks, follow, keeps⟩ := laid
  have mono : Monotone marks := monotone_nat_of_le_succ follow
  obtain ⟨slot, start, stop⟩ := (keeps first).slot generator_lt instant_lt one
  obtain ⟨slot', start', stop'⟩ := (keeps second).slot generator_lt' instant_lt' other
  have ranks : first.rank = second.rank := by
    rcases Nat.lt_trichotomy first.rank second.rank with early | same | late
    · have apart : marks (first.rank + 1) ≤ marks second.rank := mono early
      omega
    · exact same
    · have apart : marks (second.rank + 1) ≤ marks first.rank := mono late
      omega
  obtain rfl := Role.eq_of_rank ranks
  have same : generator * plant.horizon + instant = generator' * plant.horizon + instant' := by
    omega
  exact ⟨rfl, Family.index_inj instant_lt instant_lt' same⟩

theorem Laid.congr {before after : Plant K} (laid : before.Laid)
    (frame : SameFrame before after) : after.Laid := by
  obtain ⟨marks, follow, keeps⟩ := laid
  refine ⟨marks, follow, fun role => ?_⟩
  have kept := keeps role
  unfold Keeps generators horizon at kept ⊢
  rw [frame.data]
  cases role with
  | power => simpa only [grid, frame.activePower] using kept
  | commitment => simpa only [grid, frame.commitment] using kept
  | primary => simpa only [grid, frame.primaryReserve] using kept
  | secondary => simpa only [grid, frame.secondaryReserve] using kept

theorem size_le_addGridIf (store : Store K) (wanted : Bool) (rows cols : Nat)
    (proto : Variable K) : store.size ≤ (addGridIf store wanted rows cols proto).1.size := by
  cases wanted with
  | false => exact Nat.le_refl _
  | true => exact (store.extends_extend rows cols proto).size

theorem keeps_addGridIf (plant : Plant K) (store : Store K) (wanted : Bool)
    (proto : Variable K) :
    let added := addGridIf store wanted plant.generators plant.horizon proto
    plant.Keeps added.2 store.size added.1.size := by
  cases wanted with
  | false => exact .inl rfl
  | true => exact .inr ⟨rfl, rfl, Nat.le_refl _, Nat.le_of_eq (store.size_extend _ _ _).symm⟩

theorem Laid.step (laid : plant.Laid) {target : Stage} {advance : Plant K → Plant K}
    (advances : (advance plant).Laid) : (Plant.step target advance plant).state.Laid :=
  step_preserves laid fun _ => advances

variable [Scalar K]

theorem laid_withVariables (plant : Plant K) : plant.withVariables.Laid := by
  let rows := plant.generators
  let cols := plant.horizon
  let first := plant.store.extend rows cols (Variable.nonNegative : Variable K)
  let second := addGridIf first plant.data.commitment rows cols (Variable.binary : Variable K)
  let third :=
    addGridIf second.1 plant.data.primaryReserve rows cols (Variable.nonNegative : Variable K)
  let last :=
    addGridIf third.1 plant.data.secondaryReserve rows cols (Variable.nonNegative : Variable K)
  let marks : Nat → Nat
    | 0 => plant.store.size
    | 1 => first.size
    | 2 => second.1.size
    | 3 => third.1.size
    | _ => last.1.size
  have start : first.size = plant.store.size + rows * cols := plant.store.size_extend _ _ _
  refine ⟨marks, fun rank => ?_, fun role => ?_⟩
  · match rank with
    | 0 => exact Nat.le_trans (Nat.le_add_right _ _) (Nat.le_of_eq start.symm)
    | 1 => exact size_le_addGridIf first _ rows cols _
    | 2 => exact size_le_addGridIf second.1 _ rows cols _
    | 3 => exact size_le_addGridIf third.1 _ rows cols _
    | _ + 4 => exact Nat.le_refl _
  · cases role with
    | power => exact .inr ⟨rfl, rfl, Nat.le_refl _, Nat.le_of_eq start.symm⟩
    | commitment => exact keeps_addGridIf plant first plant.data.commitment _
    | primary => exact keeps_addGridIf plant second.1 plant.data.primaryReserve _
    | secondary => exact keeps_addGridIf plant third.1 plant.data.secondaryReserve _

theorem Laid.perform (laid : plant.Laid) (operation : Operation K) :
    (operation.perform plant).Laid := by
  cases operation with
  | withSettings settings => exact laid
  | withNotifier notifier => exact laid
  | editStore edit => exact laid
  | generateVariables => exact laid.step (laid_withVariables plant)
  | generateConstraints => exact laid.step (laid.congr ⟨rfl, rfl, rfl, rfl, rfl⟩)
  | generateObjective => exact laid.step (laid.congr ⟨rfl, rfl, rfl, rfl, rfl⟩)
  | setScaleAt address values physical abstract =>
      obtain ⟨scale, objective, rest⟩ := rest_setScaleAt address values physical abstract plant
      rw [Operation.perform, rest]
      exact laid

theorem Arises.laid (arises : plant.Arises) : plant.Laid := by
  induction arises with
  | start initial =>
      cases initial
      refine ⟨fun _ => 0, fun _ => Nat.le_refl 0, fun role => ?_⟩
      cases role <;> exact .inl rfl
  | step _ operation _ laid => exact laid.perform operation

end Plant

end Dispatch
