import Dispatch.Proofs.Reachable.Plants
import Dispatch.Proofs.Reachable.Roles

namespace Dispatch

/-! A plant whose variables got other values, and nothing else, since they were generated. Its
store has one variable for each role, generator and instant, with the bounds of the role, and its
families have the rows and boxes of each generator and instant. -/

variable {K : Type}

def Variable.cleared [Zero K] (decision : Variable K) : Variable K :=
  { decision with value := 0 }

namespace Store

variable {store : Store K} {entry : VarRef × Variable K} {grid : Grid} {rows cols : Nat}
  {proto : Variable K} {var : VarRef}

def cleared [Zero K] (store : Store K) : Store K :=
  { store with vars := store.vars.map Variable.cleared }

theorem mem_entries : entry ∈ store.entries ↔
    entry.1.block = store.block ∧ store.vars[entry.1.slot]? = some entry.2 := by
  constructor
  · intro member
    obtain ⟨slot, slot_lt, rfl⟩ := List.mem_mapIdx.mp member
    exact ⟨rfl, List.getElem?_eq_getElem slot_lt⟩
  · rintro ⟨block, found⟩
    obtain ⟨slot_lt, there⟩ := List.getElem?_eq_some_iff.mp found
    refine List.mem_mapIdx.mpr ⟨entry.1.slot, slot_lt, ?_⟩
    rw [there, ref, ← block]

theorem mem_entries_cleared [Zero K] : entry ∈ store.cleared.entries ↔
    ∃ decision, (entry.1, decision) ∈ store.entries ∧ decision.cleared = entry.2 := by
  simp only [mem_entries, cleared, List.getElem?_map, Option.map_eq_some_iff]
  constructor
  · rintro ⟨block, decision, found, same⟩
    exact ⟨decision, ⟨block, found⟩, same⟩
  · rintro ⟨decision, ⟨block, found⟩, same⟩
    exact ⟨block, decision, found, same⟩

theorem cleared_setValue [Zero K] (store : Store K) (slot : Nat) (value : K) :
    (store.setValue slot value).cleared = store.cleared := by
  have same : (store.vars.modify slot fun decision => { decision with value }).map
      Variable.cleared = store.vars.map Variable.cleared := by
    refine List.ext_getElem? fun place => ?_
    rw [List.getElem?_map, List.getElem?_map, List.getElem?_modify]
    cases store.vars[place]? with
    | none => rfl
    | some decision =>
        by_cases here : slot = place
        · simp [here, Variable.cleared]
        · simp [here]
  exact congrArg (Store.mk store.block) same

/-- The edit sets the value of one variable. -/
def Assigns (edit : Store K → Store K) : Prop :=
  ∃ slot value, edit = fun store => store.setValue slot value

theorem cell?_of_block {other : Store K} (same : other.block = store.block) (grid : Grid)
    (row col : Nat) : other.cell? grid row col = store.cell? grid row col := by
  unfold cell? cell ref
  rw [same]

/-- The cells of the next grid are the slots that it adds. -/
theorem cell?_nextGrid :
    (∃ row < rows, ∃ col < cols, store.cell? (store.nextGrid rows cols) row col = some var) ↔
      var.block = store.block ∧ store.size ≤ var.slot ∧
        var.slot < store.size + rows * cols := by
  constructor
  · rintro ⟨row, row_lt, col, col_lt, found⟩
    have within := Family.index_lt row_lt col_lt
    unfold cell? at found
    split at found
    · cases found
    · cases found
      have slot : (store.cell (store.nextGrid rows cols) row col).slot =
          store.size + row * cols + col := rfl
      exact ⟨rfl, by omega, by omega⟩
  · rintro ⟨block, start, stop⟩
    obtain ⟨place, slot⟩ := Nat.exists_eq_add_of_le start
    have within : place < rows * cols := by omega
    have positive : 0 < cols := Nat.pos_of_ne_zero fun none => by simp [none] at within
    have occupied : (store.nextGrid rows cols).isEmpty = false :=
      beq_false_of_ne (Nat.ne_of_gt (Nat.zero_lt_of_lt within))
    refine ⟨place / cols, Nat.div_lt_of_lt_mul (by rwa [Nat.mul_comm] at within),
      place % cols, Nat.mod_lt _ positive, ?_⟩
    rw [cell?, occupied, if_neg Bool.false_ne_true]
    have placed : store.size + place / cols * cols + place % cols = var.slot := by
      rw [slot, Nat.add_assoc, Nat.div_add_mod']
    exact congrArg some (congrArg₂ VarRef.mk block.symm placed)

theorem mem_entries_extend : entry ∈ (store.extend rows cols proto).entries ↔
    entry ∈ store.entries ∨ entry.2 = proto ∧ ∃ row < rows, ∃ col < cols,
      store.cell? (store.nextGrid rows cols) row col = some entry.1 := by
  rw [cell?_nextGrid, mem_entries, mem_entries]
  change entry.1.block = store.block ∧
    (store.vars ++ List.replicate (rows * cols) proto)[entry.1.slot]? = some entry.2 ↔ _
  rw [List.getElem?_append]
  by_cases old : entry.1.slot < store.vars.length
  · have early : ¬store.size ≤ entry.1.slot := Nat.not_le.mpr old
    simp [old, early]
  · have late : store.size ≤ entry.1.slot := Nat.not_lt.mp old
    have absent : store.vars[entry.1.slot]? = none := List.getElem?_eq_none late
    rw [if_neg old, List.getElem?_replicate, absent]
    simp only [reduceCtorEq, and_false, false_or, Option.ite_none_right_eq_some,
      Option.some.injEq, late, true_and]
    have stop : entry.1.slot - store.vars.length < rows * cols ↔
        entry.1.slot < store.size + rows * cols := by
      unfold size at late ⊢
      omega
    rw [stop]
    constructor
    · rintro ⟨block, within, same⟩
      exact ⟨same.symm, block, within⟩
    · rintro ⟨same, block, within⟩
      exact ⟨block, within, same.symm⟩

end Store

theorem Role.exists_iff {property : Role → Prop} : (∃ role, property role) ↔
    property .power ∨ property .commitment ∨ property .primary ∨ property .secondary := by
  constructor
  · rintro ⟨role, holds⟩
    cases role with
    | power => exact .inl holds
    | commitment => exact .inr (.inl holds)
    | primary => exact .inr (.inr (.inl holds))
    | secondary => exact .inr (.inr (.inr holds))
  · rintro (holds | holds | holds | holds)
    · exact ⟨_, holds⟩
    · exact ⟨_, holds⟩
    · exact ⟨_, holds⟩
    · exact ⟨_, holds⟩

def Role.proto [Scalar K] : Role → Variable K
  | .commitment => Variable.binary
  | _ => Variable.nonNegative

theorem Role.cleared_proto [Scalar K] (role : Role) :
    (role.proto : Variable K).cleared = role.proto := by
  cases role <;> rfl

def PlantData.has (data : PlantData K) : Role → Bool
  | .power => true
  | .commitment => data.commitment
  | .primary => data.primaryReserve
  | .secondary => data.secondaryReserve

namespace Plant

variable [Scalar K] {plant : Plant K} {entry : VarRef × Variable K} {generator instant : Nat}

/-- The reference is that of a variable of the role. -/
def Names (plant : Plant K) (role : Role) (var : VarRef) : Prop :=
  ∃ generator < plant.generators, ∃ instant < plant.horizon,
    plant.var? role generator instant = some var

omit [Scalar K] in
theorem mem_entries_addGridIf {home store : Store K} (same : store.block = home.block)
    (wanted : Bool) (rows cols : Nat) (proto : Variable K) :
    let added := addGridIf store wanted rows cols proto
    added.1.block = home.block ∧
      (entry ∈ added.1.entries ↔ entry ∈ store.entries ∨ entry.2 = proto ∧
        ∃ row < rows, ∃ col < cols, home.cell? added.2 row col = some entry.1) := by
  cases wanted with
  | false =>
      refine ⟨same, .inl, ?_⟩
      rintro (old | ⟨-, row, -, col, -, found⟩)
      · exact old
      · cases found
  | true =>
      refine ⟨same, Store.mem_entries_extend.trans ?_⟩
      simp only [Store.cell?_of_block same]
      rfl

/-- Generating variables adds those of each role. -/
theorem mem_entries_withVariables (plant : Plant K) :
    entry ∈ plant.withVariables.store.entries ↔ entry ∈ plant.store.entries ∨
      ∃ role : Role, entry.2 = role.proto ∧ plant.withVariables.Names role entry.1 := by
  let rows := plant.generators
  let cols := plant.horizon
  let first := plant.store.extend rows cols (Variable.nonNegative : Variable K)
  have power : entry ∈ first.entries ↔ _ := Store.mem_entries_extend
  obtain ⟨second_block, commitment⟩ := mem_entries_addGridIf
    (show first.block = plant.store.block from rfl) plant.data.commitment rows cols Variable.binary
  obtain ⟨third_block, primary⟩ := mem_entries_addGridIf second_block
    plant.data.primaryReserve rows cols Variable.nonNegative
  obtain ⟨block, secondary⟩ := mem_entries_addGridIf third_block
    plant.data.secondaryReserve rows cols Variable.nonNegative
  have named (role : Role) : plant.withVariables.Names role entry.1 ↔
      ∃ row < rows, ∃ col < cols,
        plant.store.cell? (plant.withVariables.grid role) row col = some entry.1 := by
    unfold Names var?
    simp only [Store.cell?_of_block (show plant.withVariables.store.block = _ from block)]
    rfl
  rw [Role.exists_iff, named, named, named, named]
  refine secondary.trans ?_
  rw [primary, commitment, power, or_assoc, or_assoc, or_assoc]
  rfl

omit [Scalar K] in
theorem isSome_cell? (store : Store K) (grid : Grid) (row col : Nat) :
    (store.cell? grid row col).isSome = !grid.isEmpty := by
  unfold Store.cell?
  cases grid.isEmpty <;> rfl

omit [Scalar K] in
theorem isEmpty_addGridIf (store : Store K) (wanted : Bool) {rows cols : Nat}
    (positive : 0 < rows * cols) (proto : Variable K) :
    (addGridIf store wanted rows cols proto).2.isEmpty = !wanted := by
  cases wanted with
  | false => rfl
  | true => exact beq_false_of_ne (Nat.ne_of_gt positive)

theorem isSome_var?_withVariables (plant : Plant K) (generator_lt : generator < plant.generators)
    (instant_lt : instant < plant.horizon) (role : Role) :
    (plant.withVariables.var? role generator instant).isSome = plant.data.has role := by
  have positive : 0 < plant.generators * plant.horizon :=
    Nat.mul_pos (Nat.zero_lt_of_lt generator_lt) (Nat.zero_lt_of_lt instant_lt)
  rw [var?, isSome_cell?, Bool.not_eq_eq_eq_not]
  cases role with
  | power => exact beq_false_of_ne (Nat.ne_of_gt positive)
  | commitment => exact isEmpty_addGridIf _ _ positive _
  | primary => exact isEmpty_addGridIf _ _ positive _
  | secondary => exact isEmpty_addGridIf _ _ positive _

/-- The variables are those of the roles, whatever their values, and the families are complete. -/
structure Furnished (plant : Plant K) : Prop where
  bare : plant.stage.hasVariables = false → plant.store.vars = []
  stocked : plant.stage.hasVariables = true → ∀ entry : VarRef × Variable K,
    entry ∈ plant.store.cleared.entries ↔
      ∃ role : Role, entry.2 = role.proto ∧ plant.Names role entry.1
  present : plant.stage.hasVariables = true → ∀ generator < plant.generators,
    ∀ instant < plant.horizon, ∀ role : Role,
      (plant.var? role generator instant).isSome = plant.data.has role
  boxes : plant.stage.hasConstraints = true →
    plant.powerBounds.items = plant.collect plant.powerBox?
  minRows : plant.stage.hasConstraints = true →
    plant.minPowerRows.items = plant.collect plant.minPowerRow?
  maxRows : plant.stage.hasConstraints = true →
    plant.maxPowerRows.items = plant.collect plant.maxPowerRow?

theorem furnished_withVariables (bare : plant.store.vars = []) :
    plant.withVariables.Furnished where
  bare late := by cases late
  stocked _ entry := by
    have fresh : plant.store.entries = [] := by
      rw [Store.entries, bare]
      rfl
    rw [Store.mem_entries_cleared]
    simp only [mem_entries_withVariables, fresh, List.not_mem_nil, false_or]
    constructor
    · rintro ⟨decision, ⟨role, proto, names⟩, same⟩
      refine ⟨role, ?_, names⟩
      rw [← same, show decision = role.proto from proto]
      exact role.cleared_proto
    · rintro ⟨role, proto, names⟩
      exact ⟨entry.2, ⟨role, proto, names⟩, proto ▸ role.cleared_proto⟩
  present _ _ generator_lt _ instant_lt := plant.isSome_var?_withVariables generator_lt instant_lt
  boxes late := by cases late
  minRows late := by cases late
  maxRows late := by cases late

theorem Furnished.withConstraints (furnished : plant.Furnished)
    (reached : plant.stage.hasVariables = true) : plant.withConstraints.Furnished where
  bare early := by cases early
  stocked _ := furnished.stocked reached
  present _ := furnished.present reached
  boxes _ := rfl
  minRows _ := rfl
  maxRows _ := rfl

theorem Furnished.withObjective (furnished : plant.Furnished)
    (late : plant.stage.hasConstraints = true) : plant.withObjective.Furnished where
  bare early := by cases early
  stocked _ := furnished.stocked (Stage.hasVariables_of_late late)
  present _ := furnished.present (Stage.hasVariables_of_late late)
  boxes _ := furnished.boxes late
  minRows _ := furnished.minRows late
  maxRows _ := furnished.maxRows late

theorem Furnished.setValue (furnished : plant.Furnished) (slot : Nat) (value : K) :
    ({ plant with store := plant.store.setValue slot value } : Plant K).Furnished where
  bare early := by
    change plant.store.vars.modify slot _ = []
    rw [furnished.bare early, List.modify_nil]
  stocked reached entry := by
    rw [Store.cleared_setValue]
    exact furnished.stocked reached entry
  present := furnished.present
  boxes := furnished.boxes
  minRows := furnished.minRows
  maxRows := furnished.maxRows

theorem Furnished.step (furnished : plant.Furnished) {target : Stage}
    {advance : Plant K → Plant K}
    (advances : plant.stage.enter target = .ok .run → (advance plant).Furnished) :
    (Plant.step target advance plant).state.Furnished :=
  step_preserves furnished advances

theorem Furnished.generateVariables (furnished : plant.Furnished) :
    (Plant.generateVariables plant).state.Furnished :=
  furnished.step fun entered => furnished_withVariables
    (furnished.bare (by rw [Stage.enter_vars entered]; rfl))

theorem Furnished.generateConstraints (furnished : plant.Furnished) :
    (Plant.generateConstraints plant).state.Furnished :=
  furnished.step fun entered =>
    furnished.withConstraints (by rw [Stage.enter_constraints entered]; rfl)

theorem Furnished.generateObjective (furnished : plant.Furnished) :
    (Plant.generateObjective plant).state.Furnished :=
  furnished.step fun entered =>
    furnished.withObjective (by rw [Stage.enter_objective entered]; rfl)

theorem Furnished.setScaleAt (furnished : plant.Furnished) (address : Address) (values : List K)
    (physical abstract : Mode) :
    (Plant.setScaleAt address values physical abstract plant).state.Furnished := by
  obtain ⟨scale, objective, rest⟩ := rest_setScaleAt address values physical abstract plant
  rw [rest]
  exact { furnished with }

theorem Initial.furnished (initial : plant.Initial) : plant.Furnished := by
  cases initial with
  | ofData id shaped scale layouts =>
      exact {
        bare := fun _ => rfl
        stocked := nofun
        present := nofun
        boxes := nofun
        minRows := nofun
        maxRows := nofun }

theorem Furnished.perform (furnished : plant.Furnished) {operation : Operation K}
    (edits : operation.Edits Store.Assigns) : (operation.perform plant).Furnished := by
  cases operation with
  | withSettings settings => exact { furnished with }
  | withNotifier notifier => exact { furnished with }
  | editStore edit =>
      obtain ⟨slot, value, rfl⟩ := edits
      exact furnished.setValue slot value
  | generateVariables => exact furnished.generateVariables
  | generateConstraints => exact furnished.generateConstraints
  | generateObjective => exact furnished.generateObjective
  | setScaleAt address values physical abstract =>
      exact furnished.setScaleAt address values physical abstract

omit [Scalar K] in
theorem Operation.Edits.mono {edits others : (Store K → Store K) → Prop}
    (includes : ∀ edit, edits edit → others edit) {operation : Operation K}
    (edited : operation.Edits edits) : operation.Edits others := by
  cases operation with
  | editStore edit => exact includes edit edited
  | _ => trivial

theorem Furnished.lasting : Lasting (Furnished : Plant K → Prop) :=
  fun furnished _ untouched => furnished.perform (untouched.mono fun _ => False.elim)

/-- As `Arises`, but of the variables only values are ever changed. -/
def Formed : Plant K → Prop :=
  Reached Initial Operation.perform (Operation.Edits Store.Assigns)

theorem Formed.furnished (formed : plant.Formed) : plant.Furnished := by
  induction formed with
  | start initial => exact initial.furnished
  | step _ _ edits furnished => exact furnished.perform edits

theorem Formed.arises (formed : plant.Formed) : plant.Arises :=
  formed.mono (fun _ initial => .start initial) fun _ _ => trivial

end Plant

namespace Schedule

variable [Scalar K] {schedule : Schedule K} {allowed : Mode → Prop}

/-- As `Arises`, of plants that were formed before they were added. -/
def Formed (allowed : Mode → Prop) : Schedule K → Prop :=
  Reached Initial Operation.perform (Operation.Within Plant.Formed allowed)

theorem Formed.arises (formed : schedule.Formed allowed) : schedule.Arises allowed :=
  formed.mono (fun _ initial => .start initial) fun _ within =>
    within.mono (fun _ plant => plant.arises) fun _ permitted => permitted

theorem Formed.furnished (formed : schedule.Formed allowed) :
    schedule.EachPlant Plant.Furnished := by
  induction formed with
  | start initial => exact initial.eachPlant
  | step formed operation within each =>
      exact each.perform Plant.Furnished.lasting (Formed.arises formed).sound
        (within.mono (fun _ plant => plant.furnished) fun _ permitted => permitted)

end Schedule

end Dispatch
