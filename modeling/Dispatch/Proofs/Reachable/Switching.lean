import Dispatch.Proofs.Reachable.Flows
import Dispatch.Proofs.Reachable.Furnished
import Dispatch.Proofs.Schedule.Supply

namespace Dispatch

/-! What the variables and rows of a plant allow, generator by generator and instant by instant.
Without commitment a generator runs within its limits. With commitment it does so while it is on,
and while it is off its rows leave it nothing: power and reserves are not negative, and have no
capacity. -/

variable {values others : VarRef → ℚ}

theorem Bounds.holds_number {low high value : ℚ} :
    (Bounds.mk (Exact.number low) (.number high)).Holds (.number value) ↔
      low ≤ value ∧ value ≤ high := by
  rw [Holds, Exact.atMost_number, Exact.atMost_number, decide_eq_true_iff, decide_eq_true_iff]

theorem Bounds.holds_least {value : ℚ} :
    (Bounds.mk (0 : Exact) Scalar.infinity).Holds (.number value) ↔ 0 ≤ value :=
  ⟨fun holds => of_decide_eq_true ((Exact.atMost_number 0 value).symm.trans holds.1),
    fun positive => ⟨(Exact.atMost_number 0 value).trans (decide_eq_true positive), rfl⟩⟩

theorem Bounds.holds_most {high value : ℚ} :
    (Bounds.mk (-Scalar.infinity) (Exact.number high)).Holds (.number value) ↔ value ≤ high :=
  ⟨fun holds => of_decide_eq_true ((Exact.atMost_number value high).symm.trans holds.2),
    fun below => ⟨rfl, (Exact.atMost_number value high).trans (decide_eq_true below)⟩⟩

def Variable.Takes (decision : Variable Exact) (value : ℚ) : Prop :=
  (Bounds.mk decision.lower decision.upper).Holds (.number value) ∧
    (decision.kind = .binary → value = 0 ∨ value = 1)

/-- The level of the constraint lies between its bounds. -/
def Constraint.KeptBy (values : VarRef → ℚ) (constraint : Constraint Exact) : Prop :=
  ∃ level, constraint.level (assigned values) = .ok level ∧ constraint.bounds.Holds level

theorem Box.keptBy {box : Box Exact} : (Constraint.box box).KeptBy values ↔
    (Bounds.mk box.lhs box.rhs).Holds (.number (values box.var)) := by
  constructor
  · rintro ⟨level, found, holds⟩
    cases found
    exact holds
  · exact fun holds => ⟨_, rfl, holds⟩

/-- The values are ones that the variables of the model may have, and its constraints keep. -/
structure Model.KeptBy (values : VarRef → ℚ) (model : Model Exact) : Prop where
  vars : ∀ entry ∈ model.vars, entry.2.Takes (values entry.1)
  constraints : ∀ entry ∈ model.constraints, entry.constraint.KeptBy values

instance (bounds : Bounds Exact) (value : Exact) : Decidable (bounds.Holds value) :=
  inferInstanceAs (Decidable (_ ∧ _))

instance (decision : Variable Exact) (value : ℚ) : Decidable (decision.Takes value) :=
  inferInstanceAs (Decidable (_ ∧ _))

instance (constraint : Constraint Exact) : Decidable (constraint.KeptBy values) :=
  match found : constraint.level (assigned values) with
  | .ok level => decidable_of_iff (constraint.bounds.Holds level)
      ⟨fun holds => ⟨level, found, holds⟩, fun ⟨_, same, holds⟩ => by
        rw [found] at same
        cases same
        exact holds⟩
  | .error _ => isFalse fun ⟨_, same, _⟩ => by
      rw [found] at same
      cases same

instance (model : Model Exact) : Decidable (model.KeptBy values) :=
  decidable_of_iff ((∀ entry ∈ model.vars, entry.2.Takes (values entry.1)) ∧
    ∀ entry ∈ model.constraints, entry.constraint.KeptBy values)
    ⟨fun ⟨vars, constraints⟩ => ⟨vars, constraints⟩, fun kept => ⟨kept.vars, kept.constraints⟩⟩

theorem Family.forall_entries {α : Type} [IsConstraint α Exact] (family : Family α) :
    (∀ entry ∈ family.entries, entry.constraint.KeptBy values) ↔
      ∀ item ∈ family.items, (IsConstraint.toConstraint item).KeptBy values := by
  constructor
  · intro kept item member
    obtain ⟨place, place_lt, rfl⟩ := List.mem_iff_getElem.mp member
    exact kept _ (List.mem_mapIdx.mpr ⟨place, place_lt, rfl⟩)
  · intro kept entry member
    obtain ⟨place, place_lt, rfl⟩ := List.mem_mapIdx.mp member
    exact kept _ (List.getElem_mem place_lt)

abbrev Setpoint := Role → ℚ

/-- Power and reserves together. -/
def Setpoint.total (setpoint : Setpoint) : ℚ :=
  setpoint .power + setpoint .primary + setpoint .secondary

/-- The generator runs within its limits, and its reserves are part of them. -/
structure Setpoint.Runs (setpoint : Setpoint) (low high : ℚ) : Prop where
  power : 0 ≤ setpoint .power
  primary : 0 ≤ setpoint .primary
  secondary : 0 ≤ setpoint .secondary
  least : low ≤ setpoint .power
  most : setpoint.total ≤ high

theorem Role.takes_proto {role : Role} {value : ℚ} : (role.proto : Variable Exact).Takes value ↔
    if role = .commitment then value = 0 ∨ value = 1 else 0 ≤ value := by
  have zero : Scalar.atMost (Variable.lower (role.proto : Variable Exact)) (.number value) =
      decide (0 ≤ value) := by
    cases role <;> exact Exact.atMost_number 0 value
  cases role with
  | commitment =>
      rw [if_pos rfl]
      refine ⟨fun takes => takes.2 rfl, fun whole => ⟨⟨?_, ?_⟩, fun _ => whole⟩⟩
      · rw [zero]
        rcases whole with rfl | rfl <;> decide
      · refine (Exact.atMost_number value 1).trans ?_
        rcases whole with rfl | rfl <;> decide
  | _ =>
      rw [if_neg (by decide)]
      refine ⟨fun takes => of_decide_eq_true (zero ▸ takes.1.1), fun positive => ⟨⟨?_, rfl⟩, nofun⟩⟩
      rw [zero]
      exact decide_eq_true positive

/-- The variables may have what they are set to. -/
def Setpoint.Taken (setpoint : Setpoint) : Prop :=
  ∀ role : Role, (role.proto : Variable Exact).Takes (setpoint role)

namespace Setpoint

variable {setpoint other : Setpoint} {low high : ℚ}

theorem taken_iff : setpoint.Taken ↔ (setpoint .commitment = 0 ∨ setpoint .commitment = 1) ∧
    0 ≤ setpoint .power ∧ 0 ≤ setpoint .primary ∧ 0 ≤ setpoint .secondary := by
  constructor
  · exact fun taken => ⟨Role.takes_proto.mp (taken .commitment),
      Role.takes_proto.mp (taken .power), Role.takes_proto.mp (taken .primary),
      Role.takes_proto.mp (taken .secondary)⟩
  · rintro ⟨commitment, power, primary, secondary⟩ role
    refine Role.takes_proto.mpr ?_
    cases role with
    | commitment => exact commitment
    | power => exact power
    | primary => exact primary
    | secondary => exact secondary

theorem Runs.congr (runs : setpoint.Runs low high)
    (same : ∀ role, role ≠ .commitment → other role = setpoint role) : other.Runs low high := by
  have power := same .power (by decide)
  have primary := same .primary (by decide)
  have secondary := same .secondary (by decide)
  refine ⟨power ▸ runs.power, primary ▸ runs.primary, secondary ▸ runs.secondary,
    power ▸ runs.least, ?_⟩
  rw [total, power, primary, secondary]
  exact runs.most

theorem Runs.power_le (runs : setpoint.Runs low high) : setpoint .power ≤ high := by
  have most := runs.most
  unfold total at most
  linarith [runs.primary, runs.secondary]

/-- A box for the power and a row for all of the capacity, which may be left out where there are
no reserves. -/
theorem runs_iff {reserves : Bool} (commitment : setpoint .commitment = 0)
    (none : reserves = false → setpoint .primary = 0 ∧ setpoint .secondary = 0) :
    setpoint.Runs low high ↔ setpoint.Taken ∧ (low ≤ setpoint .power ∧ setpoint .power ≤ high) ∧
      (reserves = true → setpoint.total ≤ high) := by
  rw [taken_iff]
  constructor
  · intro runs
    exact ⟨⟨.inl commitment, runs.power, runs.primary, runs.secondary⟩,
      ⟨runs.least, runs.power_le⟩, fun _ => runs.most⟩
  · rintro ⟨⟨-, power, primary, secondary⟩, ⟨least, within⟩, most⟩
    refine ⟨power, primary, secondary, least, ?_⟩
    cases reserves with
    | true => exact most rfl
    | false =>
        obtain ⟨first, second⟩ := none rfl
        rwa [total, first, second, add_zero, add_zero]

/-- Two rows that the commitment switches: where it is zero they leave no power and no reserves,
because none of these is negative. -/
theorem switched_iff : setpoint.Taken ∧ 0 ≤ setpoint .power + -low * setpoint .commitment ∧
      setpoint.total + -high * setpoint .commitment ≤ 0 ↔
    setpoint = 0 ∨ setpoint .commitment = 1 ∧ setpoint.Runs low high := by
  rw [taken_iff]
  constructor
  · rintro ⟨⟨off | on, power, primary, secondary⟩, least, most⟩
    · rw [off, mul_zero, add_zero, total] at most
      refine .inl (funext fun role => ?_)
      cases role with
      | commitment => exact off
      | power => exact show setpoint .power = 0 from le_antisymm (by linarith) power
      | primary => exact show setpoint .primary = 0 from le_antisymm (by linarith) primary
      | secondary => exact show setpoint .secondary = 0 from le_antisymm (by linarith) secondary
    · rw [on, mul_one] at least most
      exact .inr ⟨on, power, primary, secondary, by linarith, by linarith⟩
  · rintro (off | ⟨on, runs⟩)
    · rw [off]
      simp [total]
    · rw [on, mul_one, mul_one]
      exact ⟨⟨.inr rfl, runs.power, runs.primary, runs.secondary⟩, by linarith [runs.least],
        by linarith [runs.most]⟩

end Setpoint

namespace Plant

variable {plant free : Plant Exact} {generator instant : Nat}

def setpoint (plant : Plant Exact) (values : VarRef → ℚ) (generator instant : Nat) : Setpoint :=
  fun role => reading values (plant.var? role generator instant)

/-- The variables, boxes and rows of one generator in one instant. -/
structure KeptAt (plant : Plant Exact) (values : VarRef → ℚ) (generator instant : Nat) :
    Prop where
  taken : (plant.setpoint values generator instant).Taken
  box : ∀ box, plant.powerBox? generator instant = some box → (Constraint.box box).KeptBy values
  minRow : ∀ row, plant.minPowerRow? generator instant = some row → row.Kept values
  maxRow : ∀ row, plant.maxPowerRow? generator instant = some row → row.Kept values

theorem forall_mem_collect {α : Type} {item? : Nat → Nat → Option α} {kept : α → Prop} :
    (∀ item ∈ plant.collect item?, kept item) ↔ ∀ generator < plant.generators,
      ∀ instant < plant.horizon, ∀ item, item? generator instant = some item → kept item := by
  constructor
  · intro all generator generator_lt instant instant_lt item found
    exact all item (List.mem_filterMap.mpr
      ⟨(generator, instant), PlantData.mem_cells.mpr ⟨generator_lt, instant_lt⟩, found⟩)
  · intro all item member
    obtain ⟨⟨generator, instant⟩, cell, found⟩ := List.mem_filterMap.mp member
    obtain ⟨generator_lt, instant_lt⟩ := PlantData.mem_cells.mp cell
    exact all generator generator_lt instant instant_lt item found

theorem Furnished.forall_vars (furnished : plant.Furnished)
    (reached : plant.stage.hasVariables = true) :
    (∀ entry ∈ plant.store.entries, entry.2.Takes (values entry.1)) ↔
      ∀ generator < plant.generators, ∀ instant < plant.horizon,
        (plant.setpoint values generator instant).Taken := by
  constructor
  · intro takes generator generator_lt instant instant_lt role
    unfold setpoint
    cases found : plant.var? role generator instant with
    | none => exact Role.takes_proto.mpr (by split <;> simp [reading])
    | some var =>
        have listed : (var, role.proto) ∈ plant.store.cleared.entries :=
          (furnished.stocked reached _).mpr
            ⟨role, rfl, generator, generator_lt, instant, instant_lt, found⟩
        obtain ⟨decision, member, same⟩ := Store.mem_entries_cleared.mp listed
        rw [show role.proto = decision.cleared from same.symm]
        exact takes _ member
  · intro takes entry member
    have listed : (entry.1, entry.2.cleared) ∈ plant.store.cleared.entries :=
      Store.mem_entries_cleared.mpr ⟨entry.2, member, rfl⟩
    obtain ⟨role, proto, generator, generator_lt, instant, instant_lt, found⟩ :=
      (furnished.stocked reached _).mp listed
    have taken := takes generator generator_lt instant instant_lt role
    rw [setpoint, found, show role.proto = entry.2.cleared from proto.symm] at taken
    exact taken

/-- A plant allows what each generator allows in each instant. -/
theorem Furnished.keptBy_iff (furnished : plant.Furnished)
    (late : plant.stage.hasConstraints = true) : plant.model.KeptBy values ↔
      ∀ generator < plant.generators, ∀ instant < plant.horizon,
        plant.KeptAt values generator instant := by
  have reached := Stage.hasVariables_of_late late
  have boxes : (∀ entry ∈ plant.powerBounds.entries, entry.constraint.KeptBy values) ↔ _ :=
    (Family.forall_entries _).trans (furnished.boxes late ▸ forall_mem_collect)
  have minRows : (∀ entry ∈ plant.minPowerRows.entries, entry.constraint.KeptBy values) ↔ _ :=
    (Family.forall_entries _).trans (furnished.minRows late ▸ forall_mem_collect)
  have maxRows : (∀ entry ∈ plant.maxPowerRows.entries, entry.constraint.KeptBy values) ↔ _ :=
    (Family.forall_entries _).trans (furnished.maxRows late ▸ forall_mem_collect)
  have constraints : (∀ entry ∈ plant.model.constraints, entry.constraint.KeptBy values) ↔ _ :=
    List.forall_mem_append.trans (and_congr (List.forall_mem_append.trans
      (and_congr boxes minRows)) maxRows)
  constructor
  · rintro ⟨vars, kept⟩ generator generator_lt instant instant_lt
    obtain ⟨⟨box, minRow⟩, maxRow⟩ := constraints.mp kept
    exact ⟨(furnished.forall_vars reached).mp vars generator generator_lt instant instant_lt,
      box generator generator_lt instant instant_lt,
      minRow generator generator_lt instant instant_lt,
      maxRow generator generator_lt instant instant_lt⟩
  · intro kept
    refine ⟨(furnished.forall_vars reached).mpr fun generator generator_lt instant instant_lt =>
      (kept generator generator_lt instant instant_lt).taken, constraints.mpr ⟨⟨?_, ?_⟩, ?_⟩⟩
    · exact fun generator generator_lt instant instant_lt =>
        (kept generator generator_lt instant instant_lt).box
    · exact fun generator generator_lt instant instant_lt =>
        (kept generator generator_lt instant instant_lt).minRow
    · exact fun generator generator_lt instant instant_lt =>
        (kept generator generator_lt instant instant_lt).maxRow

theorem Furnished.power (furnished : plant.Furnished) (reached : plant.stage.hasVariables = true)
    (generator_lt : generator < plant.generators) (instant_lt : instant < plant.horizon) :
    plant.activePowerVar? generator instant = some (plant.power generator instant) := by
  have present := furnished.present reached generator generator_lt instant instant_lt .power
  rw [var?, isSome_cell?, PlantData.has, Bool.not_eq_true'] at present
  exact if_neg (ne_true_of_eq_false present)

theorem Furnished.setpoint_of_absent (furnished : plant.Furnished) (values : VarRef → ℚ)
    (reached : plant.stage.hasVariables = true) (generator_lt : generator < plant.generators)
    (instant_lt : instant < plant.horizon) {role : Role} (absent : plant.data.has role = false) :
    plant.setpoint values generator instant role = 0 := by
  have present := furnished.present reached generator generator_lt instant instant_lt role
  rw [absent, Option.isSome_eq_false_iff, Option.isNone_iff_eq_none] at present
  rw [setpoint, present]
  rfl

theorem weigh_weighted (var? : Option VarRef) :
    weigh values (weighted 1 var?) = .number (reading values var?) := by
  cases var? with
  | none => rfl
  | some var => simp [weighted, reading, Exact.one_def, Exact.zero_def]

section Cell

variable (furnished : plant.Furnished) (late : plant.stage.hasConstraints = true)
  (generator_lt : generator < plant.generators) (instant_lt : instant < plant.horizon)

include furnished late generator_lt instant_lt

theorem Furnished.value_power (values : VarRef → ℚ) : values (plant.power generator instant) =
    plant.setpoint values generator instant .power :=
  congrArg (reading values)
    (furnished.power (Stage.hasVariables_of_late late) generator_lt instant_lt).symm

theorem Furnished.weigh_capacityUse : weigh values (plant.capacityUse generator instant) =
    .number (plant.setpoint values generator instant).total := by
  rw [capacityUse, weigh_cons, weigh_append, weigh_weighted, weigh_weighted,
    furnished.value_power late generator_lt instant_lt values, Exact.one_def,
    Exact.number_mul_number, one_mul, Exact.number_add_number, Exact.number_add_number,
    ← add_assoc]
  rfl

variable {low high : ℚ} (least : plant.minPower generator instant = .number low)
  (most : plant.maxPower generator instant = .number high)

include least most

/-- Without commitment a generator runs. -/
theorem Furnished.keptAt_of_free (free : plant.data.commitment = false) :
    plant.KeptAt values generator instant ↔
      (plant.setpoint values generator instant).Runs low high := by
  have reached := Stage.hasVariables_of_late late
  have absent (role : Role) (without : plant.data.has role = false) :=
    furnished.setpoint_of_absent values reached generator_lt instant_lt without
  have none : plant.commitmentVar? generator instant = none := by
    have present := furnished.present reached generator generator_lt instant instant_lt .commitment
    rwa [PlantData.has, free, Option.isSome_eq_false_iff, Option.isNone_iff_eq_none] at present
  have box : plant.powerBox? generator instant =
      some ⟨plant.power generator instant, .number low, .number high⟩ := by
    rw [powerBox?, none, least, most]
  have minRow : plant.minPowerRow? generator instant = Option.none := by
    rw [minPowerRow?, none, Option.map_none]
  have maxRow : plant.maxPowerRow? generator instant = if plant.hasReserves then
      some ⟨.ofTerms (plant.capacityUse generator instant), -Scalar.infinity, .number high⟩
      else Option.none := by
    rw [maxPowerRow?, none, most]
  rw [Setpoint.runs_iff (absent .commitment free) fun without =>
    have reserves := Bool.or_eq_false_iff.mp without
    ⟨absent .primary reserves.1, absent .secondary reserves.2⟩]
  have range : (Constraint.box ⟨plant.power generator instant, .number low, .number high⟩).KeptBy
      values ↔ _ := Box.keptBy
  rw [furnished.value_power late generator_lt instant_lt values, Bounds.holds_number] at range
  constructor
  · rintro ⟨taken, boxed, -, rowed⟩
    refine ⟨taken, range.mp (boxed _ box), fun reserves => ?_⟩
    have kept := rowed _ (maxRow.trans (if_pos reserves))
    rwa [Row.kept_ofTerms, furnished.weigh_capacityUse late generator_lt instant_lt,
      Bounds.holds_most] at kept
  · rintro ⟨taken, within, capacity⟩
    refine ⟨taken, fun found same => ?_, fun found same => ?_, fun found same => ?_⟩
    · rw [box] at same
      cases same
      exact range.mpr within
    · rw [minRow] at same
      cases same
    · rw [maxRow] at same
      split at same
      · rename_i reserves
        cases same
        rw [Row.kept_ofTerms, furnished.weigh_capacityUse late generator_lt instant_lt,
          Bounds.holds_most]
        exact capacity reserves
      · cases same

/-- With commitment a generator is off, or it is on and runs. -/
theorem Furnished.keptAt_of_committed (committed : plant.data.commitment = true) :
    plant.KeptAt values generator instant ↔
      plant.setpoint values generator instant = 0 ∨
        plant.setpoint values generator instant .commitment = 1 ∧
          (plant.setpoint values generator instant).Runs low high := by
  have reached := Stage.hasVariables_of_late late
  obtain ⟨commitment, found⟩ : ∃ var, plant.commitmentVar? generator instant = some var := by
    have present := furnished.present reached generator generator_lt instant instant_lt .commitment
    rwa [PlantData.has, committed, Option.isSome_iff_exists] at present
  have switch : values commitment = plant.setpoint values generator instant .commitment := by
    rw [setpoint]
    exact congrArg (reading values) found.symm
  have box : plant.powerBox? generator instant = none := by
    rw [powerBox?, found]
  have minRow : plant.minPowerRow? generator instant = some ⟨.ofTerms
      [(plant.power generator instant, 1), (commitment, -.number low)], 0, Scalar.infinity⟩ := by
    rw [minPowerRow?, found, least]
    rfl
  have maxRow : plant.maxPowerRow? generator instant = some ⟨.ofTerms
      (plant.capacityUse generator instant ++ [(commitment, -.number high)]),
      -Scalar.infinity, 0⟩ := by
    rw [maxPowerRow?, found, most]
  have least : weigh values [(plant.power generator instant, 1), (commitment, -.number low)] =
      .number (plant.setpoint values generator instant .power +
        -low * plant.setpoint values generator instant .commitment) := by
    rw [weigh_cons, weigh_cons, weigh_nil, add_zero, Exact.one_def, switch,
      furnished.value_power late generator_lt instant_lt values, Exact.neg_number,
      Exact.number_mul_number, Exact.number_mul_number, Exact.number_add_number, one_mul]
  have most : weigh values
      (plant.capacityUse generator instant ++ [(commitment, -.number high)]) =
      .number ((plant.setpoint values generator instant).total +
        -high * plant.setpoint values generator instant .commitment) := by
    rw [weigh_append, furnished.weigh_capacityUse late generator_lt instant_lt, weigh_cons,
      weigh_nil, add_zero, switch, Exact.neg_number, Exact.number_mul_number,
      Exact.number_add_number]
  rw [← Setpoint.switched_iff, ← Bounds.holds_least, ← least, ← Row.kept_ofTerms,
    ← Bounds.holds_most, ← most, ← Row.kept_ofTerms]
  constructor
  · rintro ⟨taken, -, lower, upper⟩
    exact ⟨taken, lower _ minRow, upper _ maxRow⟩
  · rintro ⟨taken, lower, upper⟩
    refine ⟨taken, fun found same => ?_, fun found same => ?_, fun found same => ?_⟩
    · rw [box] at same
      cases same
    · rw [minRow] at same
      cases same
      exact lower
    · rw [maxRow] at same
      cases same
      exact upper

end Cell

/-- The power limits are numbers. -/
structure Limited (plant : Plant Exact) : Prop where
  least : ∀ value ∈ plant.data.minPower, value.isNumber = true
  most : ∀ value ∈ plant.data.maxPower, value.isNumber = true

instance : Decidable plant.Limited :=
  decidable_of_iff ((∀ value ∈ plant.data.minPower, value.isNumber = true) ∧
    ∀ value ∈ plant.data.maxPower, value.isNumber = true)
    ⟨fun ⟨least, most⟩ => ⟨least, most⟩, fun limited => ⟨limited.least, limited.most⟩⟩

theorem Limited.limits (limited : plant.Limited) (generator instant : Nat) :
    ∃ low high, plant.minPower generator instant = .number low ∧
      plant.maxPower generator instant = .number high := by
  obtain ⟨low, least⟩ := Exact.eq_number_of_isNumber
    (plant.data.entry_of_forall limited.least rfl generator instant)
  obtain ⟨high, most⟩ := Exact.eq_number_of_isNumber
    (plant.data.entry_of_forall limited.most rfl generator instant)
  exact ⟨low, high, least, most⟩

/-- The free plant has the data of the other without its commitment. -/
structure Releases (free plant : Plant Exact) : Prop where
  committed : plant.data.commitment = true
  data : free.data = { plant.data with commitment := false }

/-- Commitment switches the generators of a plant, beside a plant that has none. -/
structure Switches (plant free : Plant Exact) : Prop where
  /-- Both have variables for the power and for the reserves that the data have. -/
  vars : ∀ generator < plant.generators, ∀ instant < plant.horizon, ∀ role : Role,
    (plant.var? role generator instant).isSome = plant.data.has role ∧
      (free.var? role generator instant).isSome = (role != .commitment && plant.data.has role)
  /-- With every generator on, the same powers and reserves are allowed. -/
  on : ∀ values others : VarRef → ℚ,
    (∀ generator < plant.generators, ∀ instant < plant.horizon,
      plant.setpoint values generator instant .commitment = 1 ∧ ∀ role, role ≠ .commitment →
        free.setpoint others generator instant role =
          plant.setpoint values generator instant role) →
    (plant.model.KeptBy values ↔ free.model.KeptBy others)
  /-- A generator that is off has neither power nor reserves. -/
  off : ∀ values : VarRef → ℚ, plant.model.KeptBy values →
    ∀ generator < plant.generators, ∀ instant < plant.horizon,
      plant.setpoint values generator instant .commitment = 0 →
        ∀ role, plant.setpoint values generator instant role = 0
  /-- Whatever else is allowed, any generator may be off in any instant. -/
  zero : ∀ values : VarRef → ℚ,
    (∀ generator < plant.generators, ∀ instant < plant.horizon,
      (∀ role, plant.setpoint values generator instant role = 0) ∨
        ∃ kept : VarRef → ℚ, plant.model.KeptBy kept ∧
          plant.setpoint values generator instant = plant.setpoint kept generator instant) →
    plant.model.KeptBy values

theorem Releases.sizes (releases : free.Releases plant) :
    free.generators = plant.generators ∧ free.horizon = plant.horizon := by
  unfold generators horizon
  rw [releases.data]
  exact ⟨rfl, rfl⟩

/-- One generator in one instant of both plants, by the same limits. -/
theorem Releases.cell (releases : free.Releases plant) (furnished : plant.Furnished)
    (released : free.Furnished) (late : plant.stage.hasConstraints = true)
    (late' : free.stage.hasConstraints = true) (limited : plant.Limited)
    (generator_lt : generator < plant.generators) (instant_lt : instant < plant.horizon) :
    ∃ low high,
      (∀ values, plant.KeptAt values generator instant ↔
        plant.setpoint values generator instant = 0 ∨
          plant.setpoint values generator instant .commitment = 1 ∧
            (plant.setpoint values generator instant).Runs low high) ∧
      ∀ others, free.KeptAt others generator instant ↔
        (free.setpoint others generator instant).Runs low high := by
  obtain ⟨generators, horizon⟩ := releases.sizes
  obtain ⟨committed, data⟩ := releases
  obtain ⟨low, high, least, most⟩ := limited.limits generator instant
  refine ⟨low, high, fun values =>
    furnished.keptAt_of_committed late generator_lt instant_lt least most committed, fun others =>
    released.keptAt_of_free late' (generators ▸ generator_lt) (horizon ▸ instant_lt) ?_ ?_
      (by rw [data])⟩
  · rw [← least, minPower, data]
    rfl
  · rw [← most, maxPower, data]
    rfl

theorem Formed.switches (formed : plant.Formed) (released : free.Formed)
    (late : plant.stage.hasConstraints = true) (late' : free.stage.hasConstraints = true)
    (releases : free.Releases plant) (limited : plant.Limited) : plant.Switches free := by
  have furnished := formed.furnished
  have cell {generator instant : Nat} (generator_lt : generator < plant.generators)
      (instant_lt : instant < plant.horizon) :=
    releases.cell furnished released.furnished late late' limited generator_lt instant_lt
  obtain ⟨generators, horizon⟩ := releases.sizes
  refine ⟨?_, ?_, ?_, ?_⟩
  · intro generator generator_lt instant instant_lt role
    refine ⟨furnished.present (Stage.hasVariables_of_late late) generator generator_lt instant
      instant_lt role, ?_⟩
    rw [released.furnished.present (Stage.hasVariables_of_late late') generator
      (generators ▸ generator_lt) instant (horizon ▸ instant_lt) role, releases.data]
    cases role <;> rfl
  · intro values others same
    rw [furnished.keptBy_iff late, released.furnished.keptBy_iff late', generators, horizon]
    refine forall₂_congr fun generator generator_lt => forall₂_congr fun instant instant_lt => ?_
    obtain ⟨low, high, kept, kept'⟩ := cell generator_lt instant_lt
    obtain ⟨on, same⟩ := same generator generator_lt instant instant_lt
    rw [kept, kept']
    constructor
    · rintro (off | ⟨-, runs⟩)
      · rw [off] at on
        exact absurd on (by decide)
      · exact runs.congr same
    · exact fun runs => .inr ⟨on, runs.congr fun role other => (same role other).symm⟩
  · intro values kept generator generator_lt instant instant_lt off role
    obtain ⟨low, high, cell, -⟩ := cell generator_lt instant_lt
    have there := (furnished.keptBy_iff late).mp kept generator generator_lt instant instant_lt
    rcases (cell values).mp there with zero | ⟨on, -⟩
    · rw [zero]
      rfl
    · rw [off] at on
      exact absurd on (by decide)
  · intro values allowed
    refine (furnished.keptBy_iff late).mpr fun generator generator_lt instant instant_lt => ?_
    obtain ⟨low, high, cell, -⟩ := cell generator_lt instant_lt
    refine (cell values).mpr ?_
    rcases allowed generator generator_lt instant instant_lt with zero | ⟨kept, keeps, same⟩
    · exact .inl (funext zero)
    · rw [same]
      exact (cell kept).mp
        ((furnished.keptBy_iff late).mp keeps generator generator_lt instant instant_lt)

def switchable (commitment : Bool) : PlantData Exact where
  generators := 2
  horizon := 2
  minPower := [1, 1, .number (-2), .number (-2)]
  maxPower := [.number 3, .number 3, 1, 1]
  linearCost := []
  commitment := commitment
  primaryReserve := true
  secondaryReserve := false
  fixedConsumption := []
  inertiaPower := []
  inertiaCommitment := []

theorem formed_switchable (id : BlockId) (commitment : Bool) :
    (Plant.generateConstraints (Plant.generateVariables
      (Plant.ofData id (switchable commitment))).state).state.Formed :=
  have start : (Plant.ofData id (switchable commitment)).Formed :=
    .start (.ofData id (by simp [PlantData.Shaped, PlantData.profiles]) 1 Layouts.none)
  (start.step .generateVariables trivial).step .generateConstraints trivial

/-- The first generator is on in the first instant, with a reserve, and the second in the other
one. Slots are power, commitment and primary reserve, four of each. -/
def switchedValues (var : VarRef) : ℚ :=
  ([1, 0, 0, 1, 1, 0, 0, 1, 2, 0, 0, 0] : List ℚ).getD var.slot 0

theorem Formed.switches_switchable :
    let plant := (Plant.generateConstraints (Plant.generateVariables
      (Plant.ofData ⟨0⟩ (switchable true))).state).state
    let free := (Plant.generateConstraints (Plant.generateVariables
      (Plant.ofData ⟨1⟩ (switchable false))).state).state
    plant.Formed ∧ free.Formed ∧ plant.stage.hasConstraints = true ∧
      free.stage.hasConstraints = true ∧ free.Releases plant ∧ plant.Limited ∧
      plant.model.KeptBy switchedValues ∧ plant.Switches free := by
  intro plant free
  have releases : free.Releases plant := ⟨rfl, rfl⟩
  have limited : plant.Limited := by decide +kernel
  have kept : plant.model.KeptBy switchedValues := by decide +kernel
  exact ⟨formed_switchable ⟨0⟩ true, formed_switchable ⟨1⟩ false, rfl, rfl, releases, limited,
    kept,
    switches (formed_switchable ⟨0⟩ true) (formed_switchable ⟨1⟩ false) rfl rfl releases limited⟩

end Plant

end Dispatch
