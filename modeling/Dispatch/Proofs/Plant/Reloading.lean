import Dispatch.Proofs.Group.Recovery
import Dispatch.Proofs.Plant.Resaving
import Dispatch.Proofs.Reachable.Arising

namespace Dispatch.Plant

/-! Plants that are saved and read back, however they came to their data and scale. What is read
back resembles what was saved and is saved as the same group. -/

variable {plant : Plant Float} {saved : Group} {name : String} {values : List Float}

/-- A profile is there in full or not at all, and one that was read is there and came in a form
that can be expanded. -/
structure Profile (plant : Plant Float) (name : String) (values : List Float) : Prop where
  shaped : values = [] ∨ values.length = plant.generators * plant.horizon
  full : ∀ layout, plant.layouts.layout? name = some layout →
    values.length = plant.generators * plant.horizon
  form : ∀ layout, plant.layouts.layout? name = some layout →
    layout.size = 1 ∨ layout.size = plant.generators ∨
      layout.size = plant.generators * plant.horizon
  storable : ∀ layout, plant.layouts.layout? name = some layout → layout.isCounts = true →
    ∀ value ∈ values, Storable value

theorem expands_shortForm {generators horizon : Nat}
    (full : values.length = generators * horizon) (generated : 0 < generators)
    (timed : 0 < horizon) :
    ∃ count, Expands count (shortForm values horizon).2 values ∧
      ((shortForm values horizon).2.length = 1 ∨
        (shortForm values horizon).2.length = generators ∨
        (shortForm values horizon).2.length = generators * horizon) := by
  unfold shortForm
  dsimp only
  split
  · rename_i run
    cases values with
    | nil =>
        have := Nat.mul_pos generated timed
        rw [List.length_nil] at full
        omega
    | cons first rest =>
        refine ⟨(first :: rest).length, .ofRuns (Nat.zero_lt_succ _) ?_, .inl rfl⟩
        rw [List.take_succ_cons, List.take_zero, stretch_singleton]
        exact forall₂_replicate fun value member => List.all_eq_true.mp run value member
  · split
    · rename_i runs
      exact ⟨horizon, .ofRuns timed (forall₂_heads ⟨generators, full.trans (Nat.mul_comm _ _)⟩
        runs timed), .inr (.inl (length_heads timed full))⟩
    · exact ⟨1, .refl values, .inr (.inr full)⟩

namespace Profile

/-- What is written of a profile. -/
theorem profileField_cases (profile : plant.Profile name values)
    (generated : 0 < plant.generators) (timed : 0 < plant.horizon) :
    (plant.layouts.hasField name = false ∧ values = [] ∧ plant.profileField name values = none) ∨
      ∃ field given count, plant.profileField name values = some field ∧ field.Holds given ∧
        Expands count given values ∧ values.length = plant.generators * plant.horizon ∧
        (given.length = 1 ∨ given.length = plant.generators ∨
          given.length = plant.generators * plant.horizon) := by
  unfold profileField
  by_cases listed : plant.layouts.hasField name
  · obtain ⟨layout, found⟩ := Option.isSome_iff_exists.mp listed
    obtain ⟨given, count, holds, expands, length⟩ := Layouts.recovers_fieldFor
      ["NumberGenerators", "TimeHorizon"] profile.storable
    refine .inr ⟨_, given, count, if_pos listed, holds, expands, profile.full layout found, ?_⟩
    rw [length]
    rcases plant.layouts.shortened_cases name values with same | ⟨other, present, fits⟩
    · rw [same]
      exact .inr (.inr (profile.full layout found))
    · rw [length_of_compact? fits]
      exact profile.form other present
  · rw [if_neg listed]
    by_cases empty : values.isEmpty
    · exact .inl ⟨by simpa using listed, List.isEmpty_iff.mp empty, if_pos empty⟩
    · have full := profile.shaped.resolve_left (mt List.isEmpty_iff.mpr empty)
      obtain ⟨count, expands, form⟩ := expands_shortForm full generated timed
      rw [if_neg empty]
      exact .inr ⟨_, _, count, rfl, .inl rfl, expands, full, form⟩

/-- A profile is read back as values that are alike, which are written as the profile was. -/
theorem restored (profile : plant.Profile name values) (generated : 0 < plant.generators)
    (timed : 0 < plant.horizon) (filed : saved.field? name = plant.profileField name values) :
    ∃ profile', saved.Gives name (plant.data.expanded · name) profile' ∧
      List.Forall₂ Alike profile' values ∧
      ∀ again : Plant Float, again.layouts = Layouts.ofGroup saved →
        again.profileField name profile' = plant.profileField name values := by
  rcases profile.profileField_cases generated timed with
    ⟨-, rfl, none⟩ | ⟨field, given, count, written, holds, expands, full, form⟩
  · rw [none] at filed
    refine ⟨[], .inl ⟨filed, rfl⟩, .nil, fun again layouts => ?_⟩
    rw [none, profileField, layouts, Layouts.hasField_ofGroup, filed]
    rfl
  · rw [written] at filed
    refine ⟨stretch count given, .inr ⟨given, holds.read filed, expands.expand full form name⟩,
      expands.repeats, fun again layouts => ?_⟩
    rw [written, profileField, layouts, Layouts.hasField_ofGroup, filed, Option.isSome_some,
      if_pos rfl, holds.fieldFor_again filed expands]

end Profile

/-- Both give the same value to every generator and instant. -/
def SameEntries (first second : PlantData Float) (left right : List Float) : Prop :=
  ∀ generator instant, Alike (first.entry left generator instant)
    (second.entry right generator instant)

theorem entry_eq_getD (data : PlantData Float) (values : List Float) (generator instant : Nat) :
    data.entry values generator instant = values.getD (data.position generator instant) 0 := by
  unfold PlantData.entry PlantData.entry?
  cases values <;> simp

theorem sameEntries_of_alike {first second : PlantData Float} {left right : List Float}
    (close : List.Forall₂ Alike left right) (horizon : first.horizon = second.horizon) :
    SameEntries first second left right := by
  intro generator instant
  rw [entry_eq_getD, entry_eq_getD, PlantData.position, PlantData.position, horizon]
  exact alike_getD close _ 0

/-- Costs that are zero everywhere may be left out, and are read back as absent. -/
theorem Profile.restored_cost (profile : plant.Profile "LinearCost" plant.data.linearCost)
    (generated : 0 < plant.generators) (timed : 0 < plant.horizon)
    (filed : saved.field? "LinearCost" = plant.linearCostField) :
    ∃ costs, saved.Gives "LinearCost" (plant.data.expanded · "LinearCost") costs ∧
      (∀ data : PlantData Float, data.horizon = plant.data.horizon →
        SameEntries data plant.data costs plant.data.linearCost) ∧
      ∀ again : Plant Float, again.layouts = Layouts.ofGroup saved →
        again.data.linearCost = costs → again.linearCostField = plant.linearCostField := by
  unfold linearCostField at filed
  by_cases written :
      (plant.data.linearCost.any fun cost => cost != 0) || plant.layouts.hasField "LinearCost"
  · rw [if_pos written] at filed
    obtain ⟨costs, gives, close, rewritten⟩ := profile.restored generated timed filed
    refine ⟨costs, gives, fun data horizon => sameEntries_of_alike close horizon,
      fun again layouts same => ?_⟩
    have present : again.layouts.hasField "LinearCost" = true := by
      rw [layouts, Layouts.hasField_ofGroup, filed]
      rcases profile.profileField_cases generated timed with
        ⟨unlisted, empty, -⟩ | ⟨field, -, -, shown, -⟩
      · rw [empty, unlisted] at written
        cases written
      · rw [shown]
        rfl
    unfold linearCostField
    rw [if_pos written, present, Bool.or_true, if_pos rfl, same]
    exact rewritten again layouts
  · rw [if_neg written] at filed
    refine ⟨[], .inl ⟨filed, rfl⟩, fun data _ generator instant => ?_, fun again layouts same => ?_⟩
    · have free (cost : Float) (member : cost ∈ plant.data.linearCost) : (cost == 0) = true := by
        by_contra priced
        exact written (Bool.or_eq_true_iff.mpr (.inl (List.any_eq_true.mpr
          ⟨cost, member, by simpa [bne] using priced⟩)))
      rw [entry_eq_getD, entry_eq_getD, List.getD_nil, List.getD_eq_getElem?_getD]
      cases found : plant.data.linearCost[plant.data.position generator instant]? with
      | none => exact .refl 0
      | some cost => exact .symm (.inl (free cost (List.mem_of_getElem? found)))
    · unfold linearCostField
      rw [same, layouts, Layouts.hasField_ofGroup, filed, if_neg written]
      rfl

theorem restored_scale (storable : Storable plant.scale)
    (filed : saved.field? "Scale" = plant.scaleField) :
    ∃ scale, scaleOfGroup saved = .ok scale ∧ Alike scale plant.scale ∧
      ∀ again : Plant Float, again.layouts = Layouts.ofGroup saved → again.scale = scale →
        again.scaleField = plant.scaleField := by
  obtain ⟨given, scale, read, same, alike, rewritten⟩ := Layouts.restored_single storable filed
  refine ⟨scale, scaleOfGroup_eq_ok.mpr ⟨given, read, same⟩, alike, fun again layouts kept => ?_⟩
  rw [scaleField, layouts, kept]
  exact rewritten

structure Filable (plant : Plant Float) : Prop where
  generated : 0 < plant.generators
  timed : 0 < plant.horizon
  hasMinPower : plant.data.minPower ≠ []
  hasMaxPower : plant.data.maxPower ≠ []
  minPower : plant.Profile "MinPower" plant.data.minPower
  maxPower : plant.Profile "MaxPower" plant.data.maxPower
  linearCost : plant.Profile "LinearCost" plant.data.linearCost
  fixedConsumption : plant.Profile "FixedConsumption" plant.data.fixedConsumption
  inertiaPower : plant.Profile "InertiaPower" plant.data.inertiaPower
  inertiaCommitment : plant.Profile "InertiaCommitment" plant.data.inertiaCommitment
  scale : Storable plant.scale

/-- All that can be asked of a plant has the same answer, up to the sign of a zero. -/
structure Resembles (first second : Plant Float) : Prop where
  generators : first.generators = second.generators
  horizon : first.horizon = second.horizon
  commitment : first.data.commitment = second.data.commitment
  primaryReserve : first.data.primaryReserve = second.data.primaryReserve
  secondaryReserve : first.data.secondaryReserve = second.data.secondaryReserve
  hasFixedConsumption : first.hasFixedConsumption = second.hasFixedConsumption
  hasInertiaPower : first.hasInertiaPower = second.hasInertiaPower
  hasInertiaCommitment : first.hasInertiaCommitment = second.hasInertiaCommitment
  scale : Alike first.scale second.scale
  minPower : ∀ generator instant,
    Alike (first.minPower generator instant) (second.minPower generator instant)
  maxPower : ∀ generator instant,
    Alike (first.maxPower generator instant) (second.maxPower generator instant)
  linearCost : ∀ generator instant,
    Alike (first.linearCost generator instant) (second.linearCost generator instant)
  fixedConsumption : ∀ generator instant,
    Alike (first.fixedConsumption generator instant) (second.fixedConsumption generator instant)
  inertiaPower : ∀ generator instant,
    Alike (first.inertiaPower generator instant) (second.inertiaPower generator instant)
  inertiaCommitment : ∀ generator instant,
    Alike (first.inertiaCommitment generator instant)
      (second.inertiaCommitment generator instant)

/-- Alike in the arrays and the scale, and equal in all else. -/
structure Recovers (again plant : Plant Float) : Prop where
  rest : again.data = { plant.data with
    minPower := again.data.minPower
    maxPower := again.data.maxPower
    linearCost := again.data.linearCost
    fixedConsumption := again.data.fixedConsumption
    inertiaPower := again.data.inertiaPower
    inertiaCommitment := again.data.inertiaCommitment }
  scale : Alike again.scale plant.scale
  minPower : List.Forall₂ Alike again.data.minPower plant.data.minPower
  maxPower : List.Forall₂ Alike again.data.maxPower plant.data.maxPower
  linearCost : SameEntries again.data plant.data again.data.linearCost plant.data.linearCost
  fixedConsumption : List.Forall₂ Alike again.data.fixedConsumption plant.data.fixedConsumption
  inertiaPower : List.Forall₂ Alike again.data.inertiaPower plant.data.inertiaPower
  inertiaCommitment :
    List.Forall₂ Alike again.data.inertiaCommitment plant.data.inertiaCommitment

namespace Recovers

variable {again : Plant Float}

theorem horizon (recovers : again.Recovers plant) : again.data.horizon = plant.data.horizon := by
  rw [recovers.rest]

theorem generators (recovers : again.Recovers plant) : again.generators = plant.generators := by
  rw [Plant.generators, recovers.rest]
  rfl

theorem resembles (recovers : again.Recovers plant) : again.Resembles plant where
  generators := recovers.generators
  horizon := recovers.horizon
  commitment := by rw [recovers.rest]
  primaryReserve := by rw [recovers.rest]
  secondaryReserve := by rw [recovers.rest]
  hasFixedConsumption := congrArg (! ·) (Change.isEmpty_of_forall₂ recovers.fixedConsumption.flip)
  hasInertiaPower := congrArg (! ·) (Change.isEmpty_of_forall₂ recovers.inertiaPower.flip)
  hasInertiaCommitment := congrArg (! ·) (Change.isEmpty_of_forall₂ recovers.inertiaCommitment.flip)
  scale := recovers.scale
  minPower := sameEntries_of_alike recovers.minPower recovers.horizon
  maxPower := sameEntries_of_alike recovers.maxPower recovers.horizon
  linearCost := recovers.linearCost
  fixedConsumption := sameEntries_of_alike recovers.fixedConsumption recovers.horizon
  inertiaPower := sameEntries_of_alike recovers.inertiaPower recovers.horizon
  inertiaCommitment := sameEntries_of_alike recovers.inertiaCommitment recovers.horizon

end Recovers

/-- Every array is written as it was. -/
structure Rewrites (again plant : Plant Float) : Prop where
  layouts : again.layouts = Layouts.ofGroup plant.sheet.group
  minPower : again.profileField "MinPower" again.data.minPower =
    plant.profileField "MinPower" plant.data.minPower
  maxPower : again.profileField "MaxPower" again.data.maxPower =
    plant.profileField "MaxPower" plant.data.maxPower
  linearCost : again.linearCostField = plant.linearCostField
  fixedConsumption : again.profileField "FixedConsumption" again.data.fixedConsumption =
    plant.profileField "FixedConsumption" plant.data.fixedConsumption
  inertiaPower : again.profileField "InertiaPower" again.data.inertiaPower =
    plant.profileField "InertiaPower" plant.data.inertiaPower
  inertiaCommitment : again.profileField "InertiaCommitment" again.data.inertiaCommitment =
    plant.profileField "InertiaCommitment" plant.data.inertiaCommitment
  scale : again.scaleField = plant.scaleField

theorem Rewrites.group {again : Plant Float} (rewrites : again.Rewrites plant)
    (recovers : again.Recovers plant) : again.sheet.group = plant.sheet.group := by
  have flags (name : String) (isOn : Bool)
      (listed : (name, plant.flagField name isOn) ∈ plant.sheet.fields) :
      again.flagField name isOn = plant.flagField name isOn :=
    Filed.flagField_again rewrites.layouts listed
  obtain ⟨commitment, primaryReserve, secondaryReserve⟩ :
      again.data.commitment = plant.data.commitment ∧
        again.data.primaryReserve = plant.data.primaryReserve ∧
        again.data.secondaryReserve = plant.data.secondaryReserve := by
    rw [recovers.rest]
    exact ⟨rfl, rfl, rfl⟩
  refine Sheet.group_congr (Page.ext ?_ ?_) rfl
  · simp only [sheet, generatorsDim_again rewrites.layouts recovers.generators]
    rw [show again.horizon = plant.horizon from recovers.horizon]
  · simp only [sheet, rewrites.minPower, rewrites.maxPower, rewrites.linearCost,
      rewrites.fixedConsumption, rewrites.inertiaPower, rewrites.inertiaCommitment, rewrites.scale,
      commitment, primaryReserve, secondaryReserve,
      flags "Commitment" plant.data.commitment (by simp [sheet]),
      flags "PrimaryReserve" plant.data.primaryReserve (by simp [sheet]),
      flags "SecondaryReserve" plant.data.secondaryReserve (by simp [sheet])]

theorem Filable.restored (filable : plant.Filable) :
    ∃ data scale, Reads plant.sheet.group data ∧ scaleOfGroup plant.sheet.group = .ok scale ∧
      ∀ again : Plant Float, again.data = data → again.scale = scale →
        again.layouts = Layouts.ofGroup plant.sheet.group →
        again.Recovers plant ∧ again.Rewrites plant := by
  have generated := filable.generated
  have timed := filable.timed
  have written {name : String} {field : Option Field}
      (listed : (name, field) ∈ plant.sheet.fields) : plant.sheet.group.field? name = field :=
    Sheet.field? listed
  obtain ⟨minPower, givesMin, closeMin, againMin⟩ :=
    filable.minPower.restored generated timed (written (by simp [sheet]))
  obtain ⟨maxPower, givesMax, closeMax, againMax⟩ :=
    filable.maxPower.restored generated timed (written (by simp [sheet]))
  obtain ⟨linearCost, givesCost, sameCost, againCost⟩ :=
    filable.linearCost.restored_cost generated timed (written (by simp [sheet]))
  obtain ⟨fixedConsumption, givesFixed, closeFixed, againFixed⟩ :=
    filable.fixedConsumption.restored generated timed (written (by simp [sheet]))
  obtain ⟨inertiaPower, givesPower, closePower, againPower⟩ :=
    filable.inertiaPower.restored generated timed (written (by simp [sheet]))
  obtain ⟨inertiaCommitment, givesCommitment, closeCommitment, againCommitment⟩ :=
    filable.inertiaCommitment.restored generated timed (written (by simp [sheet]))
  obtain ⟨scale, readScale, alikeScale, againScale⟩ :=
    restored_scale filable.scale (written (by simp [sheet]))
  have flagged {name : String} {isOn : Bool}
      (listed : (name, plant.flagField name isOn) ∈ plant.sheet.fields) :
      flag plant.sheet.group name = .ok isOn :=
    flag_again (written listed)
  have present {profile values : List Float} (close : List.Forall₂ Alike profile values)
      (given : values ≠ []) : profile ≠ [] := by
    rintro rfl
    exact given (List.forall₂_nil_left_iff.mp close)
  refine ⟨{ plant.data with
    minPower, maxPower, linearCost
    fixedConsumption, inertiaPower, inertiaCommitment }, scale, ?_, readScale, ?_⟩
  · exact {
      horizon := Sheet.dim? (by simp [sheet, horizon])
      generators := generators_written plant
      hasMinPower := givesMin.isSome_field? (present closeMin filable.hasMinPower)
      hasMaxPower := givesMax.isSome_field? (present closeMax filable.hasMaxPower)
      minPower := givesMin
      maxPower := givesMax
      linearCost := givesCost
      commitment := flagged (by simp [sheet])
      primaryReserve := flagged (by simp [sheet])
      secondaryReserve := flagged (by simp [sheet])
      fixedConsumption := givesFixed
      inertiaPower := givesPower
      inertiaCommitment := givesCommitment }
  · intro again data scaled layouts
    obtain ⟨_, _, _, _, _, _⟩ := again
    cases data
    cases scaled
    exact ⟨⟨rfl, alikeScale, closeMin, closeMax, sameCost _ rfl, closeFixed, closePower,
      closeCommitment⟩, ⟨layouts, againMin _ layouts, againMax _ layouts, againCost _ layouts rfl,
      againFixed _ layouts, againPower _ layouts, againCommitment _ layouts,
      againScale _ layouts rfl⟩⟩

theorem full_of_built {data : PlantData Float} (built : data.Built) :
    data.minPower.length = data.generators * data.horizon ∧
      data.maxPower.length = data.generators * data.horizon := by
  induction built with
  | new created =>
      obtain ⟨minPower, expandedMin, created⟩ := Except.bind_eq_ok.mp created
      obtain ⟨maxPower, expandedMax, created⟩ := Except.bind_eq_ok.mp created
      cases created
      exact ⟨expand_ok expandedMin, expand_ok expandedMax⟩
  | withLinearCost _ extended full =>
      obtain ⟨_, _, same⟩ := Except.bind_eq_ok.mp extended
      cases same
      exact full
  | withCommitment _ full => exact full
  | withReserves _ _ _ full => exact full
  | withFixedConsumption _ extended full =>
      obtain ⟨_, _, same⟩ := Except.bind_eq_ok.mp extended
      cases same
      exact full
  | withInertia _ extended full =>
      obtain ⟨_, first, extended⟩ := Except.bind_eq_ok.mp extended
      obtain ⟨_, _, same⟩ := Except.bind_eq_ok.mp first
      cases same
      obtain ⟨_, _, same⟩ := Except.bind_eq_ok.mp extended
      cases same
      exact full

theorem profile_of_built (layouts : plant.layouts = Layouts.none)
    (shaped : values = [] ∨ values.length = plant.generators * plant.horizon) :
    plant.Profile name values := by
  have unlisted (layout : Layout) : plant.layouts.layout? name ≠ some layout := by
    rw [layouts]
    exact nofun
  exact ⟨shaped, fun layout found => absurd found (unlisted layout),
    fun layout found => absurd found (unlisted layout),
    fun layout found => absurd found (unlisted layout)⟩

theorem profile_of_gives {group : Group} (layouts : plant.layouts = Layouts.ofGroup group)
    (gives : group.Gives name (plant.data.expanded · name) values) :
    plant.Profile name values := by
  have listed (layout : Layout) (found : plant.layouts.layout? name = some layout) :
      values.length = plant.generators * plant.horizon ∧
        (layout.size = 1 ∨ layout.size = plant.generators ∨
          layout.size = plant.generators * plant.horizon) ∧
        (layout.isCounts = true → ∀ value ∈ values, Storable value) := by
    rw [layouts] at found
    have present := (Layouts.hasField_ofGroup group name).symm.trans
      (Option.isSome_of_eq_some found)
    obtain ⟨given, read, expanded⟩ := gives.of_present present
    obtain ⟨size, storable⟩ := Group.doubles?_layout read found
    obtain ⟨count, stretched⟩ := expand_stretched expanded
    refine ⟨expand_ok expanded, size ▸ expand_form expanded, fun counted value member => ?_⟩
    rw [stretched] at member
    exact storable counted value (mem_of_mem_stretch member)
  refine ⟨?_, fun layout found => (listed layout found).1,
    fun layout found => (listed layout found).2.1, fun layout found => (listed layout found).2.2⟩
  rcases gives with ⟨-, none⟩ | ⟨given, -, expanded⟩
  · exact .inl none
  · exact .inr (expand_ok expanded)

/-- The data were built, or stand in the group that the layouts are of. -/
def Originates (plant : Plant Float) : Prop :=
  plant.data.Built ∧ plant.layouts = Layouts.none ∨
    ∃ group, Reads group plant.data ∧ plant.layouts = Layouts.ofGroup group

theorem Originates.congr {other : Plant Float} (originates : plant.Originates)
    (data : other.data = plant.data) (layouts : other.layouts = plant.layouts) :
    other.Originates := by
  rwa [Originates, data, layouts]

theorem Created.originates (created : plant.Created PlantData.Built) : plant.Originates := by
  cases created with
  | new built created =>
      obtain ⟨id, _, _, fresh⟩ := Creation.bind_eq_ok created
      cases Creation.pure_eq_ok fresh
      exact .inl ⟨built, rfl⟩
  | @ofGroup group _ _ _ created =>
      obtain ⟨data, _, read, created⟩ := Creation.bind_eq_ok created
      obtain ⟨start, _, fresh, created⟩ := Creation.bind_eq_ok created
      obtain ⟨id, _, _, fresh⟩ := Creation.bind_eq_ok fresh
      cases Creation.pure_eq_ok fresh
      obtain ⟨scale, _, _, created⟩ := Creation.bind_eq_ok created
      cases Creation.pure_eq_ok created
      exact .inr ⟨group, dataOfGroup_eq_ok.mp (Creation.require_eq_ok read).1, rfl⟩

theorem Originates.perform (originates : plant.Originates) (operation : Operation Float) :
    (operation.perform plant).Originates := by
  have step {target : Stage} {advance : Plant Float → Plant Float}
      (data : (advance plant).data = plant.data)
      (layouts : (advance plant).layouts = plant.layouts) :
      (Plant.step target advance plant).state.Originates :=
    step_preserves originates fun _ => originates.congr data layouts
  cases operation with
  | withSettings settings => exact originates
  | withNotifier notifier => exact originates
  | editStore edit => exact originates
  | generateVariables => exact step rfl rfl
  | generateConstraints => exact step rfl rfl
  | generateObjective => exact step rfl rfl
  | setScaleAt address values physical abstract =>
      obtain ⟨scale, objective, rest⟩ := rest_setScaleAt address values physical abstract plant
      rw [Operation.perform, rest]
      exact originates.congr rfl rfl

/-- As `Reachable`, of data that were built. -/
def Provided : Plant Float → Prop :=
  Reached (Created PlantData.Built) Operation.perform fun _ => True

theorem Provided.reachable (provided : plant.Provided) : plant.Reachable := by
  refine provided.mono (fun _ created => .start ?_) fun _ _ => trivial
  cases created with
  | new built created => exact .new built.shaped created
  | ofGroup created => exact .ofGroup created

theorem Provided.originates (provided : plant.Provided) : plant.Originates := by
  induction provided with
  | start created => exact created.originates
  | step _ operation _ originates => exact originates.perform operation

theorem Originates.filable (originates : plant.Originates) (generated : 0 < plant.generators)
    (timed : 0 < plant.horizon) (storable : Storable plant.scale) : plant.Filable := by
  have occupied {profile : List Float}
      (full : profile.length = plant.data.generators * plant.data.horizon) : profile ≠ [] := by
    rintro rfl
    exact absurd full.symm (Nat.mul_pos generated timed).ne'
  rcases originates with ⟨built, layouts⟩ | ⟨group, reads, layouts⟩
  · have shaped := built.shaped
    have full := full_of_built built
    have profile {name : String} {values : List Float} (member : values ∈ plant.data.profiles) :
        plant.Profile name values := profile_of_built layouts (shaped values member)
    exact {
      generated, timed
      hasMinPower := occupied full.1
      hasMaxPower := occupied full.2
      minPower := profile (by simp [PlantData.profiles])
      maxPower := profile (by simp [PlantData.profiles])
      linearCost := profile (by simp [PlantData.profiles])
      fixedConsumption := profile (by simp [PlantData.profiles])
      inertiaPower := profile (by simp [PlantData.profiles])
      inertiaCommitment := profile (by simp [PlantData.profiles])
      scale := storable }
  · have given {name : String} {values : List Float}
        (gives : group.Gives name (plant.data.expanded · name) values)
        (present : (group.field? name).isSome) : values ≠ [] := by
      obtain ⟨_, _, expanded⟩ := gives.of_present present
      exact occupied (expand_ok expanded)
    exact {
      generated, timed
      hasMinPower := given reads.minPower reads.hasMinPower
      hasMaxPower := given reads.maxPower reads.hasMaxPower
      minPower := profile_of_gives layouts reads.minPower
      maxPower := profile_of_gives layouts reads.maxPower
      linearCost := profile_of_gives layouts reads.linearCost
      fixedConsumption := profile_of_gives layouts reads.fixedConsumption
      inertiaPower := profile_of_gives layouts reads.inertiaPower
      inertiaCommitment := profile_of_gives layouts reads.inertiaCommitment
      scale := storable }

theorem ofGroup_eq {group : Group} {data : PlantData Float} {scale : Float}
    (reads : Reads group data) (scaled : scaleOfGroup group = .ok scale) (before : Nat) :
    Plant.ofGroup group before =
      (.ok { ofData ⟨before⟩ data with scale, layouts := Layouts.ofGroup group }, before + 1) := by
  have read := dataOfGroup_eq_ok.mpr reads
  unfold Plant.ofGroup
  rw [read, scaled]
  rfl

/-- Whatever a plant went through, what is saved of it is read back as a plant that resembles it
and is saved the same way. -/
theorem ofGroup_write_of_reachable (provided : plant.Provided)
    (generated : 0 < plant.generators) (timed : 0 < plant.horizon)
    (bounded : IsModerate plant.scale) (before : Nat) :
    ∃ again, Plant.ofGroup (plant.write Group.empty) before = (.ok again, before + 1) ∧
      again.Resembles plant ∧ again.write Group.empty = plant.write Group.empty := by
  have filable := provided.originates.filable generated timed bounded.storable
  obtain ⟨data, scale, reads, scaled, restored⟩ := filable.restored
  obtain ⟨recovers, rewrites⟩ := restored { ofData ⟨before⟩ data with
    scale, layouts := Layouts.ofGroup plant.sheet.group } rfl rfl rfl
  refine ⟨_, ?_, recovers.resembles, ?_⟩
  · rw [write_empty]
    exact ofGroup_eq reads scaled before
  · rw [write_empty, write_empty]
    exact rewrites.group recovers

/-- Limits per generator, one cost for all and a scale that is a count. -/
def fleetGroup : Group where
  dims := [("NumberGenerators", 2), ("TimeHorizon", 2)]
  fields := [
    ("LinearCost", ⟨[], .doubles [5]⟩),
    ("MaxPower", ⟨["NumberGenerators"], .doubles [2, 3]⟩),
    ("MinPower", ⟨[], .counts [1]⟩),
    ("Scale", ⟨[], .counts [2]⟩)]
  groups := []

def fleet : Plant Float :=
  { ofData ⟨0⟩ ⟨2, 2, [1, 1, 1, 1], [2, 2, 3, 3], [5, 5, 5, 5], false, false, false, [], [], []⟩
    with scale := 2, layouts := Layouts.ofGroup fleetGroup }

theorem ofGroup_fleetGroup : Plant.ofGroup fleetGroup 0 = (.ok fleet, 1) := by
  rfl

/-- The scale is a count no more. -/
def rescaledFleet : Plant Float :=
  (setScaleAt (.range 0 1) [2.5] .quiet .quiet fleet).state

theorem provided_rescaledFleet : rescaledFleet.Provided :=
  Reached.step (.start (.ofGroup ofGroup_fleetGroup))
    (Operation.setScaleAt (.range 0 1) [2.5] .quiet .quiet) trivial

theorem ofGroup_write_of_reachable_rescaledFleet :
    rescaledFleet.scale = 2.5 ∧ ∃ again,
      Plant.ofGroup (rescaledFleet.write Group.empty) 1 = (.ok again, 2) ∧
        again.Resembles rescaledFleet ∧
        again.write Group.empty = rescaledFleet.write Group.empty :=
  ⟨by rfl, ofGroup_write_of_reachable provided_rescaledFleet (by decide) (by decide)
    (fun _ => by decide +kernel) 1⟩

end Dispatch.Plant
