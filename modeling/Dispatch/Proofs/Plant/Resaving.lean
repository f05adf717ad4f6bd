import Dispatch.Plant.File
import Dispatch.Proofs.Group.Forms

namespace Dispatch.Plant

/-! Plants that are read, written and read again. What is written is read as the same data,
has nothing that was not there, and is written once more as it is. -/

/-- Data as it stands in a group. -/
structure Reads (group : Group) (data : PlantData Float) : Prop where
  horizon : group.dim? "TimeHorizon" = some data.horizon
  generators : (group.dim? "NumberGenerators").getD 1 = data.generators
  hasMinPower : (group.field? "MinPower").isSome
  hasMaxPower : (group.field? "MaxPower").isSome
  minPower : group.Gives "MinPower" (data.expanded · "MinPower") data.minPower
  maxPower : group.Gives "MaxPower" (data.expanded · "MaxPower") data.maxPower
  linearCost : group.Gives "LinearCost" (data.expanded · "LinearCost") data.linearCost
  commitment : flag group "Commitment" = .ok data.commitment
  primaryReserve : flag group "PrimaryReserve" = .ok data.primaryReserve
  secondaryReserve : flag group "SecondaryReserve" = .ok data.secondaryReserve
  fixedConsumption :
    group.Gives "FixedConsumption" (data.expanded · "FixedConsumption") data.fixedConsumption
  inertiaPower : group.Gives "InertiaPower" (data.expanded · "InertiaPower") data.inertiaPower
  inertiaCommitment :
    group.Gives "InertiaCommitment" (data.expanded · "InertiaCommitment") data.inertiaCommitment

variable {group saved : Group} {data : PlantData Float}

/-- An optional profile is set to what the group gives. -/
theorem ifPresent_eq_ok {name : String} {result : PlantData Float}
    {extend : PlantData Float → List Float → Except Error (PlantData Float)}
    (set : PlantData Float → List Float → PlantData Float) (unset : set data [] = data)
    (sets : ∀ values, extend data values = (data.expanded values name).map (set data)) :
    ifPresent group name data extend = .ok result ↔
      ∃ values, group.Gives name (data.expanded · name) values ∧ result = set data values :=
  Group.gives_eq_ok (set data) unset sets

theorem dataOfGroup_eq_ok : dataOfGroup group = .ok data ↔ Reads group data := by
  constructor
  · intro read
    unfold dataOfGroup at read
    dsimp only at read
    obtain ⟨horizon, hasHorizon, read⟩ := Except.bind_eq_ok.mp read
    obtain ⟨givenMin, hasMin, read⟩ := Except.bind_eq_ok.mp read
    obtain ⟨givenMax, hasMax, read⟩ := Except.bind_eq_ok.mp read
    obtain ⟨bounded, new, read⟩ := Except.bind_eq_ok.mp read
    obtain ⟨minPower, fullMin, new⟩ := Except.bind_eq_ok.mp new
    obtain ⟨maxPower, fullMax, new⟩ := Except.bind_eq_ok.mp new
    cases new
    obtain ⟨priced, cost, read⟩ := Except.bind_eq_ok.mp read
    obtain ⟨linearCost, costs, rfl⟩ :=
      (ifPresent_eq_ok (fun data linearCost => { data with linearCost }) rfl fun _ => rfl).mp cost
    obtain ⟨commitment, committed, read⟩ := Except.bind_eq_ok.mp read
    obtain ⟨primaryReserve, primary, read⟩ := Except.bind_eq_ok.mp read
    obtain ⟨secondaryReserve, secondary, read⟩ := Except.bind_eq_ok.mp read
    obtain ⟨consuming, fixed, read⟩ := Except.bind_eq_ok.mp read
    obtain ⟨fixedConsumption, consumes, rfl⟩ :=
      (ifPresent_eq_ok (fun data fixedConsumption => { data with fixedConsumption }) rfl
        fun _ => rfl).mp fixed
    obtain ⟨powered, power, read⟩ := Except.bind_eq_ok.mp read
    obtain ⟨inertiaPower, powers, rfl⟩ :=
      (ifPresent_eq_ok (fun data inertiaPower => { data with inertiaPower }) rfl
        fun _ => rfl).mp power
    obtain ⟨inertiaCommitment, commits, rfl⟩ :=
      (ifPresent_eq_ok (fun data inertiaCommitment => { data with inertiaCommitment }) rfl
        fun _ => rfl).mp read
    rw [Group.doubles_eq_ok] at hasMin hasMax
    exact ⟨Group.dim_eq_ok.mp hasHorizon, rfl, Group.isSome_field?_of_doubles? hasMin,
      Group.isSome_field?_of_doubles? hasMax, .inr ⟨givenMin, hasMin, fullMin⟩,
      .inr ⟨givenMax, hasMax, fullMax⟩, costs, committed, primary, secondary, consumes, powers,
      commits⟩
  · intro reads
    obtain ⟨givenMin, hasMin, fullMin⟩ := reads.minPower.of_present reads.hasMinPower
    obtain ⟨givenMax, hasMax, fullMax⟩ := reads.maxPower.of_present reads.hasMaxPower
    rw [← Group.doubles_eq_ok] at hasMin hasMax
    obtain ⟨generators, horizon, minPower, maxPower, linearCost, commitment, primaryReserve,
      secondaryReserve, fixedConsumption, inertiaPower, inertiaCommitment⟩ := data
    have count : (group.dim? "NumberGenerators").getD 1 = generators := reads.generators
    have new : PlantData.new ((group.dim? "NumberGenerators").getD 1) horizon givenMin givenMax =
        .ok ⟨generators, horizon, minPower, maxPower, [], false, false, false, [], [], []⟩ := by
      rw [count]
      exact Except.bind_eq_ok.mpr ⟨_, fullMin, Except.bind_eq_ok.mpr ⟨_, fullMax, rfl⟩⟩
    unfold dataOfGroup
    refine Except.bind_eq_ok.mpr ⟨horizon, Group.dim_eq_ok.mpr reads.horizon, ?_⟩
    refine Except.bind_eq_ok.mpr ⟨_, hasMin, Except.bind_eq_ok.mpr ⟨_, hasMax, ?_⟩⟩
    refine Except.bind_eq_ok.mpr ⟨_, new, ?_⟩
    refine Except.bind_eq_ok.mpr ⟨_, (ifPresent_eq_ok
      (fun data linearCost => { data with linearCost }) rfl fun _ => rfl).mpr
        ⟨_, reads.linearCost, rfl⟩, ?_⟩
    refine Except.bind_eq_ok.mpr ⟨_, reads.commitment, ?_⟩
    refine Except.bind_eq_ok.mpr ⟨_, reads.primaryReserve, ?_⟩
    refine Except.bind_eq_ok.mpr ⟨_, reads.secondaryReserve, ?_⟩
    refine Except.bind_eq_ok.mpr ⟨_, (ifPresent_eq_ok
      (fun data fixedConsumption => { data with fixedConsumption }) rfl fun _ => rfl).mpr
        ⟨_, reads.fixedConsumption, rfl⟩, ?_⟩
    refine Except.bind_eq_ok.mpr ⟨_, (ifPresent_eq_ok
      (fun data inertiaPower => { data with inertiaPower }) rfl fun _ => rfl).mpr
        ⟨_, reads.inertiaPower, rfl⟩, ?_⟩
    exact (ifPresent_eq_ok
      (fun data inertiaCommitment => { data with inertiaCommitment }) rfl fun _ => rfl).mpr
        ⟨_, reads.inertiaCommitment, rfl⟩

def profileField (plant : Plant Float) (name : String) (values : List Float) : Option Field :=
  if plant.layouts.hasField name then
    some (plant.layouts.fieldFor name ["NumberGenerators", "TimeHorizon"] values)
  else if values.isEmpty then none
  else
    let (dims, values) := shortForm values plant.horizon
    some ⟨dims, .doubles values⟩

def flagField (plant : Plant Float) (name : String) (isOn : Bool) : Option Field :=
  if isOn || plant.layouts.hasField name then
    some ⟨plant.layouts.dimsOr name [], .counts [if isOn then 1 else 0]⟩
  else none

def generatorsDim (plant : Plant Float) : Option Nat :=
  if plant.generators ≠ 1 ∨ plant.layouts.hasDim "NumberGenerators" then some plant.generators
  else none

def linearCostField (plant : Plant Float) : Option Field :=
  if (plant.data.linearCost.any fun cost => cost != 0) || plant.layouts.hasField "LinearCost" then
    plant.profileField "LinearCost" plant.data.linearCost
  else none

def scaleField (plant : Plant Float) : Option Field :=
  if plant.scale != 1 || plant.layouts.hasField "Scale" then
    some (plant.layouts.fieldFor "Scale" [] [plant.scale])
  else none

theorem putProfile_eq_fill (plant : Plant Float) (group : Group) (name : String)
    (values : List Float) :
    plant.putProfile group name values = group.fill name (plant.profileField name values) := by
  cases group
  unfold putProfile profileField
  split
  · rfl
  · split <;> rfl

theorem putFlag_eq_fill (plant : Plant Float) (group : Group) (name : String) (isOn : Bool) :
    plant.putFlag group name isOn = group.fill name (plant.flagField name isOn) := by
  cases group
  unfold putFlag flagField
  split <;> rfl

def sheet (plant : Plant Float) : Sheet where
  dims := [
    ("TimeHorizon", some plant.horizon),
    ("NumberGenerators", plant.generatorsDim)]
  fields := [
    ("MinPower", plant.profileField "MinPower" plant.data.minPower),
    ("MaxPower", plant.profileField "MaxPower" plant.data.maxPower),
    ("LinearCost", plant.linearCostField),
    ("Commitment", plant.flagField "Commitment" plant.data.commitment),
    ("PrimaryReserve", plant.flagField "PrimaryReserve" plant.data.primaryReserve),
    ("SecondaryReserve", plant.flagField "SecondaryReserve" plant.data.secondaryReserve),
    ("FixedConsumption", plant.profileField "FixedConsumption" plant.data.fixedConsumption),
    ("InertiaPower", plant.profileField "InertiaPower" plant.data.inertiaPower),
    ("InertiaCommitment",
      plant.profileField "InertiaCommitment" plant.data.inertiaCommitment),
    ("Scale", plant.scaleField)]
  members := []
  distinctDims := by simp
  distinctFields := by simp
  distinctMembers := by simp

theorem write_empty (plant : Plant Float) : plant.write Group.empty = plant.sheet.group := by
  simp only [write, putProfile_eq_fill, putFlag_eq_fill, Group.setDim_eq_fillDim,
    Group.putDoubles_eq_fill, Group.ite_fillDim, Group.ite_fill]
  rfl

theorem generators_written (plant : Plant Float) :
    (plant.sheet.group.dim? "NumberGenerators").getD 1 = plant.generators := by
  have written : plant.sheet.group.dim? "NumberGenerators" = plant.generatorsDim :=
    Sheet.dim? (by simp [sheet])
  rw [written, generatorsDim]
  by_cases several : plant.generators ≠ 1 ∨ plant.layouts.hasDim "NumberGenerators"
  · rw [if_pos several]
    rfl
  · rw [if_neg several]
    exact (not_not.mp (not_or.mp several).1).symm

theorem generatorsDim_again {plant again : Plant Float}
    (layouts : again.layouts = Layouts.ofGroup plant.sheet.group)
    (same : again.generators = plant.generators) :
    again.generatorsDim = plant.generatorsDim := by
  have written : plant.sheet.group.dim? "NumberGenerators" = plant.generatorsDim :=
    Sheet.dim? (by simp [sheet])
  rw [generatorsDim, layouts, Layouts.hasDim_ofGroup, written, same]
  unfold generatorsDim
  split <;> simp_all

structure Filed (group : Group) (plant : Plant Float) : Prop where
  reads : Reads group plant.data
  scale : scaleOfGroup group = .ok plant.scale
  layouts : plant.layouts = Layouts.ofGroup group

/-- A profile that was read is written if it was there. -/
theorem profileField_eq {plant : Plant Float} {group : Group}
    (layouts : plant.layouts = Layouts.ofGroup group) {name : String}
    {complete : List Float → Except Error (List Float)} {values : List Float}
    (gives : group.Gives name complete values) :
    plant.profileField name values =
      if (group.field? name).isSome then
        some ((Layouts.ofGroup group).fieldFor name ["NumberGenerators", "TimeHorizon"] values)
      else none := by
  unfold profileField
  rw [layouts, Layouts.hasField_ofGroup]
  by_cases present : (group.field? name).isSome
  · rw [if_pos present, if_pos present]
  · rw [if_neg present, if_neg present]
    obtain rfl := gives.of_absent (by simpa using present)
    rfl

/-- The condition on costs adds nothing for a plant that was read. -/
theorem Filed.linearCostField_eq {plant : Plant Float} {group : Group}
    (filed : plant.Filed group) :
    plant.linearCostField = plant.profileField "LinearCost" plant.data.linearCost := by
  unfold linearCostField
  by_cases present : (group.field? "LinearCost").isSome
  · rw [filed.layouts, Layouts.hasField_ofGroup, present, Bool.or_true, if_pos rfl]
  · rw [profileField_eq filed.layouts filed.reads.linearCost, if_neg present]
    exact ite_self none

theorem flag_eq_ok {group : Group} {name : String} {isOn : Bool} :
    flag group name = .ok isOn ↔ ∃ given, group.counts? name = .ok given ∧
      isOn = match given with
        | some (value :: _) => value != 0
        | _ => false := by
  rw [flag, Except.bind_eq_ok]
  refine exists_congr fun given => and_congr_right fun _ => ?_
  rcases given with _ | _ | _ <;> simp [eq_comm]

/-- A flag that is on was given. -/
theorem isSome_of_flag {group : Group} {name : String} (on : flag group name = .ok true) :
    (group.field? name).isSome := by
  obtain ⟨given, read, set⟩ := flag_eq_ok.mp on
  cases given with
  | none => cases set
  | some values =>
      obtain ⟨field, found, -⟩ := Group.counts?_eq_some.mp read
      exact Option.isSome_of_eq_some found

theorem flag_again {plant : Plant Float} {saved : Group} {name : String} {isOn : Bool}
    (filed : saved.field? name = plant.flagField name isOn) : flag saved name = .ok isOn := by
  refine flag_eq_ok.mpr ?_
  unfold flagField at filed
  split at filed
  · refine ⟨_, Group.counts?_of_counts filed, ?_⟩
    cases isOn <;> rfl
  · rename_i off
    refine ⟨none, Group.counts?_eq_none.mpr filed, ?_⟩
    cases isOn
    · rfl
    · exact absurd rfl off

theorem scaleOfGroup_eq_ok {group : Group} {scale : Float} :
    scaleOfGroup group = .ok scale ↔
      ∃ given, group.doubles? "Scale" = .ok given ∧ scale = (given.bind List.head?).getD 1 := by
  rw [scaleOfGroup, Except.bind_eq_ok]
  refine exists_congr fun given => and_congr_right fun _ => ?_
  rcases given with _ | _ | _ <;> simp [eq_comm]

namespace Filed

variable {plant : Plant Float} {group : Group}

theorem profileField_isSome (filed : plant.Filed group) {name : String}
    {complete : List Float → Except Error (List Float)} {values : List Float}
    (gives : group.Gives name complete values)
    (written : (plant.profileField name values).isSome) : (group.field? name).isSome := by
  rw [profileField_eq filed.layouts gives] at written
  by_contra absent
  rw [if_neg absent] at written
  cases written

theorem flagField_isSome (filed : plant.Filed group) {name : String} {isOn : Bool}
    (read : flag group name = .ok isOn) (written : (plant.flagField name isOn).isSome) :
    (group.field? name).isSome := by
  cases isOn with
  | true => exact isSome_of_flag read
  | false => simpa [flagField, filed.layouts] using written

theorem fits (filed : plant.Filed group) : plant.sheet.toPage.Fits group where
  dims := by
    simp only [sheet, List.forall_mem_cons]
    refine ⟨fun _ => Option.isSome_of_eq_some filed.reads.horizon, fun written => ?_, nofun⟩
    by_contra absent
    have default := filed.reads.generators
    rw [Option.not_isSome_iff_eq_none.mp absent, Option.getD_none] at default
    simp [generatorsDim, generators, ← default, filed.layouts, absent] at written
  fields := by
    have reads := filed.reads
    simp only [sheet, List.forall_mem_cons, filed.linearCostField_eq]
    refine ⟨filed.profileField_isSome reads.minPower, filed.profileField_isSome reads.maxPower,
      filed.profileField_isSome reads.linearCost, filed.flagField_isSome reads.commitment,
      filed.flagField_isSome reads.primaryReserve, filed.flagField_isSome reads.secondaryReserve,
      filed.profileField_isSome reads.fixedConsumption,
      filed.profileField_isSome reads.inertiaPower,
      filed.profileField_isSome reads.inertiaCommitment, fun written => ?_, nofun⟩
    by_contra absent
    obtain ⟨given, read, scale⟩ := scaleOfGroup_eq_ok.mp filed.scale
    rw [Option.not_isSome_iff_eq_none] at absent
    rw [Group.doubles?_eq_none.mpr absent] at read
    cases read
    rw [scaleField, scale, filed.layouts, Layouts.hasField_ofGroup, absent] at written
    cases written

theorem gives_again (filed : plant.Filed group) {name : String}
    {complete : List Float → Except Error (List Float)} {values : List Float}
    (gives : group.Gives name complete values) (completes : IsCompletion complete)
    (listed : (name, plant.profileField name values) ∈ plant.sheet.fields) :
    plant.sheet.group.Gives name complete values :=
  gives.again completes ((Sheet.field? listed).trans (profileField_eq filed.layouts gives))
    (fun present => present) fun absent => gives.of_absent (Option.not_isSome_iff_eq_none.mp absent)

theorem field?_again (filed : plant.Filed group) {name : String}
    {complete : List Float → Except Error (List Float)} {values : List Float}
    (gives : group.Gives name complete values) (present : (group.field? name).isSome)
    (listed : (name, plant.profileField name values) ∈ plant.sheet.fields) :
    (plant.sheet.group.field? name).isSome := by
  rw [Sheet.field? listed, profileField_eq filed.layouts gives, if_pos present]
  rfl

theorem reads_again (filed : plant.Filed group) : Reads plant.sheet.group plant.data := by
  have reads := filed.reads
  have completes (name : String) : IsCompletion (plant.data.expanded · name) :=
    IsCompletion.ofExpand plant.data.generators plant.data.horizon name
  have flagged {name : String} {isOn : Bool}
      (listed : (name, plant.flagField name isOn) ∈ plant.sheet.fields) :
      flag plant.sheet.group name = .ok isOn :=
    flag_again (Sheet.field? listed)
  exact {
    horizon := Sheet.dim? (by simp [sheet, horizon])
    generators := generators_written plant
    hasMinPower := filed.field?_again reads.minPower reads.hasMinPower (by simp [sheet])
    hasMaxPower := filed.field?_again reads.maxPower reads.hasMaxPower (by simp [sheet])
    minPower := filed.gives_again reads.minPower (completes _) (by simp [sheet])
    maxPower := filed.gives_again reads.maxPower (completes _) (by simp [sheet])
    linearCost := filed.gives_again reads.linearCost (completes _)
      (by simp [sheet, filed.linearCostField_eq])
    commitment := flagged (by simp [sheet])
    primaryReserve := flagged (by simp [sheet])
    secondaryReserve := flagged (by simp [sheet])
    fixedConsumption := filed.gives_again reads.fixedConsumption (completes _) (by simp [sheet])
    inertiaPower := filed.gives_again reads.inertiaPower (completes _) (by simp [sheet])
    inertiaCommitment :=
      filed.gives_again reads.inertiaCommitment (completes _) (by simp [sheet]) }

theorem scale_again (filed : plant.Filed group) :
    scaleOfGroup plant.sheet.group = .ok plant.scale := by
  obtain ⟨given, read, scale⟩ := scaleOfGroup_eq_ok.mp filed.scale
  have written : plant.sheet.group.field? "Scale" = plant.scaleField :=
    Sheet.field? (by simp [sheet])
  refine scaleOfGroup_eq_ok.mpr ?_
  unfold scaleField at written
  split at written
  · rename_i present
    cases given with
    | none =>
        rw [scale, filed.layouts, Layouts.hasField_ofGroup, Group.doubles?_eq_none.mp read]
          at present
        cases present
    | some given =>
        rw [filed.layouts] at written
        -- a short form of a single value has that value or none
        have short {short : List Float} (fits : compact? [plant.scale] given.length = some short) :
            short = [] ∧ given = [] ∨ ∃ rest, given = plant.scale :: rest ∧
              (∀ value ∈ short, value = plant.scale) ∧ short.head? = some plant.scale := by
          have length := length_of_compact? fits
          have only (value : Float) (member : value ∈ short) : value = plant.scale :=
            List.mem_singleton.mp (mem_of_compact? fits member)
          cases given with
          | nil => exact .inl ⟨List.eq_nil_of_length_eq_zero length, rfl⟩
          | cons first rest =>
              cases short with
              | nil => cases length
              | cons value others =>
                  refine .inr ⟨rest, by rw [scale]; rfl, only, ?_⟩
                  rw [List.head?_cons, only value (by simp)]
        rcases Layouts.doubles?_fieldFor read written fun values fits value member => by
            rcases short fits with ⟨rfl, -⟩ | ⟨rest, rfl, only, -⟩
            · cases member
            · exact .inl (by simp [only value member]) with full | ⟨values, fits, form⟩
        · exact ⟨_, full, rfl⟩
        · refine ⟨_, form, ?_⟩
          rcases short fits with ⟨rfl, rfl⟩ | ⟨rest, rfl, -, first⟩
          · exact scale
          · rw [Option.bind_some, first]
            rfl
  · rename_i unwritten
    refine ⟨none, Group.doubles?_eq_none.mpr written, ?_⟩
    rw [filed.layouts, Layouts.hasField_ofGroup, Bool.or_eq_true, not_or,
      Option.not_isSome_iff_eq_none] at unwritten
    rw [Group.doubles?_eq_none.mpr unwritten.2] at read
    cases read
    exact scale

theorem profileField_again (filed : plant.Filed group) {again : Plant Float}
    (layouts : again.layouts = Layouts.ofGroup plant.sheet.group) {name : String}
    {complete : List Float → Except Error (List Float)} {values : List Float}
    (gives : group.Gives name complete values) (completes : IsCompletion complete)
    (listed : (name, plant.profileField name values) ∈ plant.sheet.fields) :
    again.profileField name values = plant.profileField name values := by
  have written := (Sheet.field? listed).trans (profileField_eq filed.layouts gives)
  rw [profileField_eq layouts (filed.gives_again gives completes listed),
    profileField_eq filed.layouts gives]
  refine Group.fieldFor_again written ?_
  rw [written]
  split <;> simp_all

theorem flagField_again {again : Plant Float}
    (layouts : again.layouts = Layouts.ofGroup plant.sheet.group) {name : String} {isOn : Bool}
    (listed : (name, plant.flagField name isOn) ∈ plant.sheet.fields) :
    again.flagField name isOn = plant.flagField name isOn := by
  have written := Sheet.field? listed
  rw [flagField, layouts]
  refine Group.dimsOr_again written ?_
  rw [Layouts.hasField_ofGroup, written, flagField]
  cases isOn <;> cases plant.layouts.hasField name <;> simp

/-- What is read back has the data and the scale that were written. -/
theorem again (filed : plant.Filed group) {again : Plant Float}
    (data : again.data = plant.data) (scale : again.scale = plant.scale)
    (layouts : again.layouts = Layouts.ofGroup plant.sheet.group) :
    again.Filed plant.sheet.group :=
  ⟨data ▸ filed.reads_again, scale ▸ filed.scale_again, layouts⟩

theorem write_again (filed : plant.Filed group) {again : Plant Float}
    (data : again.data = plant.data) (scale : again.scale = plant.scale)
    (layouts : again.layouts = Layouts.ofGroup plant.sheet.group) :
    again.sheet.group = plant.sheet.group := by
  have reads := filed.reads
  have profile {name : String} {values : List Float}
      (gives : group.Gives name (plant.data.expanded · name) values)
      (listed : (name, plant.profileField name values) ∈ plant.sheet.fields) :
      again.profileField name values = plant.profileField name values :=
    filed.profileField_again layouts gives
      (IsCompletion.ofExpand plant.data.generators plant.data.horizon name) listed
  have flagged (name : String) (isOn : Bool)
      (listed : (name, plant.flagField name isOn) ∈ plant.sheet.fields) :
      again.flagField name isOn = plant.flagField name isOn :=
    flagField_again layouts listed
  have generators := generatorsDim_again layouts (congrArg PlantData.generators data)
  have linearCost : again.linearCostField = plant.linearCostField := by
    rw [(filed.again data scale layouts).linearCostField_eq, filed.linearCostField_eq, data]
    exact profile reads.linearCost (by simp [sheet, filed.linearCostField_eq])
  have scaled : again.scaleField = plant.scaleField := by
    have written : plant.sheet.group.field? "Scale" = plant.scaleField :=
      Sheet.field? (by simp [sheet])
    rw [scaleField, layouts, scale]
    refine Group.fieldFor_again written ?_
    rw [Layouts.hasField_ofGroup, written, scaleField]
    split <;> simp_all
  refine Sheet.group_congr (Page.ext ?_ ?_) rfl
  · simp only [sheet, generators, horizon, data]
  · simp only [sheet, linearCost, scaled, data, profile reads.minPower (by simp [sheet]),
      profile reads.maxPower (by simp [sheet]),
      flagged "Commitment" plant.data.commitment (by simp [sheet]),
      flagged "PrimaryReserve" plant.data.primaryReserve (by simp [sheet]),
      flagged "SecondaryReserve" plant.data.secondaryReserve (by simp [sheet]),
      profile reads.fixedConsumption (by simp [sheet]),
      profile reads.inertiaPower (by simp [sheet]),
      profile reads.inertiaCommitment (by simp [sheet])]

end Filed

end Dispatch.Plant
