import Dispatch.Proofs.Group.Forms
import Dispatch.Schedule.File

namespace Dispatch

/-! Zonal requirements and emission budgets that are read, written and read again. -/

/-- An empty array stands for nothing at all. -/
def unlessEmpty (complete : List Float → Except Error (List Float)) (given : List Float) :
    Except Error (List Float) :=
  if given.isEmpty then .ok [] else complete given

theorem IsCompletion.unlessEmpty {complete : List Float → Except Error (List Float)}
    (completes : IsCompletion complete) : IsCompletion (unlessEmpty complete) := by
  intro given values full
  unfold Dispatch.unlessEmpty at full ⊢
  split at full
  · rename_i empty
    cases full
    exact ⟨⟨1, by rw [List.isEmpty_iff.mp empty]; rfl⟩, rfl⟩
  · obtain ⟨stretched, stable⟩ := completes given values full
    refine ⟨stretched, ?_⟩
    split
    · rename_i empty
      rw [List.isEmpty_iff.mp empty]
    · exact stable

namespace Zoning

variable {group saved : Group} {label : String} {horizon : Nat} {zoning : Zoning Float}
  {layouts : Layouts}

/-- The zone count that goes without saying. -/
def implied (demand : List Float) : Nat :=
  if demand.isEmpty then 0 else 1

/-- How demand that is given is completed. -/
def completed (label : String) (count horizon : Nat) : List Float → Except Error (List Float) :=
  unlessEmpty (broadcast · (count * horizon) (label ++ "Demand"))

/-- The zone count is implied by the demand that is given, which is then completed. -/
structure Reads (group : Group) (label : String) (horizon : Nat) (zoning : Zoning Float) :
    Prop where
  demand : ∃ given, group.doubles? (label ++ "Demand") = .ok given ∧
    (group.dim? (countName label)).getD (implied (given.getD [])) = zoning.count ∧
    completed label zoning.count horizon (given.getD []) = .ok zoning.demand
  zones : group.Lists (label ++ "Zones") (.counts zoning.zones)

theorem ofGroup_eq (group : Group) (label : String) (horizon : Nat) :
    ofGroup group label horizon = do
      let given := (← group.doubles? (label ++ "Demand")).getD []
      let count := (group.dim? (countName label)).getD (implied given)
      let demand ← completed label count horizon given
      let zones ← group.counts? (label ++ "Zones")
      return ⟨count, zones.getD [], demand⟩ := by
  refine bind_congr fun given => ?_
  simp only [completed, unlessEmpty, implied]
  split <;> rfl

theorem ofGroup_eq_ok : ofGroup group label horizon = .ok zoning ↔
    Reads group label horizon zoning := by
  rw [ofGroup_eq]
  constructor
  · intro read
    obtain ⟨given, hasDemand, read⟩ := Except.bind_eq_ok.mp read
    obtain ⟨demand, full, read⟩ := Except.bind_eq_ok.mp read
    obtain ⟨zones, hasZones, read⟩ := Except.bind_eq_ok.mp read
    cases read
    exact ⟨⟨given, hasDemand, rfl, full⟩, Group.counts?_getD.mp ⟨zones, hasZones, rfl⟩⟩
  · rintro ⟨⟨given, hasDemand, count, full⟩, zones⟩
    obtain ⟨zones, hasZones, listed⟩ := Group.counts?_getD.mpr zones
    refine Except.bind_eq_ok.mpr ⟨given, hasDemand, ?_⟩
    dsimp only
    rw [count]
    refine Except.bind_eq_ok.mpr ⟨_, full, Except.bind_eq_ok.mpr ⟨_, hasZones, ?_⟩⟩
    rw [listed]
    rfl

theorem Reads.gives (reads : Reads group label horizon zoning) :
    group.Gives (label ++ "Demand") (completed label zoning.count horizon) zoning.demand := by
  obtain ⟨given, hasDemand, -, full⟩ := reads.demand
  cases given with
  | none => exact .inl ⟨Group.doubles?_eq_none.mp hasDemand, (Except.ok.inj full).symm⟩
  | some given => exact .inr ⟨given, hasDemand, full⟩

/-- Completed over at least one instant, demand implies the zone count that it implied as it
was given. -/
theorem Reads.count (reads : Reads group label horizon zoning) (lasting : 1 ≤ horizon) :
    (group.dim? (countName label)).getD (implied zoning.demand) = zoning.count := by
  obtain ⟨given, -, count, full⟩ := reads.demand
  cases stated : group.dim? (countName label) with
  | some other => rwa [stated] at count
  | none =>
      rw [stated, Option.getD_none] at count
      rw [Option.getD_none]
      by_cases empty : (given.getD []).isEmpty
      · rw [completed, unlessEmpty, if_pos empty] at full
        rw [← count, ← Except.ok.inj full, List.isEmpty_iff.mp empty]
      · rw [implied, if_neg empty] at count
        rw [completed, unlessEmpty, if_neg empty, ← count, Nat.one_mul] at full
        rw [← count, implied, if_neg]
        intro none
        have length := broadcast_ok full
        rw [List.isEmpty_iff.mp none, List.length_nil] at length
        omega

/-- Demand that is there only if it has values implies the same count as what gives it. -/
theorem Reads.of_gives
    (gives : group.Gives (label ++ "Demand") (completed label zoning.count horizon) zoning.demand)
    (count : (group.dim? (countName label)).getD (implied zoning.demand) = zoning.count)
    (left : zoning.demand = [] → group.field? (label ++ "Demand") = .none)
    (zones : group.Lists (label ++ "Zones") (.counts zoning.zones)) :
    Reads group label horizon zoning where
  zones := zones
  demand := by
    rcases gives with ⟨absent, empty⟩ | ⟨given, read, full⟩
    · rw [empty] at count ⊢
      exact ⟨.none, Group.doubles?_eq_none.mpr absent, count, rfl⟩
    · refine ⟨some given, read, ?_, full⟩
      have present : zoning.demand ≠ [] := fun empty => by
        have present := Group.isSome_field?_of_doubles? read
        simp [left empty] at present
      have nonempty : given ≠ [] := by
        rintro rfl
        exact present (Except.ok.inj full).symm
      rw [← count]
      simp [implied, present, nonempty]

def page (zoning : Zoning Float) (label : String) (layouts : Layouts) : Page where
  dims := [
    (countName label,
      if zoning.count ≠ implied zoning.demand ∨ layouts.hasDim (countName label) then
        some zoning.count
      else .none)]
  fields := [
    (label ++ "Zones",
      Group.plainField layouts (label ++ "Zones") ["NumberNodes"] (.counts zoning.zones)),
    (label ++ "Demand",
      Group.givenField layouts (label ++ "Demand") [countName label, "TimeHorizon"]
        zoning.demand)]

theorem write_eq_fillIn (zoning : Zoning Float) (group : Group) (label : String)
    (layouts : Layouts) :
    zoning.write group label layouts = (zoning.page label layouts).fillIn group := by
  simp only [write, Group.setDim_eq_fillDim, Group.ite_fillDim, Group.ite_putCounts,
    Group.ite_putDoubles]
  rfl

theorem Reads.fits (reads : Reads group label horizon zoning) (lasting : 1 ≤ horizon) :
    (zoning.page label (Layouts.ofGroup group)).Fits group where
  dims := by
    simp only [page, List.forall_mem_cons]
    refine ⟨fun written => ?_, nofun⟩
    by_contra absent
    have count := reads.count lasting
    rw [Option.not_isSome_iff_eq_none.mp absent, Option.getD_none] at count
    simp [absent, count] at written
  fields := by
    simp only [page, List.forall_mem_cons]
    exact ⟨reads.zones.isSome_of_plainField, reads.gives.isSome_of_givenField, nofun⟩

theorem Reads.again (reads : Reads group label horizon zoning)
    (stands : (zoning.page label (Layouts.ofGroup group)).Stands saved) :
    Reads saved label horizon zoning := by
  have dims := stands.dims
  have fields := stands.fields
  simp only [page, List.forall_mem_cons] at dims fields
  obtain ⟨count, -⟩ := dims
  obtain ⟨zones, demand, -⟩ := fields
  refine .of_gives (reads.gives.given_again (IsCompletion.ofBroadcast _ _).unlessEmpty demand) ?_
    (fun empty => ?_) (Group.lists_again zones)
  · rw [count]
    split
    · rfl
    · rename_i unsaid
      exact (not_not.mp (not_or.mp unsaid).1).symm
  · rw [demand, empty]
    rfl

theorem page_again (stands : (zoning.page label layouts).Stands saved) :
    zoning.page label (Layouts.ofGroup saved) = zoning.page label layouts := by
  have dims := stands.dims
  have fields := stands.fields
  simp only [page, List.forall_mem_cons] at dims fields
  obtain ⟨count, -⟩ := dims
  obtain ⟨zones, demand, -⟩ := fields
  simp only [page, Group.plainField_again zones, Group.givenField_again demand]
  congr 3
  rw [Layouts.hasDim_ofGroup, count]
  split <;> simp_all

end Zoning

namespace Emissions

variable {group saved : Group} {horizon generators : Nat} {emissions : Emissions Float}
  {layouts : Layouts}

theorem pollutants_none : (none : Emissions Float).pollutants = 0 := rfl

/-- The budgets of at least one pollutant as they stand in a group. -/
structure Budgets (group : Group) (horizon generators : Nat) (emissions : Emissions Float) :
    Prop where
  pollutants : group.dim? "NumberPollutants" = some emissions.pollutants
  positive : emissions.pollutants ≠ 0
  zoneCounts : ∃ given, group.counts? "NumberPollutantZones" = .ok given ∧
    given.getD (List.replicate emissions.pollutants 1) = emissions.zoneCounts
  zones : group.Lists "PollutantZones" (.counts emissions.zones)
  hasBudget : (group.field? "PollutantBudget").isSome
  hasRates : (group.field? "PollutantRho").isSome
  budget : group.Gives "PollutantBudget"
    (broadcast · emissions.totalZones "PollutantBudget") emissions.budget
  rates : group.Gives "PollutantRho"
    (broadcast · (horizon * emissions.pollutants * generators) "PollutantRho") emissions.rates

theorem checkSize_eq_ok {what : String} {expected found : Nat} :
    checkSize what expected found = .ok ⟨⟩ ↔ found = expected := by
  unfold checkSize
  split <;> simp_all

theorem ofGroup_eq_ok : ofGroup group horizon generators = .ok emissions ↔
    (group.dim? "NumberPollutants").getD 0 = 0 ∧ emissions = none ∨
      Budgets group horizon generators emissions := by
  constructor
  · intro read
    unfold ofGroup at read
    dsimp only at read
    split at read
    · rename_i absent
      cases read
      exact .inl ⟨absent, rfl⟩
    · rename_i present
      obtain ⟨pollutants, stated⟩ : ∃ pollutants, group.dim? "NumberPollutants" = some pollutants :=
        Option.ne_none_iff_exists'.mp fun absent => present (by rw [absent]; rfl)
      rw [stated, Option.getD_some] at read present
      obtain ⟨given, hasCounts, read⟩ := Except.bind_eq_ok.mp read
      generalize counts : given.getD (List.replicate pollutants 1) = zoneCounts at read
      obtain ⟨_, fits, read⟩ := Except.bind_eq_ok.mp read
      obtain rfl := checkSize_eq_ok.mp fits
      obtain ⟨givenBudget, hasBudget, read⟩ := Except.bind_eq_ok.mp read
      obtain ⟨zones, hasZones, read⟩ := Except.bind_eq_ok.mp read
      obtain ⟨budget, fullBudget, read⟩ := Except.bind_eq_ok.mp read
      obtain ⟨givenRates, hasRates, read⟩ := Except.bind_eq_ok.mp read
      obtain ⟨rates, fullRates, read⟩ := Except.bind_eq_ok.mp read
      cases read
      exact .inr {
        pollutants := stated
        positive := present
        zoneCounts := ⟨given, hasCounts, counts⟩
        zones := Group.counts?_getD.mp ⟨zones, hasZones, rfl⟩
        hasBudget := Group.isSome_field?_of_doubles? (Group.doubles_eq_ok.mp hasBudget)
        hasRates := Group.isSome_field?_of_doubles? (Group.doubles_eq_ok.mp hasRates)
        budget := .inr ⟨givenBudget, Group.doubles_eq_ok.mp hasBudget, fullBudget⟩
        rates := .inr ⟨givenRates, Group.doubles_eq_ok.mp hasRates, fullRates⟩ }
  · rintro (⟨absent, rfl⟩ | reads)
    · unfold ofGroup
      dsimp only
      rw [if_pos absent]
      rfl
    · obtain ⟨givenCounts, hasCounts, counts⟩ := reads.zoneCounts
      obtain ⟨givenZones, hasZones, zones⟩ := Group.counts?_getD.mpr reads.zones
      obtain ⟨givenBudget, hasBudget, fullBudget⟩ := reads.budget.of_present reads.hasBudget
      obtain ⟨givenRates, hasRates, fullRates⟩ := reads.rates.of_present reads.hasRates
      unfold ofGroup
      simp only [reads.pollutants, Option.getD_some, if_neg reads.positive]
      refine Except.bind_eq_ok.mpr ⟨givenCounts, hasCounts, ?_⟩
      rw [counts]
      refine Except.bind_eq_ok.mpr ⟨⟨⟩, checkSize_eq_ok.mpr rfl, ?_⟩
      refine Except.bind_eq_ok.mpr ⟨_, Group.doubles_eq_ok.mpr hasBudget, ?_⟩
      refine Except.bind_eq_ok.mpr ⟨givenZones, hasZones, ?_⟩
      refine Except.bind_eq_ok.mpr ⟨_, fullBudget, ?_⟩
      refine Except.bind_eq_ok.mpr ⟨_, Group.doubles_eq_ok.mpr hasRates, ?_⟩
      refine Except.bind_eq_ok.mpr ⟨_, fullRates, ?_⟩
      rw [zones]
      rfl

def zoneCountsField (emissions : Emissions Float) (layouts : Layouts) : Option Field :=
  if (emissions.zoneCounts.any fun count => count != 1) ||
      layouts.hasField "NumberPollutantZones" then
    some ⟨layouts.dimsOr "NumberPollutantZones" ["NumberPollutants"],
      .counts emissions.zoneCounts⟩
  else .none

def page (emissions : Emissions Float) (layouts : Layouts) : Page :=
  if emissions.pollutants = 0 then {
    dims := [
      ("NumberPollutants", if layouts.hasDim "NumberPollutants" then some 0 else .none)]
    fields := [] }
  else {
    dims := [("NumberPollutants", some emissions.pollutants)]
    fields := [
      ("NumberPollutantZones", emissions.zoneCountsField layouts),
      ("PollutantZones",
        Group.plainField layouts "PollutantZones" ["NumberPollutants", "NumberNodes"]
          (.counts emissions.zones)),
      ("PollutantBudget",
        some (layouts.fieldFor "PollutantBudget" ["TotalNumberPollutantZones"]
          emissions.budget)),
      ("PollutantRho",
        some (layouts.fieldFor "PollutantRho"
          ["TimeHorizon", "NumberPollutants", "NumberElectricalGenerators"]
          emissions.rates))] }

theorem write_eq_fillIn (emissions : Emissions Float) (group : Group) (layouts : Layouts) :
    emissions.write group layouts = (emissions.page layouts).fillIn group := by
  unfold write page
  split
  · rw [Group.setDim_eq_fillDim, Group.ite_fillDim]
    rfl
  · simp only [Group.ite_putCounts]
    simp only [Group.setDim_eq_fillDim, Group.putCounts_eq_fill, Group.putDoubles_eq_fill,
      Group.ite_fill]
    rfl

theorem Budgets.fits (budgets : Budgets group horizon generators emissions) :
    (emissions.page (Layouts.ofGroup group)).Fits group := by
  rw [page, if_neg budgets.positive]
  constructor
  · simp only [List.forall_mem_cons]
    exact ⟨fun _ => Option.isSome_of_eq_some budgets.pollutants, nofun⟩
  · simp only [List.forall_mem_cons]
    refine ⟨fun written => ?_, budgets.zones.isSome_of_plainField, fun _ => budgets.hasBudget,
      fun _ => budgets.hasRates, nofun⟩
    -- without zone counts every pollutant has a single zone
    by_contra absent
    obtain ⟨given, read, counts⟩ := budgets.zoneCounts
    rw [Option.not_isSome_iff_eq_none] at absent
    rw [Group.counts?_eq_none.mpr absent] at read
    cases read
    simp [zoneCountsField, absent, ← counts] at written

theorem Budgets.again (budgets : Budgets group horizon generators emissions)
    (stands : (emissions.page (Layouts.ofGroup group)).Stands saved) :
    Budgets saved horizon generators emissions := by
  rw [page, if_neg budgets.positive] at stands
  have dims := stands.dims
  have fields := stands.fields
  simp only [List.forall_mem_cons] at dims fields
  obtain ⟨pollutants, -⟩ := dims
  obtain ⟨zoneCounts, zones, budget, rates, -⟩ := fields
  have present {name : String} {field : Field} (found : saved.field? name = some field) :
      (saved.field? name).isSome := Option.isSome_of_eq_some found
  exact {
    pollutants := pollutants
    positive := budgets.positive
    zoneCounts := by
      unfold zoneCountsField at zoneCounts
      split at zoneCounts
      · exact ⟨_, Group.counts?_of_counts zoneCounts, rfl⟩
      · rename_i unwritten
        rw [Layouts.hasField_ofGroup, Bool.or_eq_true, not_or,
          Option.not_isSome_iff_eq_none] at unwritten
        obtain ⟨given, read, counts⟩ := budgets.zoneCounts
        rw [Group.counts?_eq_none.mpr unwritten.2] at read
        cases read
        exact ⟨_, Group.counts?_eq_none.mpr zoneCounts, counts⟩
    zones := Group.lists_again zones
    hasBudget := present budget
    hasRates := present rates
    budget := budgets.budget.again (IsCompletion.ofBroadcast _ _)
      (budget.trans (if_pos trivial).symm)
      (fun _ => budgets.hasBudget) fun never => absurd trivial never
    rates := budgets.rates.again (IsCompletion.ofBroadcast _ _) (rates.trans (if_pos trivial).symm)
      (fun _ => budgets.hasRates) fun never => absurd trivial never }

theorem fits_of_ofGroup (read : ofGroup group horizon generators = .ok emissions) :
    (emissions.page (Layouts.ofGroup group)).Fits group := by
  rcases ofGroup_eq_ok.mp read with ⟨-, rfl⟩ | budgets
  · rw [page, if_pos pollutants_none]
    constructor
    · simp
    · exact nofun
  · exact budgets.fits

theorem ofGroup_again (read : ofGroup group horizon generators = .ok emissions)
    (stands : (emissions.page (Layouts.ofGroup group)).Stands saved) :
    ofGroup saved horizon generators = .ok emissions := by
  rcases ofGroup_eq_ok.mp read with ⟨-, rfl⟩ | budgets
  · rw [page, if_pos pollutants_none] at stands
    have dims := stands.dims
    simp only [List.forall_mem_cons] at dims
    refine ofGroup_eq_ok.mpr (.inl ⟨?_, rfl⟩)
    rw [dims.1]
    split <;> rfl
  · exact ofGroup_eq_ok.mpr (.inr (budgets.again stands))

theorem page_again (stands : (emissions.page layouts).Stands saved) :
    emissions.page (Layouts.ofGroup saved) = emissions.page layouts := by
  unfold page at stands ⊢
  split at stands
  · rename_i absent
    have dims := stands.dims
    simp only [List.forall_mem_cons] at dims
    rw [if_pos absent, if_pos absent, Layouts.hasDim_ofGroup, dims.1]
    congr 3
    split <;> simp_all
  · rename_i present
    have fields := stands.fields
    simp only [List.forall_mem_cons] at fields
    obtain ⟨zoneCounts, zones, budget, rates, -⟩ := fields
    have counts : emissions.zoneCountsField (Layouts.ofGroup saved) =
        emissions.zoneCountsField layouts := by
      refine Group.dimsOr_again zoneCounts ?_
      rw [Layouts.hasField_ofGroup, zoneCounts, zoneCountsField]
      split <;> simp_all
    rw [if_neg present, if_neg present]
    simp only [counts, Group.plainField_again zones, Layouts.fieldFor_again budget,
      Layouts.fieldFor_again rates]

end Emissions

end Dispatch
