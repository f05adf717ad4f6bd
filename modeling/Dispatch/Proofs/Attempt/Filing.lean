import Dispatch.Proofs.Attempt.Reading
import Dispatch.Proofs.Group.Runs

namespace Dispatch

/-! Writing of a schedule with all of its lookups. Short forms are read off the first values
of pieces, and pieces are cut only to a size that is not zero. -/

namespace Lookup

variable {α : Type}

/-- Pieces of size zero would stop the program. -/
def pieces? (size : Nat) (values : List α) : Option (List (List α)) :=
  if size = 0 then none else some (pieces size values)

theorem pieces?_eq {size : Nat} (positive : 0 < size) (values : List α) :
    pieces? size values = some (pieces size values) :=
  if_neg (Nat.ne_of_gt positive)

theorem allM_eq_some {lookup : α → Option Bool} {entry : α → Bool} {items : List α}
    (found : ∀ item ∈ items, lookup item = some (entry item)) :
    items.allM lookup = some (items.all entry) := by
  induction items with
  | nil => rfl
  | cons item rest induction =>
      rw [List.allM, found item (by simp), List.all_cons]
      change (match entry item with | true => rest.allM lookup | false => some false) = _
      rw [induction fun other member => found other (by simp [member])]
      cases entry item <;> rfl

/-- Pieces are not empty. -/
theorem firsts_pieces (size : Nat) (values : List α) :
    (pieces size values).mapM (fun piece => piece[0]?) =
      some ((pieces size values).filterMap List.head?) := by
  simp only [← List.head?_eq_getElem?]
  refine mapM_eq_filterMap fun piece member => ?_
  exact List.isSome_head?.mpr (ne_nil_of_mem_pieces member)

end Lookup

section ShortForms

variable {K : Type} [Scalar K]

/-- Every value is compared with the first one, which is looked up for it. -/
def isRun? (values : List K) : Option Bool :=
  values.allM fun value => do return value == (← values[0]?)

theorem isRun?_eq (values : List K) : isRun? values = some (isRun values) := by
  cases values with
  | nil => rfl
  | cons first rest => exact Lookup.allM_eq_some fun value _ => rfl

def compactIn? (values : List K) (size : Nat) : Option (Option (List K)) :=
  if size = values.length then some (some values)
  else if size = 0 ∨ values.isEmpty then some none
  else do
    let (length, rest) ← Lookup.divide? values.length size
    if rest ≠ 0 then return none
    let runs ← Lookup.pieces? length values
    if ← runs.allM isRun? then return some (← runs.mapM fun run => run[0]?)
    return none

theorem compactIn?_eq (values : List K) (size : Nat) :
    compactIn? values size = some (compact? values size) := by
  unfold compactIn? compact?
  by_cases full : size = values.length
  · rw [if_pos full, if_pos full]
  rw [if_neg full, if_neg full]
  by_cases degenerate : size = 0 ∨ values.isEmpty
  · rw [if_pos degenerate, if_pos (degenerate.imp_right .inl)]
  have positive : 0 < size := Nat.pos_of_ne_zero fun zero => degenerate (.inl zero)
  rw [if_neg degenerate, Lookup.divide?_eq _ positive]
  by_cases uneven : values.length % size = 0
  · have given : values ≠ [] := fun empty => degenerate (.inr (by simp [empty]))
    have long : 0 < values.length / size := Nat.div_pos
      (Nat.le_of_dvd (List.length_pos_iff.mpr given) (Nat.dvd_of_mod_eq_zero uneven)) positive
    have even : ¬(size = 0 ∨ values.isEmpty = true ∨ values.length % size ≠ 0) := by tauto
    rw [if_neg even]
    simp only [Option.bind_eq_bind, Option.bind_some, Option.pure_def, uneven, ne_eq,
      not_true_eq_false, if_false, Lookup.pieces?_eq long,
      Lookup.allM_eq_some fun run _ => isRun?_eq run, Lookup.firsts_pieces]
    split <;> rfl
  · rw [if_pos (.inr (.inr uneven))]
    simp [uneven]

end ShortForms

namespace Layouts

def fieldFor? (layouts : Layouts) (name : String) (dims : List String)
    (values : List Float) : Option Field :=
  match layouts.layout? name with
  | .none => some ⟨dims, .doubles values⟩
  | some layout => do
      match ← compactIn? values layout.size with
      | .none => return ⟨dims, .doubles values⟩
      | some short =>
          if layout.isCounts && short.all Float.isCount then
            return ⟨layout.dims, .counts (short.map countOf)⟩
          else return ⟨layout.dims, .doubles short⟩

def putDoubles? (layouts : Layouts) (group : Group) (name : String) (dims : List String)
    (values : List Float) : Option Group := do
  let field ← layouts.fieldFor? name dims values
  return { group with fields := Sorted.insert group.fields name field }

theorem fieldFor?_eq (layouts : Layouts) (name : String) (dims : List String)
    (values : List Float) :
    layouts.fieldFor? name dims values = some (layouts.fieldFor name dims values) := by
  unfold fieldFor? fieldFor
  cases layouts.layout? name with
  | none => rfl
  | some layout =>
      dsimp only
      rw [compactIn?_eq]
      cases compact? values layout.size with
      | none => rfl
      | some short => exact (apply_ite some _ _ _).symm

theorem putDoubles?_eq (layouts : Layouts) (group : Group) (name : String)
    (dims : List String) (values : List Float) :
    layouts.putDoubles? group name dims values =
      some (layouts.putDoubles group name dims values) := by
  unfold putDoubles?
  rw [fieldFor?_eq]
  rfl

end Layouts

namespace DcData

def putOptional? (data : DcData Float) (group : Group) (name : String)
    (values : List Float) : Option Group :=
  if values.isEmpty then some group
  else data.layouts.putDoubles? group name ["NumberLines"] values

def writeLines? (data : DcData Float) (group : Group) : Option Group := do
  let lines := ["NumberLines"]
  let layouts := data.layouts
  let group := group.setDim "NumberLines" data.lines
  let group := group.putCounts "StartLine" (layouts.dimsOr "StartLine" lines) data.start
  let group := group.putCounts "EndLine" (layouts.dimsOr "EndLine" lines) data.finish
  let group ← layouts.putDoubles? group "MinPowerFlow" lines data.minFlow
  let group ← layouts.putDoubles? group "MaxPowerFlow" lines data.maxFlow
  let group ← data.putOptional? group "Susceptance" data.susceptance
  let group ← data.putOptional? group "NetworkCost" data.cost
  let group ←
    match data.factors with
    | none => some group
    | some matrix =>
        layouts.putDoubles? group "PTDF" ["NumberLines", "NumberNodes"] matrix
  return data.putNames group "LineName" lines data.lineNames

def write? (data : DcData Float) (group : Group) : Option Group :=
  let group :=
    if data.nodes ≠ 1 ∨ data.layouts.hasDim "NumberNodes" then
      group.setDim "NumberNodes" data.nodes
    else group
  let group := data.putNames group "NodeName" ["NumberNodes"] data.nodeNames
  if data.nodes ≤ 1 then some group else data.writeLines? group

theorem putOptional?_eq (data : DcData Float) (group : Group) (name : String)
    (values : List Float) :
    data.putOptional? group name values = some (data.putOptional group name values) := by
  unfold putOptional? putOptional
  rw [Layouts.putDoubles?_eq]
  exact (apply_ite some _ _ _).symm

theorem writeLines?_eq (data : DcData Float) (group : Group) :
    data.writeLines? group = some (data.writeLines group) := by
  unfold writeLines? writeLines
  simp only [Layouts.putDoubles?_eq, putOptional?_eq, Option.bind_eq_bind, Option.bind_some]
  cases data.factors <;> rfl

theorem write?_eq (data : DcData Float) (group : Group) :
    data.write? group = some (data.write group) := by
  unfold write? write
  simp only [writeLines?_eq]
  exact (apply_ite some _ _ _).symm

end DcData

def Descriptor.write? : Descriptor Float → Group → Option Group
  | .dc data, group => data.write? group
  | .extension outside, group => some (outside.write group)

theorem Descriptor.write?_eq (descriptor : Descriptor Float) (group : Group) :
    descriptor.write? group = some (descriptor.write group) := by
  cases descriptor with
  | dc data => exact data.write?_eq group
  | extension outside => rfl

def Zoning.write? (zoning : Zoning Float) (group : Group) (label : String)
    (layouts : Layouts) : Option Group :=
  let name := countName label
  let implied := if zoning.demand.isEmpty then 0 else 1
  let group :=
    if zoning.count ≠ implied ∨ layouts.hasDim name then group.setDim name zoning.count
    else group
  let group :=
    if zoning.zones.isEmpty then group
    else
      let zonesName := label ++ "Zones"
      group.putCounts zonesName (layouts.dimsOr zonesName ["NumberNodes"]) zoning.zones
  if zoning.demand.isEmpty then some group
  else layouts.putDoubles? group (label ++ "Demand") [name, "TimeHorizon"] zoning.demand

theorem Zoning.write?_eq (zoning : Zoning Float) (group : Group) (label : String)
    (layouts : Layouts) :
    zoning.write? group label layouts = some (zoning.write group label layouts) := by
  unfold write? write
  simp only [Layouts.putDoubles?_eq]
  exact (apply_ite some _ _ _).symm

def Emissions.write? (emissions : Emissions Float) (group : Group) (layouts : Layouts) :
    Option Group :=
  if emissions.pollutants = 0 then
    some (if layouts.hasDim "NumberPollutants" then group.setDim "NumberPollutants" 0
      else group)
  else do
    let group := group.setDim "NumberPollutants" emissions.pollutants
    let group :=
      if (emissions.zoneCounts.any fun count => count != 1) ||
          layouts.hasField "NumberPollutantZones" then
        group.putCounts "NumberPollutantZones"
          (layouts.dimsOr "NumberPollutantZones" ["NumberPollutants"])
          emissions.zoneCounts
      else group
    let group :=
      if emissions.zones.isEmpty then group
      else
        group.putCounts "PollutantZones"
          (layouts.dimsOr "PollutantZones" ["NumberPollutants", "NumberNodes"])
          emissions.zones
    let group ← layouts.putDoubles? group "PollutantBudget"
      ["TotalNumberPollutantZones"] emissions.budget
    layouts.putDoubles? group "PollutantRho"
      ["TimeHorizon", "NumberPollutants", "NumberElectricalGenerators"] emissions.rates

theorem Emissions.write?_eq (emissions : Emissions Float) (group : Group)
    (layouts : Layouts) :
    emissions.write? group layouts = some (emissions.write group layouts) := by
  unfold write? write
  simp only [Layouts.putDoubles?_eq, Option.bind_eq_bind, Option.bind_some]
  exact (apply_ite some _ _ _).symm

namespace Plant

def shortForm? (values : List Float) (horizon : Nat) :
    Option (List String × List Float) := do
  if ← isRun? values then return ([], [← values[0]?])
  let perGenerator ← Lookup.pieces? horizon values
  if ← perGenerator.allM isRun? then
    return (["NumberGenerators"], ← perGenerator.mapM fun run => run[0]?)
  return (["NumberGenerators", "TimeHorizon"], values)

theorem shortForm?_eq {values : List Float} {horizon : Nat} (given : values ≠ [])
    (positive : 0 < horizon) : shortForm? values horizon = some (shortForm values horizon) := by
  obtain ⟨first, rest, rfl⟩ := List.exists_cons_of_ne_nil given
  unfold shortForm? shortForm
  simp only [isRun?_eq, Lookup.pieces?_eq positive, Lookup.firsts_pieces,
    Lookup.allM_eq_some fun run _ => isRun?_eq run, Option.bind_eq_bind, Option.bind_some]
  split
  · rfl
  · split <;> rfl

def putProfile? (plant : Plant Float) (group : Group) (name : String)
    (values : List Float) : Option Group :=
  if plant.layouts.hasField name then
    plant.layouts.putDoubles? group name ["NumberGenerators", "TimeHorizon"] values
  else if values.isEmpty then some group
  else do
    let (dims, values) ← shortForm? values plant.horizon
    return group.putDoubles name dims values

def putLinearCost? (plant : Plant Float) (group : Group) : Option Group :=
  if (plant.data.linearCost.any fun cost => cost != 0) ||
      plant.layouts.hasField "LinearCost" then
    plant.putProfile? group "LinearCost" plant.data.linearCost
  else some group

def write? (plant : Plant Float) (group : Group) : Option Group := do
  let data := plant.data
  let layouts := plant.layouts
  let group := group.setDim "TimeHorizon" plant.horizon
  let group :=
    if plant.generators ≠ 1 ∨ layouts.hasDim "NumberGenerators" then
      group.setDim "NumberGenerators" plant.generators
    else group
  let group ← plant.putProfile? group "MinPower" data.minPower
  let group ← plant.putProfile? group "MaxPower" data.maxPower
  let group ← plant.putLinearCost? group
  let group := plant.putFlag group "Commitment" data.commitment
  let group := plant.putFlag group "PrimaryReserve" data.primaryReserve
  let group := plant.putFlag group "SecondaryReserve" data.secondaryReserve
  let group ← plant.putProfile? group "FixedConsumption" data.fixedConsumption
  let group ← plant.putProfile? group "InertiaPower" data.inertiaPower
  let group ← plant.putProfile? group "InertiaCommitment" data.inertiaCommitment
  if plant.scale != 1 || layouts.hasField "Scale" then
    layouts.putDoubles? group "Scale" [] [plant.scale]
  else some group

/-- A profile that holds values has an instant. -/
theorem putProfile?_eq {plant : Plant Float} {values : List Float}
    (shaped : values = [] ∨ values.length = plant.generators * plant.horizon) (group : Group)
    (name : String) :
    plant.putProfile? group name values = some (plant.putProfile group name values) := by
  unfold putProfile? putProfile
  rw [Layouts.putDoubles?_eq]
  split
  · rfl
  · split
    · rfl
    · rename_i given
      have present : values ≠ [] := fun empty => given (by simp [empty])
      have full := shaped.resolve_left present
      have positive : 0 < plant.horizon := Nat.pos_of_ne_zero fun zero =>
        present (List.eq_nil_of_length_eq_zero (by rw [full, zero, Nat.mul_zero]))
      rw [shortForm?_eq present positive]
      rfl

theorem write?_eq {plant : Plant Float} (shaped : plant.data.Shaped) (group : Group) :
    plant.write? group = some (plant.write group) := by
  have put {values : List Float} (member : values ∈ plant.data.profiles) (group : Group)
      (name : String) := putProfile?_eq (shaped values member) group name
  simp only [PlantData.profiles, List.mem_cons, List.not_mem_nil, or_false,
    forall_eq_or_imp, forall_eq] at put
  obtain ⟨minPower, maxPower, linearCost, fixed, inertiaPower, inertiaCommitment⟩ := put
  unfold write? write putLinearCost?
  simp only [minPower, maxPower, linearCost, fixed, inertiaPower, inertiaCommitment,
    Layouts.putDoubles?_eq, ← apply_ite some, Option.bind_eq_bind, Option.bind_some]

end Plant

namespace Schedule

def writeNetwork? (schedule : Schedule Float) (group : Group) : Option Group :=
  match schedule.networks.head?.bind Network.descriptor with
  | some holding => do
      let group ← holding.value.write? group
      if schedule.classname ≠ DcData.classname ∨
          schedule.layouts.hasField classnameName then
        return group.putTexts classnameName [] [schedule.classname]
      else return group
  | none =>
      some (if schedule.layouts.hasDim "NumberNodes" then
        group.setDim "NumberNodes" schedule.nodes
      else group)

def writeDemand? (schedule : Schedule Float) (group : Group) : Option Group :=
  if !schedule.demand.isEmpty || schedule.layouts.hasField "ActivePowerDemand" then
    let dims :=
      if schedule.isBus then ["TimeHorizon"] else ["NumberNodes", "TimeHorizon"]
    schedule.layouts.putDoubles? group "ActivePowerDemand" dims schedule.allDemands
  else some group

def writeConstants? (schedule : Schedule Float) (group : Group) : Option Group :=
  if (schedule.networkConstants.any fun constant => constant != 0) ||
      schedule.layouts.hasField "NetworkConstantTerms" then
    schedule.layouts.putDoubles? group "NetworkConstantTerms" ["NumberNetworks"]
      schedule.networkConstants
  else some group

def writePlants? (schedule : Schedule Float) (group : Group) : Option Group :=
  schedule.plants.zipIdx.foldlM
    (fun group entry => do
      return group.addMember (plantName entry.2) (← entry.1.write? Group.empty)) group

def write? (schedule : Schedule Float) (group : Group) : Option Group := do
  let layouts := schedule.layouts
  let group := group.setDim "TimeHorizon" schedule.horizon
  let group := group.setDim "NumberUnits" schedule.plants.length
  let group ← schedule.writeNetwork? group
  let group :=
    if schedule.generatorNode.isEmpty then group
    else
      group.putCounts "GeneratorNode"
        (layouts.dimsOr "GeneratorNode" ["NumberElectricalGenerators"])
        schedule.generatorNode
  let group ← schedule.writeDemand? group
  let group ← schedule.primary.write? group "Primary" layouts
  let group ← schedule.secondary.write? group "Secondary" layouts
  let group ← schedule.inertia.write? group "Inertia" layouts
  let group ← schedule.emissions.write? group layouts
  let group ← schedule.writeConstants? group
  schedule.writePlants? group

theorem writeNetwork?_eq (schedule : Schedule Float) (group : Group) :
    schedule.writeNetwork? group = some (schedule.writeNetwork group) := by
  unfold writeNetwork? writeNetwork
  cases schedule.networks.head?.bind Network.descriptor with
  | none => rfl
  | some holding =>
      simp only [Descriptor.write?_eq, Option.bind_eq_bind, Option.bind_some]
      exact (apply_ite some _ _ _).symm

theorem writeDemand?_eq (schedule : Schedule Float) (group : Group) :
    schedule.writeDemand? group = some (schedule.writeDemand group) := by
  unfold writeDemand? writeDemand
  simp only [Layouts.putDoubles?_eq]
  exact (apply_ite some _ _ _).symm

theorem writeConstants?_eq (schedule : Schedule Float) (group : Group) :
    schedule.writeConstants? group = some (schedule.writeConstants group) := by
  unfold writeConstants? writeConstants
  simp only [Layouts.putDoubles?_eq]
  exact (apply_ite some _ _ _).symm

theorem writePlants?_eq {schedule : Schedule Float} (filled : schedule.Filled)
    (group : Group) : schedule.writePlants? group = some (schedule.writePlants group) := by
  refine Lookup.foldlM_eq_some (fun _ => True) (fun entry listed group _ => ⟨?_, trivial⟩) trivial
  have member := List.mem_of_getElem? (List.mem_zipIdx_iff_getElem?.mp listed)
  rw [Plant.write?_eq (filled.profiles entry.1 member)]
  rfl

theorem write?_eq {schedule : Schedule Float} (filled : schedule.Filled) (group : Group) :
    schedule.write? group = some (schedule.write group) := by
  unfold write? write
  simp only [writeNetwork?_eq, writeDemand?_eq, Zoning.write?_eq, Emissions.write?_eq,
    writeConstants?_eq, writePlants?_eq filled, Option.bind_eq_bind, Option.bind_some]

end Schedule

end Dispatch
