import Dispatch.Proofs.Attempt.Schedule

namespace Dispatch.Schedule

/-! Generators that stand on nodes and belong to zones which exist. Every term, every level
and every bound of such a schedule is found where it is looked up. -/

variable {K : Type}

/-- The profiles of all plants cover the horizon. -/
structure Filled (schedule : Schedule K) : Prop where
  profiles : ∀ plant ∈ schedule.plants, plant.data.Shaped
  horizons : ∀ plant ∈ schedule.plants, plant.horizon = schedule.horizon

/-- What the validation before the constraints has made sure of. -/
structure Placed (schedule : Schedule K) : Prop where
  generatorNode : schedule.generatorNode = [] ∨
    schedule.generatorNode.length = schedule.generators
  within : ∀ node ∈ schedule.generatorNode, node < schedule.nodes
  several : schedule.isBus = false → schedule.generatorNode.length = schedule.generators
  zones : ∀ need, (schedule.zoning need).zones = [] ∨
    (schedule.zoning need).zones.length = schedule.nodes
  pollutantZones : 0 < schedule.emissions.pollutants → schedule.emissions.zones = [] ∨
    schedule.emissions.zones.length = schedule.emissions.pollutants * schedule.nodes
  rates : 0 < schedule.emissions.pollutants →
    schedule.emissions.rates.length =
      schedule.horizon * schedule.emissions.pollutants * schedule.generators

theorem checkSize_ok {what : String} {expected found : Nat} {answer : PUnit}
    (checked : checkSize what expected found = .ok answer) : found = expected := by
  unfold checkSize at checked
  split at checked
  · assumption
  · cases checked

private theorem zoning_of_validate {zoning : Zoning K} {nodes horizon : Nat} {label : String}
    {answer : PUnit.{1}} (valid : zoning.validate nodes horizon label = .ok answer) :
    (zoning.zones = [] ∨ zoning.zones.length = nodes) ∧
      (zoning.demand = [] ∨ zoning.demand.length = zoning.count * horizon) := by
  have demands (checked : (if !zoning.demand.isEmpty then
        checkSize (label ++ "Demand") (zoning.count * horizon) zoning.demand.length
      else pure ⟨⟩ : Except Error PUnit.{1}) = .ok answer) :
      zoning.demand = [] ∨ zoning.demand.length = zoning.count * horizon := by
    split at checked
    · exact .inr (checkSize_ok checked)
    · rename_i absent
      exact .inl (by simpa using absent)
  unfold Zoning.validate at valid
  dsimp only at valid
  split at valid
  · obtain ⟨_, checked, valid⟩ := Except.bind_eq_ok.mp valid
    exact ⟨.inr (checkSize_ok checked), demands valid⟩
  · rename_i absent
    exact ⟨.inl (by simpa using absent), demands valid⟩

private theorem emissions_of_validate {emissions : Emissions K} {nodes horizon generators : Nat}
    {answer : PUnit.{1}} (valid : emissions.validate nodes horizon generators = .ok answer)
    (some : 0 < emissions.pollutants) :
    (emissions.zones = [] ∨ emissions.zones.length = emissions.pollutants * nodes) ∧
      emissions.budget.length = emissions.totalZones ∧
      emissions.rates.length = horizon * emissions.pollutants * generators := by
  unfold Emissions.validate at valid
  rw [if_neg (Nat.ne_of_gt some)] at valid
  dsimp only at valid
  split at valid
  · obtain ⟨_, zones, valid⟩ := Except.bind_eq_ok.mp valid
    obtain ⟨_, budget, valid⟩ := Except.bind_eq_ok.mp valid
    exact ⟨.inr (checkSize_ok zones), checkSize_ok budget, checkSize_ok valid⟩
  · rename_i absent
    obtain ⟨_, budget, valid⟩ := Except.bind_eq_ok.mp valid
    exact ⟨.inl (by simpa using absent), checkSize_ok budget, checkSize_ok valid⟩

/-- What is checked after the places of the generators. -/
private theorem rest_of_validate {schedule : Schedule K} (valid : schedule.validate = .ok ()) :
    (do
      schedule.primary.validate schedule.nodes schedule.horizon "Primary"
      schedule.secondary.validate schedule.nodes schedule.horizon "Secondary"
      schedule.inertia.validate schedule.nodes schedule.horizon "Inertia"
      schedule.emissions.validate schedule.nodes schedule.horizon schedule.generators :
        Except Error PUnit.{1}) = .ok ⟨⟩ := by
  unfold validate at valid
  dsimp only at valid
  split at valid
  · obtain ⟨_, _, valid⟩ := Except.bind_eq_ok.mp valid
    split at valid
    · split at valid
      · cases valid
      · exact valid
    · cases valid
  · split at valid
    · cases valid
    · exact valid

theorem zoning_of_valid {schedule : Schedule K} (valid : schedule.validate = .ok ())
    (need : Need) :
    ((schedule.zoning need).zones = [] ∨
        (schedule.zoning need).zones.length = schedule.nodes) ∧
      ((schedule.zoning need).demand = [] ∨ (schedule.zoning need).demand.length =
        (schedule.zoning need).count * schedule.horizon) := by
  obtain ⟨_, primary, valid⟩ := Except.bind_eq_ok.mp (rest_of_validate valid)
  obtain ⟨_, secondary, valid⟩ := Except.bind_eq_ok.mp valid
  obtain ⟨_, inertia, _⟩ := Except.bind_eq_ok.mp valid
  cases need with
  | primary => exact zoning_of_validate primary
  | secondary => exact zoning_of_validate secondary
  | inertia => exact zoning_of_validate inertia

theorem emissions_of_valid {schedule : Schedule K} (valid : schedule.validate = .ok ())
    (some : 0 < schedule.emissions.pollutants) :
    (schedule.emissions.zones = [] ∨ schedule.emissions.zones.length =
        schedule.emissions.pollutants * schedule.nodes) ∧
      schedule.emissions.budget.length = schedule.emissions.totalZones ∧
      schedule.emissions.rates.length =
        schedule.horizon * schedule.emissions.pollutants * schedule.generators := by
  obtain ⟨_, _, valid⟩ := Except.bind_eq_ok.mp (rest_of_validate valid)
  obtain ⟨_, _, valid⟩ := Except.bind_eq_ok.mp valid
  obtain ⟨_, _, emissions⟩ := Except.bind_eq_ok.mp valid
  exact emissions_of_validate emissions some

theorem placed_of_validate {schedule : Schedule K} (valid : schedule.validate = .ok ()) :
    schedule.Placed := by
  have zones (need : Need) := (zoning_of_valid valid need).1
  have emissions := emissions_of_valid valid
  unfold validate at valid
  dsimp only at valid
  split at valid
  · obtain ⟨_, sizes, valid⟩ := Except.bind_eq_ok.mp valid
    have size := checkSize_ok sizes
    split at valid
    · rename_i nowhere
      refine ⟨.inr size, fun node member => ?_, fun _ => size, zones,
        fun some => (emissions some).1, fun some => (emissions some).2.2⟩
      simpa using List.find?_eq_none.mp nowhere node member
    · cases valid
  · rename_i single
    simp only [Bool.or_eq_true, Bool.not_eq_true', not_or, Bool.not_eq_false] at single
    obtain ⟨bus, absent⟩ := single
    have empty : schedule.generatorNode = [] := List.isEmpty_iff.mp absent
    refine ⟨.inl empty, fun node member => ?_, fun several => ?_, zones,
      fun some => (emissions some).1, fun some => (emissions some).2.2⟩
    · rw [empty] at member
      cases member
    · rw [bus] at several
      cases several

variable {schedule : Schedule K}

/-- The running number of a generator. -/
theorem number_lt {index generator : Nat} {plant : Plant K}
    (found : schedule.plants[index]? = some plant)
    (generator_lt : generator < plant.generators) :
    schedule.offset index + generator < schedule.generators := by
  obtain ⟨index_lt, entry⟩ := List.getElem?_eq_some_iff.mp found
  have total : schedule.generators = schedule.offset index + (plant.generators +
      ((schedule.plants.drop (index + 1)).map Plant.generators).sum) :=
    calc schedule.generators
      _ = ((schedule.plants.take index ++ schedule.plants.drop index).map
            Plant.generators).sum := by
          rw [List.take_append_drop]
          rfl
      _ = _ := by
          rw [List.drop_eq_getElem_cons index_lt, entry, List.map_append, List.sum_append,
            List.map_cons, List.sum_cons]
          rfl
  omega

theorem Placed.nodeOf? (placed : schedule.Placed) {generator : Nat}
    (generator_lt : generator < schedule.generators) :
    schedule.nodeOf? generator = some (schedule.nodeOf generator) := by
  unfold Schedule.nodeOf? Schedule.nodeOf
  split
  · rfl
  · rename_i listed
    cases placed.generatorNode with
    | inl empty => simp [empty] at listed
    | inr size => exact Lookup.getElem?_eq_getD (size ▸ generator_lt) 0

/-- A generator stands on a node, or on the first place of all. -/
theorem Placed.nodeOf_lt (placed : schedule.Placed) {generator : Nat}
    (generator_lt : generator < schedule.generators) :
    schedule.nodeOf generator < schedule.nodes ∨ schedule.nodeOf generator = 0 := by
  unfold Schedule.nodeOf
  split
  · exact .inr rfl
  · rename_i listed
    left
    cases placed.generatorNode with
    | inl empty => simp [empty] at listed
    | inr size =>
        rw [← size] at generator_lt
        exact placed.within _ (List.mem_of_getElem? (Lookup.getElem?_eq_getD generator_lt 0))

theorem Placed.nodeOf_lt_of_several (placed : schedule.Placed)
    (several : schedule.isBus = false) {generator : Nat}
    (generator_lt : generator < schedule.generators) :
    schedule.nodeOf generator < schedule.nodes := by
  have listed := placed.several several
  have within : generator < schedule.generatorNode.length := listed ▸ generator_lt
  have occupied : schedule.generatorNode.isEmpty = false := by
    cases empty : schedule.generatorNode with
    | nil =>
        rw [empty] at within
        cases within
    | cons node rest => rfl
  unfold Schedule.nodeOf
  rw [occupied, if_neg (by simp)]
  exact placed.within _ (List.mem_of_getElem? (Lookup.getElem?_eq_getD within 0))

theorem zoneAt?_eq {zoning : Zoning K} {nodes node : Nat}
    (shaped : zoning.zones = [] ∨ zoning.zones.length = nodes)
    (placed : node < nodes ∨ node = 0) : zoning.zoneAt? node = some (zoning.zone? node) := by
  unfold Zoning.zoneAt? Zoning.zone?
  split
  · rfl
  · rename_i given
    have within : node < zoning.zones.length := by
      have occupied : 0 < zoning.zones.length :=
        List.length_pos_iff.mpr (by simpa using given)
      cases shaped with
      | inl empty => simp [empty] at given
      | inr size => omega
    rw [Lookup.getElem?_eq_getD within 0]
    rfl

theorem pollutantZoneAt?_eq {emissions : Emissions K} {nodes pollutant node : Nat}
    (shaped : emissions.zones = [] ∨ emissions.zones.length = emissions.pollutants * nodes)
    (pollutant_lt : pollutant < emissions.pollutants) (placed : node < nodes ∨ node = 0) :
    emissions.zoneAt? nodes pollutant node = some (emissions.zone? nodes pollutant node) := by
  have count : emissions.zoneCounts[pollutant]? = some (emissions.zoneCount pollutant) :=
    Lookup.getElem?_eq_getD pollutant_lt 0
  unfold Emissions.zoneAt? Emissions.zone?
  rw [count]
  split
  · rfl
  · rename_i given
    have within : pollutant * nodes + node < emissions.zones.length := by
      have occupied : 0 < emissions.zones.length :=
        List.length_pos_iff.mpr (by simpa using given)
      cases shaped with
      | inl empty => simp [empty] at given
      | inr size =>
          rw [size] at occupied ⊢
          refine Family.index_lt pollutant_lt ?_
          have positive := Nat.pos_of_mul_pos_left occupied
          omega
    rw [Lookup.getElem?_eq_getD within 0]
    rfl

theorem pollutant_lt_of_mem {emissions : Emissions K} {pollutant zone : Nat}
    (listed : (pollutant, zone) ∈ pollutantZones emissions) :
    pollutant < emissions.pollutants := by
  obtain ⟨⟨count, position⟩, counted, zoned⟩ := List.mem_flatMap.mp listed
  obtain ⟨other, -, equality⟩ := List.mem_map.mp zoned
  cases equality
  exact (List.getElem?_eq_some_iff.mp (List.mem_zipIdx_iff_getElem?.mp counted)).1

theorem rate?_eq [Zero K] {emissions : Emissions K}
    {horizon generators instant pollutant generator : Nat}
    (rates : emissions.rates.length = horizon * emissions.pollutants * generators)
    (instant_lt : instant < horizon) (pollutant_lt : pollutant < emissions.pollutants)
    (generator_lt : generator < generators) :
    emissions.rate? generators instant pollutant generator =
      some (emissions.rateAt generators instant pollutant generator) := by
  refine Lookup.getElem?_eq_getD ?_ 0
  rw [rates]
  exact Family.index_lt (Family.index_lt instant_lt pollutant_lt) generator_lt

variable [Scalar K]

omit [Scalar K] in
theorem weighted?_some (var? : Option VarRef) (weight : K) :
    weighted? var? (some weight) = some (weighted var? weight) := by
  cases var? <;> rfl

section

variable {plant : Plant K} {generator instant : Nat}

theorem balanceTerms?_eq (shaped : plant.data.Shaped) (generator_lt : generator < plant.generators)
    (instant_lt : instant < plant.horizon) :
    balanceTerms? plant generator instant = some (balanceTerms plant generator instant) := by
  unfold balanceTerms? balanceTerms
  rw [shaped.entry_found (by simp [PlantData.profiles]) generator_lt instant_lt, Option.map_some,
    weighted?_some]
  split <;> rfl

theorem needTerms?_eq (shaped : plant.data.Shaped) (generator_lt : generator < plant.generators)
    (instant_lt : instant < plant.horizon) (need : Need) :
    needTerms? plant need generator instant = some (needTerms plant need generator instant) := by
  cases need with
  | primary => rfl
  | secondary => rfl
  | inertia =>
      unfold needTerms? needTerms
      dsimp only
      rw [shaped.entry_found (by simp [PlantData.profiles]) generator_lt instant_lt,
        shaped.entry_found (by simp [PlantData.profiles]) generator_lt instant_lt, Option.map_some,
        Option.map_some, weighted?_some, weighted?_some]
      split <;> split <;> rfl

end

omit [Scalar K] in
/-- Generators with a known node, of which those that belong have known terms. -/
theorem generatorTerms?_eq (placed : schedule.Placed) {index : Nat} {plant : Plant K}
    (found : schedule.plants[index]? = some plant) {belongs? : Nat → Option Bool}
    {belongs : Nat → Bool} {terms? : Nat → Option (List (VarRef × K))}
    {terms : Nat → List (VarRef × K)}
    (belonging : ∀ node, node < schedule.nodes ∨ node = 0 →
      belongs? node = some (belongs node))
    (contributing : ∀ generator < plant.generators,
      terms? generator = some (terms generator)) :
    schedule.generatorTerms? index plant belongs? terms? =
      some ((List.range plant.generators).flatMap fun generator =>
        if belongs (schedule.nodeOf (schedule.offset index + generator)) then terms generator
        else []) := by
  unfold generatorTerms?
  rw [Lookup.mapM_eq_some fun generator member => by
    have generator_lt := List.mem_range.mp member
    have number := number_lt found generator_lt
    rw [placed.nodeOf? number, contributing generator generator_lt]
    change (do
      if ← belongs? (schedule.nodeOf (schedule.offset index + generator)) then _ else _) = _
    rw [belonging _ (placed.nodeOf_lt number)]
    exact (apply_ite some _ _ _).symm]
  rfl

theorem plantTerms?_eq (filled : schedule.Filled) (placed : schedule.Placed) {index : Nat}
    {plant : Plant K} (found : schedule.plants[index]? = some plant) {kind : LinkKind}
    {row : LinkRow} (member : row ∈ schedule.linkRows kind) :
    schedule.plantTerms? index plant row = some (schedule.plantTerms index plant row) := by
  have present := List.mem_of_getElem? found
  have shaped := filled.profiles plant present
  have horizon := filled.horizons plant present
  cases kind with
  | balance =>
      obtain ⟨instant, instant_lt, node, _, rfl⟩ := Family.mem_table.mp member
      rw [← horizon] at instant_lt
      exact generatorTerms?_eq placed found (fun _ _ => rfl)
        fun generator generator_lt => balanceTerms?_eq shaped generator_lt instant_lt
  | zonal need =>
      obtain ⟨instant, instant_lt, zone, _, rfl⟩ := Family.mem_table.mp member
      rw [← horizon] at instant_lt
      have belonging (node : Nat) (there : node < schedule.nodes ∨ node = 0) :
          (do return (← (schedule.zoning need).zoneAt? node) == some zone) =
            some ((schedule.zoning need).zone? node == some zone) := by
        rw [zoneAt?_eq (placed.zones need) there]
        rfl
      exact generatorTerms?_eq placed found belonging
        fun generator generator_lt => needTerms?_eq shaped generator_lt instant_lt need
  | budget =>
      obtain ⟨⟨pollutant, zone⟩, listed, rfl⟩ := List.mem_map.mp member
      have pollutant_lt := pollutant_lt_of_mem listed
      have present := Nat.lt_of_le_of_lt (Nat.zero_le _) pollutant_lt
      have belonging (node : Nat) (there : node < schedule.nodes ∨ node = 0) :
          (do return (← schedule.emissions.zoneAt? schedule.nodes pollutant node) ==
              some zone) =
            some (schedule.emissions.zone? schedule.nodes pollutant node == some zone) := by
        rw [pollutantZoneAt?_eq (placed.pollutantZones present) pollutant_lt there]
        rfl
      have contributing (instant : Nat) (instant_lt : instant < schedule.horizon)
          (generator : Nat) (generator_lt : generator < plant.generators) :
          schedule.budgetTerms? plant (schedule.offset index) generator pollutant instant =
            some (schedule.budgetTerms plant (schedule.offset index) generator pollutant
              instant) := by
        unfold budgetTerms?
        rw [rate?_eq (placed.rates present) instant_lt pollutant_lt
          (number_lt found generator_lt), Option.map_some, weighted?_some]
        rfl
      unfold plantTerms?
      dsimp only
      rw [Lookup.mapM_eq_some fun instant instants => generatorTerms?_eq placed found
        belonging (contributing instant (List.mem_range.mp instants))]
      rfl

theorem fixedConsumption?_eq (filled : schedule.Filled) (placed : schedule.Placed)
    {index instant : Nat} {plant : Plant K} (found : schedule.plants[index]? = some plant)
    (instant_lt : instant < schedule.horizon) (node : Nat) :
    schedule.fixedConsumption? index plant instant node =
      some (schedule.fixedConsumption index plant instant node) := by
  have present := List.mem_of_getElem? found
  have shaped := filled.profiles plant present
  rw [← filled.horizons plant present] at instant_lt
  unfold fixedConsumption? fixedConsumption
  split
  · rw [Lookup.filterM_eq_some fun generator member => by
      rw [placed.nodeOf? (number_lt found (List.mem_range.mp member))]
      rfl]
    simp only [Option.bind_eq_bind, Option.bind_some]
    rw [Lookup.mapM_eq_some fun generator member => by
      have generator_lt := List.mem_range.mp (List.mem_filter.mp member).1
      rw [shaped.entry_found (by simp [PlantData.profiles]) generator_lt instant_lt]
      rfl]
    rfl
  · rfl

theorem balanceLevel?_eq (filled : schedule.Filled) (placed : schedule.Placed)
    {instant : Nat} (instant_lt : instant < schedule.horizon) (node : Nat) :
    schedule.balanceLevel? instant node = some (schedule.balanceLevel instant node) := by
  unfold balanceLevel? balanceLevel
  rw [Lookup.mapM_eq_some fun entry member => fixedConsumption?_eq filled placed
    (List.mem_zipIdx_iff_getElem?.mp member) instant_lt node, List.mapIdx_eq_zipIdx_map]
  rfl

omit [Scalar K] in
theorem mem_generatorPlaces {plant : Plant K} {generator number : Nat} :
    (plant, generator, number) ∈ schedule.generatorPlaces ↔
      ∃ index, schedule.plants[index]? = some plant ∧ generator < plant.generators ∧
        number = schedule.offset index + generator := by
  simp only [generatorPlaces, List.mem_flatMap, List.mem_map, List.mem_range,
    Prod.exists, Prod.mk.injEq]
  constructor
  · rintro ⟨other, index, listed, _, generator_lt, rfl, rfl, rfl⟩
    exact ⟨index, List.mem_zipIdx_iff_getElem?.mp listed, generator_lt, rfl⟩
  · rintro ⟨index, found, generator_lt, rfl⟩
    exact ⟨plant, index, List.mem_zipIdx_iff_getElem?.mpr found, generator, generator_lt,
      rfl, rfl, rfl⟩

omit [Scalar K] in
/-- The generators at a node are the places that lie there. -/
theorem generatorsAt_eq (schedule : Schedule K) (node : Nat) :
    schedule.generatorsAt node =
      (schedule.generatorPlaces.filter fun place => schedule.nodeOf place.2.2 == node).map
        fun place => (place.1, place.2.1) := by
  unfold generatorsAt generatorPlaces
  rw [List.filter_flatMap, List.map_flatMap]
  refine List.flatMap_congr fun entry _ => ?_
  rw [List.filter_map, List.map_map]
  rfl

/-- One bound of a list that holds a bound for every node. -/
theorem raise?_map {nodes node : Nat} (node_lt : node < nodes) (bound : Nat → K) (amount : K) :
    raise? ((List.range nodes).map bound) node amount =
      some ((List.range nodes).map fun other =>
        if node == other then bound other + amount else bound other) := by
  have found : ((List.range nodes).map bound)[node]? = some (bound node) := by
    simp [node_lt]
  unfold raise?
  rw [found]
  refine congrArg some (List.ext_getElem? fun other => ?_)
  rw [List.getElem?_set]
  by_cases here : node = other
  · subst here
    simp [node_lt]
  · rw [if_neg here, List.getElem?_map, List.getElem?_map]
    by_cases within : other < nodes <;> simp [within, here]

/-- What a generator adds to the lower bound of its node. -/
def addMinimum (instant : Nat) (total : K) (place : Plant K × Nat × Nat) : K :=
  if place.1.data.commitment then total
  else total + place.1.scale * place.1.minPower place.2.1 instant

def addMaximum (instant : Nat) (total : K) (place : Plant K × Nat × Nat) : K :=
  total + place.1.scale * place.1.maxPower place.2.1 instant

/-- All that is looked up for a generator is there. -/
structure Known (schedule : Schedule K) (instant : Nat) (place : Plant K × Nat × Nat) :
    Prop where
  nodeOf? : schedule.nodeOf? place.2.2 = some (schedule.nodeOf place.2.2)
  node_lt : schedule.nodeOf place.2.2 < schedule.nodes
  minPower : PlantData.entry? place.1.data place.1.data.minPower place.2.1 instant =
    some (place.1.minPower place.2.1 instant)
  maxPower : PlantData.entry? place.1.data place.1.data.maxPower place.2.1 instant =
    some (place.1.maxPower place.2.1 instant)

theorem addBounds?_map {instant : Nat} {place : Plant K × Nat × Nat}
    (known : schedule.Known instant place) (minimum maximum : Nat → K) :
    schedule.addBounds? instant
        ((List.range schedule.nodes).map minimum, (List.range schedule.nodes).map maximum)
        place =
      some ((List.range schedule.nodes).map fun node =>
          if schedule.nodeOf place.2.2 == node then addMinimum instant (minimum node) place
          else minimum node,
        (List.range schedule.nodes).map fun node =>
          if schedule.nodeOf place.2.2 == node then addMaximum instant (maximum node) place
          else maximum node) := by
  obtain ⟨plant, generator, number⟩ := place
  unfold addBounds? addMinimum addMaximum
  dsimp only
  rw [known.nodeOf?, known.minPower, known.maxPower]
  simp only [Option.bind_eq_bind, Option.bind_some, raise?_map known.node_lt]
  cases plant.data.commitment with
  | true => simp
  | false => simp

/-- Adding up the bounds of all places, node by node. -/
theorem foldlM_addBounds? {places : List (Plant K × Nat × Nat)} {instant : Nat}
    (known : ∀ place ∈ places, schedule.Known instant place) (minimum maximum : Nat → K) :
    places.foldlM (schedule.addBounds? instant)
        ((List.range schedule.nodes).map minimum, (List.range schedule.nodes).map maximum) =
      some ((List.range schedule.nodes).map fun node =>
          (places.filter fun place => schedule.nodeOf place.2.2 == node).foldl
            (addMinimum instant) (minimum node),
        (List.range schedule.nodes).map fun node =>
          (places.filter fun place => schedule.nodeOf place.2.2 == node).foldl
            (addMaximum instant) (maximum node)) := by
  induction places generalizing minimum maximum with
  | nil => rfl
  | cons place rest induction =>
      have first (add : K → Plant K × Nat × Nat → K) (bound : Nat → K) (node : Nat) :
          (rest.filter fun place => schedule.nodeOf place.2.2 == node).foldl add
              (if schedule.nodeOf place.2.2 == node then add (bound node) place
              else bound node) =
            ((place :: rest).filter fun place =>
              schedule.nodeOf place.2.2 == node).foldl add (bound node) := by
        rw [List.filter_cons]
        split <;> rfl
      rw [List.foldlM_cons, addBounds?_map (known place (by simp))]
      simp only [Option.bind_eq_bind, Option.bind_some]
      rw [induction fun other member => known other (by simp [member])]
      simp only [first]

theorem known_of_mem (filled : schedule.Filled) (placed : schedule.Placed)
    (several : schedule.isBus = false) {instant : Nat} (instant_lt : instant < schedule.horizon)
    {place : Plant K × Nat × Nat} (member : place ∈ schedule.generatorPlaces) :
    schedule.Known instant place := by
  obtain ⟨plant, generator, number⟩ := place
  obtain ⟨index, found, generator_lt, rfl⟩ := mem_generatorPlaces.mp member
  have present := List.mem_of_getElem? found
  have shaped := filled.profiles plant present
  have number_lt := number_lt found generator_lt
  rw [← filled.horizons plant present] at instant_lt
  exact ⟨placed.nodeOf? number_lt, placed.nodeOf_lt_of_several several number_lt,
    shaped.entry_found (by simp [PlantData.profiles]) generator_lt instant_lt,
    shaped.entry_found (by simp [PlantData.profiles]) generator_lt instant_lt⟩

theorem injectionBounds?_eq (filled : schedule.Filled) (placed : schedule.Placed)
    (several : schedule.isBus = false) {instant : Nat}
    (instant_lt : instant < schedule.horizon) :
    schedule.injectionBounds? instant =
      some (schedule.minima instant, schedule.maxima instant) := by
  have zeros : List.replicate schedule.nodes (0 : K) =
      (List.range schedule.nodes).map fun _ => 0 := by
    simp
  unfold injectionBounds?
  rw [zeros, foldlM_addBounds? fun place => known_of_mem filled placed several instant_lt]
  unfold minima maxima Schedule.minInjection Schedule.maxInjection
  simp only [generatorsAt_eq, List.foldl_map]
  rfl

end Dispatch.Schedule
