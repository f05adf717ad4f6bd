import Mathlib.Data.List.Nodup
import Dispatch.Proofs.Frame.Scale

namespace Dispatch

/-! What an update of a schedule leaves alone: a new scale keeps to the positions of the term
index, and a new demand to the instants that it is for. -/

variable {K : Type}

/-- Whether or not it is refused on the way, a change of all members relates each member to what
became of it, with the number that it has. -/
theorem Change.eachFrom_forall₂_of_getElem? {T α : Type} {change : Nat → Change T α}
    {related : T → T → Prop} (refl : ∀ member, related member member) {start : Nat}
    {members : List T} (relates : ∀ index member, members[index]? = some member →
      related member (change (start + index) member).state) :
    List.Forall₂ related members (eachFrom change start members).state := by
  induction members generalizing start with
  | nil => exact .nil
  | cons member rest induction =>
      have here : related member (change start member).state := relates 0 member rfl
      have later (index : Nat) (other : T) (found : rest[index]? = some other) :
          related other (change (start + 1 + index) other).state := by
        have next := relates (index + 1) other found
        rwa [← Nat.add_assoc, Nat.add_right_comm] at next
      simp only [eachFrom]
      cases (change start member).result with
      | error error => exact .cons here (List.forall₂_same.mpr fun other _ => refl other)
      | ok answer => exact .cons here (induction later)

namespace Schedule

section

variable [Scalar K] {schedule : Schedule K} {link : Link K}

theorem kinds_linksNow (schedule : Schedule K) : (schedule.linksNow.map Link.kind).Nodup := by
  have all : (LinkKind.all.map schedule.linkOf).map Link.kind = LinkKind.all := by
    rw [List.map_map]
    exact List.map_id _
  have distinct : LinkKind.all.Nodup := by decide
  rw [← all] at distinct
  exact distinct.sublist (List.filter_sublist.map Link.kind)

theorem frame_of_mem (framed : List.Forall₂ Link.SameFrame schedule.linksNow schedule.links)
    (member : link ∈ schedule.links) : Link.SameFrame (schedule.linkOf link.kind) link := by
  obtain ⟨now, listed, same⟩ := Change.mem_of_forall₂ framed member
  obtain ⟨kind, -, rfl⟩ := List.mem_map.mp (List.mem_filter.mp listed).1
  rw [same.kind]
  exact same

/-- A family is the one of its kind. -/
theorem link?_of_mem (framed : List.Forall₂ Link.SameFrame schedule.linksNow schedule.links)
    (member : link ∈ schedule.links) : schedule.link? link.kind = some link := by
  have kinds : schedule.linksNow.map Link.kind = schedule.links.map Link.kind :=
    Change.forall₂_map_eq (framed.imp fun _ _ same => same.kind.symm)
  have distinct : (schedule.links.map Link.kind).Nodup := kinds ▸ kinds_linksNow schedule
  have there : (schedule.links.find? fun other => other.kind == link.kind).isSome :=
    List.find?_isSome.mpr ⟨link, member, beq_self_eq_true link.kind⟩
  obtain ⟨other, found⟩ := Option.isSome_iff_exists.mp there
  have same : other.kind = link.kind := by simpa using List.find?_some found
  obtain rfl := List.inj_on_of_nodup_map distinct (List.mem_of_find?_eq_some found) member same
  exact found

end

/-- The positions that the term index has for a plant in a row. -/
def Indexed (schedule : Schedule K) (kind : LinkKind) (index : Nat) (row : LinkRow)
    (position : Nat) : Prop :=
  ∃ span, schedule.span? kind index (schedule.rowKey row) = some span ∧ position ∈ span.positions

/-- The balance rows of nodes where the plant has generators that consume while they are off. -/
def Consumes [Scalar K] (schedule : Schedule K) (index : Nat) (row : LinkRow) : Prop :=
  ∃ plant instant node, schedule.plants[index]? = some plant ∧ row = .balance instant node ∧
    plant.data.commitment = true ∧ plant.hasFixedConsumption = true ∧
    ∃ generator < plant.generators, schedule.nodeOf (schedule.offset index + generator) = node

variable [Scalar K] {schedule : Schedule K} {index : Nat} {plant : Plant K} {link : Link K}

theorem exists_generator_of_balance {instant node : Nat}
    (occupied : 0 < (schedule.plantTerms index plant (.balance instant node)).length) :
    ∃ generator < plant.generators,
      schedule.nodeOf (schedule.offset index + generator) = node := by
  obtain ⟨term, listed⟩ := List.exists_mem_of_length_pos occupied
  obtain ⟨generator, within, listed⟩ := List.mem_flatMap.mp listed
  refine ⟨generator, List.mem_range.mp within, ?_⟩
  split at listed
  · rename_i here
    exact eq_of_beq here
  · cases listed

theorem consumes_of_movesLevel (found : schedule.plants[index]? = some plant) {row : LinkRow}
    (moves : movesLevel plant row = true)
    (occupied : 0 < (schedule.plantTerms index plant row).length) :
    schedule.Consumes index row := by
  cases row with
  | balance instant node =>
      obtain ⟨commitment, fixed⟩ := Bool.and_eq_true_iff.mp moves
      exact ⟨plant, instant, node, found, rfl, commitment, fixed,
        exists_generator_of_balance occupied⟩
  | zonal need instant zone => cases moves
  | budget pollutant zone => cases moves

/-- Each patch of a plant is for one row, and writes where the index has the plant. -/
theorem patchesRow_of_mem (fits : schedule.Fits link)
    (here : schedule.link? link.kind = some link)
    (found : schedule.plants[index]? = some plant) {patch : RowPatch K}
    (listed : patch ∈ schedule.linkPatches index plant link) :
    schedule.PatchesRow link.kind (schedule.Indexed link.kind index) (schedule.Consumes index)
      patch := by
  obtain ⟨⟨span, key⟩, entered, listed⟩ := List.mem_flatMap.mp listed
  have entry := List.mk_mem_zipIdx_iff_getElem?.mp entered
  have key_lt : key < schedule.linkKeys link.kind :=
    Nat.lt_of_lt_of_le (List.getElem?_eq_some_iff.mp entry).1 (fits.keys index)
  split at listed
  · cases listed
  · rename_i occupied
    obtain ⟨row, keyed, rfl⟩ := List.mem_map.mp listed
    obtain ⟨item, -, -, size⟩ := fits.runs index plant key span found entry row keyed
    obtain ⟨member, rfl⟩ := (mem_keyRows key_lt).mp keyed
    have indexed : schedule.span? link.kind index (schedule.rowKey row) = some span := by
      have column := Lookup.getElem?_eq_getD
        (fits.columns ▸ (List.getElem?_eq_some_iff.mp found).1) ([] : List Span)
      unfold span?
      rw [here]
      simp only [Option.bind_eq_bind, Option.bind_some, column, entry]
    refine ⟨row, member, rfl, fun position within => ⟨span, indexed, within⟩, fun moves => ?_⟩
    simp only [Span.isEmpty, decide_eq_true_eq, not_le] at occupied
    refine consumes_of_movesLevel found ?_ (by omega)
    by_contra still
    exact moves (if_neg still)

/-- Families in which the terms of one plant have been rewritten. -/
def LinksRewritten (schedule : Schedule K) (index : Nat) (links : List (Link K)) : Prop :=
  List.Forall₂ (fun link other : Link K => LinkRewritten (schedule.linkRows link.kind)
    (schedule.Indexed link.kind index) (schedule.Consumes index) link other) schedule.links links

theorem linksRewritten_patchPlant (fits : ∀ link ∈ schedule.links, schedule.Fits link)
    (framed : List.Forall₂ Link.SameFrame schedule.linksNow schedule.links) (index : Nat) :
    ∃ links, (patchPlant index schedule).state = schedule.withLinks links ∧
      schedule.LinksRewritten index links := by
  unfold patchPlant
  rw [Change.current_bind]
  cases found : schedule.plants[index]? with
  | none => exact ⟨schedule.links, rfl, List.forall₂_same.mpr fun link _ => .refl link⟩
  | some plant =>
      refine ⟨_, rfl, Change.eachFrom_forall₂_of_getElem? (fun link => .refl link)
        fun place link present => ?_⟩
      have member := List.mem_of_getElem? present
      have patches : (schedule.links.map (schedule.linkPatches index plant)).getD (0 + place) [] =
          schedule.linkPatches index plant link := by
        simp [List.getD_eq_getElem?_getD, present]
      rw [patches]
      exact rewritten_forAll (fun patch listed =>
        patchesRow_of_mem (fits link member) (link?_of_mem framed member) found listed)
        (frame_of_mem framed member).cols

/-- At most one plant has been patched, its terms in the rows, levels of its own, and injection
bounds. -/
structure ScalePatched (index : Nat) (before after : Schedule K) : Prop where
  rest : after = { before with
    plants := after.plants, networks := after.networks, links := after.links }
  size : after.plants.length = before.plants.length
  plants : ∀ (place : Nat) (plant other : Plant K), before.plants[place]? = some plant →
    after.plants[place]? = some other → other = plant ∨ place = index ∧ plant.ScalePatched other
  networks : List.Forall₂ Network.BoundsPatched before.networks after.networks
  links : before.LinksRewritten index after.links

omit [Scalar K] in
/-- Nothing that has been generated is new. -/
structure Unpatched (before after : Schedule K) : Prop where
  objectives : after.plants.map Plant.objective = before.plants.map Plant.objective
  rows : after.networks.map Network.rows = before.networks.map Network.rows
  links : after.links = before.links

theorem ScalePatched.refl (index : Nat) (schedule : Schedule K) :
    schedule.ScalePatched index schedule := by
  refine ⟨rfl, rfl, fun place plant other found again => .inl ?_,
    List.forall₂_same.mpr fun network _ => .refl network,
    List.forall₂_same.mpr fun link _ => .refl link⟩
  rw [found] at again
  exact (Option.some.inj again).symm

/-- What a schedule reads of its plants to place their terms does not move with a scale. -/
theorem linksRewritten_withScaled (found : schedule.plants[index]? = some plant) {scale : K}
    {objective : Option (Objective K)} {networks : List (Network K)} {links : List (Link K)}
    (rewritten : LinksRewritten
      ((schedule.withScaled index plant scale objective).withNetworks networks) index links) :
    schedule.LinksRewritten index links := by
  refine List.Forall₂.imp (fun link other moved => ?_) rewritten
  refine ⟨moved.rest, moved.size, fun place item next here there => ?_⟩
  refine (moved.items place item next here there).imp_right fun ⟨row, named, same⟩ => ?_
  refine ⟨row, named, same.imp (fun _ within => within) ?_⟩
  rintro ⟨other, instant, node, there, rfl, commitment, fixed, generator, within, placed⟩
  have scaled : { plant with scale, objective } = other := by
    have index_lt := (List.getElem?_eq_some_iff.mp found).1
    exact Option.some.inj ((List.getElem?_set_self index_lt).symm.trans there)
  subst scaled
  refine ⟨plant, instant, node, found, rfl, commitment, fixed, generator, within, ?_⟩
  rw [← (resembles_withScaled found scale objective).layout.shape.offset index]
  exact placed

theorem sameFrame_withScaled (found : schedule.plants[index]? = some plant) (scale : K)
    (objective : Option (Objective K)) (networks : List (Network K)) :
    SameFrame schedule
      ((schedule.withScaled index plant scale objective).withNetworks networks) := by
  obtain ⟨horizon, nodes, generatorNode, zoning, emissions, generators⟩ :=
    (resembles_withScaled found scale objective).layout
  exact ⟨⟨horizon, nodes, generatorNode, zoning, emissions, generators⟩,
    Change.set_forall₂ Plant.SameFrame.refl found ⟨rfl, rfl, rfl, rfl, rfl⟩⟩

theorem boundsPatched_of_refresh {abstract : Mode} {networks : List (Network K)}
    (refreshed : refreshInjectionBounds abstract schedule =
      ⟨schedule.withNetworks networks, [], .ok ⟨⟩⟩) :
    List.Forall₂ Network.BoundsPatched schedule.networks networks ∧
      (abstract.writes = false →
        networks.map Network.rows = schedule.networks.map Network.rows) := by
  have patched (minimum maximum : List K) (network : Network K) :=
    Network.boundsPatched_setInjectionBounds minimum maximum .quiet abstract network
  refine ⟨refreshInjectionBounds_forall₂ Network.BoundsPatched.refl
    (fun minimum maximum network => (patched minimum maximum network).1) refreshed, fun dry => ?_⟩
  let alike (before after : Network K) : Prop := before.rows = after.rows
  have same (network : Network K) : alike network network := rfl
  have still : List.Forall₂ alike schedule.networks networks :=
    refreshInjectionBounds_forall₂ same
      (fun minimum maximum network => ((patched minimum maximum network).2 dry).symm) refreshed
  exact (Change.forall₂_map_eq still).symm

theorem Sound.length_scalePlantAt (sound : schedule.Sound) (index : Nat) (address : Address)
    (values : List K) (physical abstract : Mode) :
    (Schedule.scalePlantAt index address values physical abstract schedule).state.plants.length =
      schedule.plants.length := by
  rw [sound.plants_scalePlantAt, onPlant_apply]
  cases schedule.plants[index]? with
  | none => rfl
  | some plant => exact List.length_set

theorem Sound.plant_scalePlantAt (sound : schedule.Sound) (index : Nat) (address : Address)
    (values : List K) (physical abstract : Mode) {place : Nat} {plant other : Plant K}
    (found : schedule.plants[place]? = some plant)
    (last : (Schedule.scalePlantAt index address values physical abstract
      schedule).state.plants[place]? = some other) :
    (other = plant ∨ place = index ∧ plant.ScalePatched other) ∧
      (abstract.writes = false → other.objective = plant.objective) := by
  rw [sound.plants_scalePlantAt, onPlant_apply] at last
  cases there : schedule.plants[index]? with
  | none =>
      rw [there] at last
      cases found.symm.trans last
      exact ⟨.inl rfl, fun _ => rfl⟩
  | some scaled =>
      rw [there] at last
      change (schedule.plants.set index _)[place]? = some other at last
      by_cases here : index = place
      · subst here
        rw [List.getElem?_set_self (List.getElem?_eq_some_iff.mp found).1] at last
        cases there.symm.trans found
        cases last
        obtain ⟨patched, dry⟩ :=
          Plant.scalePatched_setScaleAt address values physical abstract plant
        exact ⟨.inr ⟨rfl, patched⟩, dry⟩
      · rw [List.getElem?_set_ne here] at last
        cases found.symm.trans last
        exact ⟨.inl rfl, fun _ => rfl⟩

theorem Sound.objectives_scalePlantAt (sound : schedule.Sound) (index : Nat) (address : Address)
    (values : List K) (physical : Mode) {abstract : Mode} (dry : abstract.writes = false) :
    let after := (Schedule.scalePlantAt index address values physical abstract schedule).state
    after.plants.map Plant.objective = schedule.plants.map Plant.objective := by
  have size := sound.length_scalePlantAt index address values physical abstract
  refine List.ext_getElem (by simp [size]) fun place within inside => ?_
  rw [List.length_map] at within inside
  rw [List.getElem_map, List.getElem_map]
  exact (sound.plant_scalePlantAt index address values physical abstract
    (List.getElem?_eq_getElem inside) (List.getElem?_eq_getElem within)).2 dry

theorem Sound.scalePatched_scalePlantAt (sound : schedule.Sound)
    (follows : schedule.Follows Link.SameFrame) (index : Nat) (address : Address)
    (values : List K) (physical abstract : Mode) :
    let after := (Schedule.scalePlantAt index address values physical abstract schedule).state
    schedule.ScalePatched index after ∧ (abstract.writes = false → schedule.Unpatched after) := by
  have size := sound.length_scalePlantAt index address values physical abstract
  have plants {place : Nat} {plant other : Plant K}
      (found : schedule.plants[place]? = some plant) last :
      other = plant ∨ place = index ∧ plant.ScalePatched other :=
    (sound.plant_scalePlantAt index address values physical abstract found last).1
  have objectives (dry : abstract.writes = false) :=
    sound.objectives_scalePlantAt index address values physical dry
  dsimp only at objectives ⊢
  rcases sound.scalePlantAt_state index address values physical abstract with
    still | ⟨plant, scale, objective, found, ⟨early, moved⟩ | ⟨late, networks, refreshed, moved⟩⟩
  · rw [still]
    exact ⟨.refl index schedule, fun _ => ⟨rfl, rfl, rfl⟩⟩
  · rw [moved] at size plants objectives ⊢
    exact ⟨⟨rfl, size, fun _ _ _ => plants, List.forall₂_same.mpr fun network _ => .refl network,
      List.forall₂_same.mpr fun link _ => .refl link⟩, fun dry => ⟨objectives dry, rfl, rfl⟩⟩
  · obtain ⟨bounded, dryRows⟩ := boundsPatched_of_refresh refreshed
    rw [moved] at size plants objectives ⊢
    by_cases writes : abstract.writes = true
    · let onward := (schedule.withScaled index plant scale objective).withNetworks networks
      have scaled := follows.resembles (resembles_withScaled found scale objective) rfl
        schedule.links_still
      have framed := scaled.agree (agree_rebounded (rebounded_of_refresh refreshed)) rfl rfl late
      have same := sameFrame_withScaled found scale objective networks
      have fits (link : Link K) (member : link ∈ onward.links) : onward.Fits link :=
        (sound.fits late link member).congr same (.refl link)
      obtain ⟨links, patched, rewritten⟩ := linksRewritten_patchPlant fits framed.2 index
      rw [if_pos writes, patched] at size plants objectives ⊢
      exact ⟨⟨rfl, size, fun _ _ _ => plants, bounded, linksRewritten_withScaled found rewritten⟩,
        fun dry => absurd (dry.symm.trans writes) nofun⟩
    · rw [if_neg writes] at size plants objectives ⊢
      exact ⟨⟨rfl, size, fun _ _ _ => plants, bounded,
          List.forall₂_same.mpr fun link _ => .refl link⟩,
        fun dry => ⟨objectives dry, dryRows (by rw [Mode.writes_silent, dry]), rfl⟩⟩

/-- Entries count the instants node by node. -/
def Reaches (schedule : Schedule K) (addressed : Nat → Prop) (instant node : Nat) : Prop :=
  ∃ entry, addressed entry ∧ entry % schedule.horizon = instant ∧ entry / schedule.horizon = node

/-- At most the demand of addressed nodes is new, and none at instants that are not addressed. -/
structure NetworksPatched (schedule : Schedule K) (addressed : Nat → Prop)
    (before after : List (Network K)) : Prop where
  size : after.length = before.length
  items : ∀ (instant : Nat) (network other : Network K), before[instant]? = some network →
    after[instant]? = some other →
      network.DemandPatched (schedule.Reaches addressed instant) other ∧
        ((∀ node, ¬ schedule.Reaches addressed instant node) → other = network)

/-- At most the demand is new, on a bus the levels of the addressed instants, and elsewhere what
the networks make of it. -/
structure DemandPatched (addressed : Nat → Prop) (before after : Schedule K) : Prop where
  rest : after = { before with
    demand := after.demand, networks := after.networks, links := after.links }
  links : List.Forall₂ (fun link other : Link K =>
    other = { link with rows := other.rows } ∧
      link.rows.Patched (fun instant _ =>
        before.isBus = true ∧ link.kind = .balance ∧ addressed instant) Row.Moved other.rows)
    before.links after.links
  networks : before.NetworksPatched addressed before.networks after.networks

namespace NetworksPatched

variable {addressed : Nat → Prop} {first second third : List (Network K)}

omit [Scalar K] in
theorem refl (networks : List (Network K)) :
    schedule.NetworksPatched addressed networks networks := by
  refine ⟨rfl, fun instant network other found again => ?_⟩
  rw [found] at again
  cases again
  exact ⟨.refl _ network, fun _ => rfl⟩

omit [Scalar K] in
theorem trans (early : schedule.NetworksPatched addressed first second)
    (late : schedule.NetworksPatched addressed second third) :
    schedule.NetworksPatched addressed first third := by
  refine ⟨late.size.trans early.size, fun instant network other found last => ?_⟩
  have within : instant < second.length := by
    rw [early.size]
    exact (List.getElem?_eq_some_iff.mp found).1
  have middle := List.getElem?_eq_getElem within
  obtain ⟨once, kept⟩ := early.items instant network _ found middle
  obtain ⟨twice, still⟩ := late.items instant _ other middle last
  exact ⟨once.trans twice, fun never => (still never).trans (kept never)⟩

theorem forwardEntry {entry : Nat} (here : addressed entry) (value : K) (abstract : Mode)
    (networks : List (Network K)) : schedule.NetworksPatched addressed networks
      (Schedule.forwardEntry schedule.horizon value entry abstract networks).state := by
  unfold Schedule.forwardEntry
  cases there : networks[entry % schedule.horizon]? with
  | none =>
      rw [Change.onMember_of_none there]
      exact .refl networks
  | some reached =>
      rw [Change.onMember_of_getElem? there]
      refine ⟨List.length_set, fun instant network other found last => ?_⟩
      by_cases same : entry % schedule.horizon = instant
      · subst same
        rw [found] at there
        cases there
        dsimp only at last
        rw [List.getElem?_set_self (List.getElem?_eq_some_iff.mp found).1] at last
        cases last
        have patched := (Network.demandPatched_setDemand
          (.subset [entry / schedule.horizon] true) [value] .quiet abstract reached).1
        refine ⟨patched.imp fun node listed => ⟨entry, here, rfl, ?_⟩, fun never => ?_⟩
        · exact (List.mem_singleton.mp listed).symm
        · exact absurd ⟨entry, here, rfl, rfl⟩ (never (entry / schedule.horizon))
      · dsimp only at last
        rw [List.getElem?_set_ne same] at last
        cases found.symm.trans last
        exact ⟨.refl _ network, fun _ => rfl⟩

end NetworksPatched

theorem demandPatched_forwardDemand (demand : List K) (entries : List Nat) (abstract : Mode) :
    schedule.DemandPatched (· ∈ entries)
      (forwardDemand entries abstract (schedule.withDemand demand)).state where
  rest := rfl
  links := List.forall₂_same.mpr fun link _ => ⟨rfl, .refl link.rows⟩
  networks := Change.forAll_related_of_mem (schedule.NetworksPatched (· ∈ entries)) .refl
    (fun _ _ _ => .trans) (fun _ member networks => .forwardEntry member _ abstract networks)
    schedule.networks

theorem rows_forwardDemand (schedule : Schedule K) (entries : List Nat) {abstract : Mode}
    (dry : abstract.writes = false) :
    (forwardDemand entries abstract schedule).state.networks.map Network.rows =
      schedule.networks.map Network.rows := by
  let alike (before after : Network K) : Prop := before.rows = after.rows
  obtain ⟨-, still⟩ := forwardDemand_forall₂ alike (fun _ => rfl)
    (fun _ _ _ => Eq.trans) (fun address values network =>
      ((Network.demandPatched_setDemand address values .quiet abstract network).2 dry).symm)
    entries schedule
  exact (Change.forall₂_map_eq still).symm

theorem demandPatched_withBusLevels (bus : schedule.isBus = true) (instants : List Nat)
    (demand : List K) (abstract : Mode) :
    schedule.DemandPatched (· ∈ instants) (schedule.withBusLevels instants demand abstract) ∧
      (abstract.writes = false →
        schedule.Unpatched (schedule.withBusLevels instants demand abstract)) := by
  unfold withBusLevels
  split
  · rename_i reached
    refine ⟨⟨rfl, ?_, .refl _⟩, fun dry => by rw [dry] at reached; cases reached⟩
    refine List.forall₂_map_right_iff.mpr (List.forall₂_same.mpr fun link _ => ?_)
    split
    · rename_i balance
      refine ⟨rfl, Family.Patched.foldl Row.Moved.trans (fun instant member rows => ?_) _⟩
      exact .modify rows (fun _ => ⟨bus, eq_of_beq balance, member⟩) fun _ => rfl
    · exact ⟨rfl, .refl link.rows⟩
  · exact ⟨⟨rfl, List.forall₂_same.mpr fun link _ => ⟨rfl, .refl link.rows⟩, .refl _⟩,
      fun _ => ⟨rfl, rfl, rfl⟩⟩

theorem demandPatched_setDemand (schedule : Schedule K) (address : Address) (values : List K)
    (physical abstract : Mode) :
    let after := (Schedule.setDemand address values physical abstract schedule).state
    schedule.DemandPatched (· ∈ address.entries) after ∧
      (abstract.writes = false → schedule.Unpatched after) := by
  dsimp only
  rcases setDemand_state address values physical abstract schedule with
    still | ⟨selection, selected, ⟨bus, moved⟩ | ⟨several, moved⟩⟩
  · rw [still]
    exact ⟨⟨rfl, List.forall₂_same.mpr fun link _ => ⟨rfl, .refl link.rows⟩, .refl _⟩,
      fun _ => ⟨rfl, rfl, rfl⟩⟩
  · rw [moved, ← (Address.select_shows selected).1]
    obtain ⟨patched, dry⟩ := demandPatched_withBusLevels bus selection.indices
      (selection.write schedule.demand schedule.extent 0 values) abstract
    exact ⟨patched, dry⟩
  · rw [moved, ← (Address.select_shows selected).1]
    exact ⟨demandPatched_forwardDemand _ _ _, fun dry =>
      ⟨rfl, rows_forwardDemand _ _ (by rw [Mode.writes_silent, dry]), rfl⟩⟩

end Schedule

/-- Every update of a block keeps to its own places, whether or not the rows were up to date, and
with a dry abstract mode writes none. What is said of a network holds of the networks of a
schedule too. -/
theorem patched_of_reachable :
    (∀ schedule : Schedule Float, schedule.Reachable →
      (∀ index address values physical abstract,
        let after :=
          (Schedule.scalePlantAt index address values physical abstract schedule).state
        schedule.ScalePatched index after ∧
          (abstract.writes = false → schedule.Unpatched after)) ∧
      ∀ address values physical abstract,
        let after := (Schedule.setDemand address values physical abstract schedule).state
        schedule.DemandPatched (· ∈ address.entries) after ∧
          (abstract.writes = false → schedule.Unpatched after)) ∧
    ∀ network : Network Float,
      (∀ address values physical abstract,
        let after := (Network.setKappa address values physical abstract network).state
        network.KappaPatched (· ∈ address.entries) after ∧
          (abstract.writes = false → after.rows = network.rows)) ∧
      ∀ address values physical abstract,
        let after := (Network.setDemand address values physical abstract network).state
        network.DemandPatched (· ∈ address.entries) after ∧
          (abstract.writes = false → after.rows = network.rows) := by
  refine ⟨fun schedule reachable => ⟨?_, schedule.demandPatched_setDemand⟩, fun network =>
    ⟨fun address values physical abstract =>
      Network.kappaPatched_setKappa address values physical abstract network,
    fun address values physical abstract =>
      Network.demandPatched_setDemand address values physical abstract network⟩⟩
  have arises := reachable.arises
  exact arises.sound.scalePatched_scalePlantAt arises.framed

/-- The rows of the first plant have been left behind when the second one is scaled. -/
theorem patched_of_reachable_duo :
    let generated := (Schedule.generateConstraints
      (Schedule.generateVariables Schedule.duo).state).state
    let stale := (Schedule.scalePlantAt 0 (.subset [0] true) [3] .quiet .dryRun generated).state
    let after := (Schedule.scalePlantAt 1 (.subset [0] true) [2] .quiet .quiet stale).state
    stale.stage = .constraints ∧ generated.Unpatched stale ∧ stale.ScalePatched 1 after := by
  intro generated stale after
  have reachable : generated.Reachable :=
    Schedule.reachable_duo.play [.generateVariables, .generateConstraints]
  have behind : stale.Reachable :=
    reachable.play [.scalePlantAt 0 (.subset [0] true) [3] .quiet .dryRun]
  have rest := reachable.arises.sound.rest_scalePlantAt 0 (.subset [0] true) [3] .quiet .dryRun
  refine ⟨rest.2.2.trans (by decide +kernel), ?_, ?_⟩
  · exact ((patched_of_reachable.1 generated reachable).1 0 (.subset [0] true) [3] .quiet
      .dryRun).2 rfl
  · exact ((patched_of_reachable.1 stale behind).1 1 (.subset [0] true) [2] .quiet .quiet).1

end Dispatch
