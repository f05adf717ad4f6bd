import Dispatch.Proofs.Closure.Reachable
import Dispatch.Proofs.Frame.Schedule
import Dispatch.Proofs.Reachable.Roles

namespace Dispatch

/-! Every generator is counted once. What a linking row is for decides which variables of a
generator it takes, and where the generator stands decides which of its rows takes them. -/

variable {K : Type}

/-- What a linking row is for. -/
inductive Service
  | balance
  | need (need : Need)
  | budget (pollutant : Nat)
deriving DecidableEq, Repr

def Service.kind : Service → LinkKind
  | .balance => .balance
  | .need wanted => .zonal wanted
  | .budget _ => .budget

namespace Plant

/-- The variables that serve, by their roles. -/
def roles (plant : Plant K) : Service → List Role
  | .balance => .power :: if plant.hasFixedConsumption then [.commitment] else []
  | .need .primary => [.primary]
  | .need .secondary => [.secondary]
  | .need .inertia => (if plant.hasInertiaCommitment then [.commitment] else []) ++
      if plant.hasInertiaPower then [.power] else []
  | .budget _ => [.power]

def servants (plant : Plant K) (service : Service) (generator instant : Nat) : List VarRef :=
  (plant.roles service).flatMap fun role => (plant.var? role generator instant).toList

variable {plant : Plant K} {service : Service} {generator instant : Nat} {var : VarRef}

theorem nodup_roles (plant : Plant K) (service : Service) : (plant.roles service).Nodup := by
  cases service with
  | balance =>
      simp only [roles]
      cases plant.hasFixedConsumption <;> decide
  | need need =>
      cases need with
      | primary => exact List.nodup_singleton _
      | secondary => exact List.nodup_singleton _
      | inertia =>
          simp only [roles]
          cases plant.hasInertiaCommitment <;> cases plant.hasInertiaPower <;> decide
  | budget pollutant => exact List.nodup_singleton _

theorem mem_servants : var ∈ plant.servants service generator instant ↔
    ∃ role ∈ plant.roles service, plant.var? role generator instant = some var := by
  simp only [servants, List.mem_flatMap, Option.mem_toList]

/-- What serves belongs to one generator and one instant. -/
theorem Laid.servants_inj (laid : plant.Laid) {generator' instant' : Nat}
    (generator_lt : generator < plant.generators) (instant_lt : instant < plant.horizon)
    (generator_lt' : generator' < plant.generators) (instant_lt' : instant' < plant.horizon)
    (one : var ∈ plant.servants service generator instant)
    (other : var ∈ plant.servants service generator' instant') :
    generator = generator' ∧ instant = instant' := by
  obtain ⟨role, -, one⟩ := mem_servants.mp one
  obtain ⟨role', -, other⟩ := mem_servants.mp other
  exact (laid.var?_inj generator_lt instant_lt generator_lt' instant_lt' one other).2

theorem Laid.nodup_servants (laid : plant.Laid) (generator_lt : generator < plant.generators)
    (instant_lt : instant < plant.horizon) :
    (plant.servants service generator instant).Nodup := by
  refine List.nodup_flatMap.mpr ⟨fun role _ => ?_, ?_⟩
  · cases plant.var? role generator instant with
    | none => exact List.nodup_nil
    | some var => exact List.nodup_singleton var
  · refine (plant.nodup_roles service).pairwise_of_forall_ne fun first _ second _ apart => ?_
    refine List.disjoint_left.mpr fun var one other => apart ?_
    exact (laid.var?_inj generator_lt instant_lt generator_lt instant_lt
      (Option.mem_toList.mp one) (Option.mem_toList.mp other)).1

end Plant

namespace Schedule

def LinkRow.service : LinkRow → Service
  | .balance _ _ => .balance
  | .zonal need _ _ => .need need
  | .budget pollutant _ => .budget pollutant

/-- The instants that a row is about. -/
def instants (schedule : Schedule K) (row : LinkRow) : List Nat :=
  match row.instant? with
  | some instant => [instant]
  | none => List.range schedule.horizon

/-- The row of a service for a node, unless the service leaves the node out. -/
def place? (schedule : Schedule K) (service : Service) (instant node : Nat) : Option LinkRow :=
  match service with
  | .balance => if node < schedule.nodes then some (.balance instant node) else none
  | .need need => ((schedule.zoning need).zone? node).map (.zonal need instant)
  | .budget pollutant =>
      (schedule.emissions.zone? schedule.nodes pollutant node).map (.budget pollutant)

/-- The row of a service in which a variable of a generator belongs. -/
def station? (schedule : Schedule K) (plant : Plant K) (service : Service) (role : Role)
    (instant node : Nat) : Option LinkRow :=
  if role ∈ plant.roles service then schedule.place? service instant node else none

variable {schedule : Schedule K} {plant : Plant K} {kind : LinkKind} {row : LinkRow}
  {service : Service} {index generator instant node : Nat} {var : VarRef}

theorem mem_zonalRows {need : Need} {zone : Nat} :
    .zonal need instant zone ∈ schedule.linkRows (.zonal need) ↔
      instant < schedule.horizon ∧ zone < (schedule.zoning need).count := by
  constructor
  · intro member
    obtain ⟨_, instant_lt, _, zone_lt, same⟩ := Family.mem_table.mp member
    cases same
    exact ⟨instant_lt, zone_lt⟩
  · rintro ⟨instant_lt, zone_lt⟩
    exact Family.mem_table.mpr ⟨instant, instant_lt, zone, zone_lt, rfl⟩

theorem mem_budgetRows {pollutant zone : Nat}
    (zone_lt : zone < schedule.emissions.zoneCount pollutant) :
    .budget pollutant zone ∈ schedule.linkRows .budget := by
  refine List.mem_map.mpr ⟨(pollutant, zone), List.mem_flatMap.mpr ?_, rfl⟩
  unfold Emissions.zoneCount at zone_lt
  cases found : schedule.emissions.zoneCounts[pollutant]? with
  | none =>
      rw [List.getD_eq_getElem?_getD, found] at zone_lt
      cases zone_lt
  | some count =>
      rw [List.getD_eq_getElem?_getD, found] at zone_lt
      exact ⟨(count, pollutant), List.mk_mem_zipIdx_iff_getElem?.mpr found,
        List.mem_map.mpr ⟨zone, List.mem_range.mpr zone_lt, rfl⟩⟩

theorem kind_of_mem (member : row ∈ schedule.linkRows kind) : row.service.kind = kind := by
  cases kind with
  | balance =>
      obtain ⟨_, _, _, _, rfl⟩ := Family.mem_table.mp member
      rfl
  | zonal need =>
      obtain ⟨_, _, _, _, rfl⟩ := Family.mem_table.mp member
      rfl
  | budget =>
      obtain ⟨_, _, rfl⟩ := List.mem_map.mp member
      rfl

theorem nodup_linkRows (schedule : Schedule K) (kind : LinkKind) :
    (schedule.linkRows kind).Nodup := by
  refine List.nodup_iff_getElem?_ne_getElem?.mpr fun first second early within same => ?_
  have found := List.getElem?_eq_getElem within
  have one := (getElem?_linkRows.mp (same.trans found)).2
  have other := (getElem?_linkRows.mp found).2
  omega

/-- A place is a row of the service, and is about the instant. -/
theorem place?_sound (instant_lt : instant < schedule.horizon)
    (found : schedule.place? service instant node = some row) :
    row ∈ schedule.linkRows service.kind ∧ row.service = service ∧
      instant ∈ schedule.instants row := by
  cases service with
  | balance =>
      change (if node < schedule.nodes then some (LinkRow.balance instant node) else none) =
        some row at found
      obtain ⟨node_lt, same⟩ := Option.ite_none_right_eq_some.mp found
      cases same
      exact ⟨mem_balanceRows.mpr ⟨instant_lt, node_lt⟩, rfl, List.mem_singleton_self _⟩
  | need need =>
      obtain ⟨zone, there, rfl⟩ := Option.map_eq_some_iff.mp found
      obtain ⟨zone_lt, same⟩ := Option.ite_none_right_eq_some.mp there
      cases same
      exact ⟨mem_zonalRows.mpr ⟨instant_lt, zone_lt⟩, rfl, List.mem_singleton_self _⟩
  | budget pollutant =>
      obtain ⟨zone, there, rfl⟩ := Option.map_eq_some_iff.mp found
      obtain ⟨zone_lt, same⟩ := Option.ite_none_right_eq_some.mp there
      cases same
      exact ⟨mem_budgetRows zone_lt, rfl, List.mem_range.mpr instant_lt⟩

theorem lt_of_mem_instants (member : row ∈ schedule.linkRows kind)
    (listed : instant ∈ schedule.instants row) : instant < schedule.horizon := by
  unfold instants at listed
  cases there : row.instant? with
  | none =>
      rw [there] at listed
      exact List.mem_range.mp listed
  | some own =>
      rw [there] at listed
      rw [List.mem_singleton.mp listed]
      exact instant_lt_of_mem member there

theorem nodup_instants (schedule : Schedule K) (row : LinkRow) :
    (schedule.instants row).Nodup := by
  unfold instants
  cases row.instant? with
  | none => exact List.nodup_range
  | some instant => exact List.nodup_singleton instant

section Runs

variable [Scalar K]

theorem vars_balanceTerms (plant : Plant K) (generator instant : Nat) :
    (balanceTerms plant generator instant).map Prod.fst =
      plant.servants .balance generator instant := by
  unfold balanceTerms Plant.servants Plant.roles
  rw [List.map_append, vars_weighted]
  cases plant.hasFixedConsumption with
  | false => simp [Plant.var?, Plant.grid, Plant.activePowerVar?]
  | true => simp [Plant.var?, Plant.grid, Plant.activePowerVar?, Plant.commitmentVar?]

theorem vars_needTerms (plant : Plant K) (need : Need) (generator instant : Nat) :
    (needTerms plant need generator instant).map Prod.fst =
      plant.servants (.need need) generator instant := by
  cases need with
  | primary => simp [needTerms, Plant.servants, Plant.roles, Plant.var?, Plant.grid,
      Plant.primaryReserveVar?]
  | secondary => simp [needTerms, Plant.servants, Plant.roles, Plant.var?, Plant.grid,
      Plant.secondaryReserveVar?]
  | inertia =>
      simp only [needTerms, Plant.servants, Plant.roles]
      cases plant.hasInertiaCommitment <;> cases plant.hasInertiaPower <;>
        simp [Plant.var?, Plant.grid, Plant.activePowerVar?, Plant.commitmentVar?]

theorem vars_budgetTerms (schedule : Schedule K) (plant : Plant K)
    (offset generator pollutant instant : Nat) :
    (schedule.budgetTerms plant offset generator pollutant instant).map Prod.fst =
      plant.servants (.budget pollutant) generator instant := by
  simp [budgetTerms, Plant.servants, Plant.roles, Plant.var?, Plant.grid,
    Plant.activePowerVar?]

/-- A run has the variables that serve, of the generators for which the row is the place. -/
theorem vars_plantTerms (member : row ∈ schedule.linkRows kind) (index : Nat) (plant : Plant K) :
    (schedule.plantTerms index plant row).map Prod.fst =
      (schedule.instants row).flatMap fun instant =>
        (List.range plant.generators).flatMap fun generator =>
          if schedule.place? row.service instant
              (schedule.nodeOf (schedule.offset index + generator)) = some row then
            plant.servants row.service generator instant
          else [] := by
  cases row with
  | balance instant node =>
      have node_lt : node < schedule.nodes := by
        obtain rfl := kind_of_mem member
        exact (mem_balanceRows.mp member).2
      have here (other : Nat) : (other == node) = true ↔
          schedule.place? .balance instant other = some (.balance instant node) := by
        rw [beq_iff_eq, place?]
        constructor
        · rintro rfl
          rw [if_pos node_lt]
        · intro found
          obtain ⟨-, same⟩ := Option.ite_none_right_eq_some.mp found
          cases same
          rfl
      simp only [plantTerms, List.map_flatMap, apply_ite (List.map Prod.fst), List.map_nil,
        vars_balanceTerms, instants, LinkRow.instant?, LinkRow.service, List.flatMap_cons,
        List.flatMap_nil, List.append_nil]
      exact List.flatMap_congr fun generator _ => if_congr (here _) rfl rfl
  | zonal need instant zone =>
      have here (other : Nat) : ((schedule.zoning need).zone? other == some zone) = true ↔
          schedule.place? (.need need) instant other = some (.zonal need instant zone) := by
        simp [place?]
      simp only [plantTerms, List.map_flatMap, apply_ite (List.map Prod.fst), List.map_nil,
        vars_needTerms, instants, LinkRow.instant?, LinkRow.service, List.flatMap_cons,
        List.flatMap_nil, List.append_nil]
      exact List.flatMap_congr fun generator _ => if_congr (here _) rfl rfl
  | budget pollutant zone =>
      have here (instant other : Nat) :
          (schedule.emissions.zone? schedule.nodes pollutant other == some zone) = true ↔
            schedule.place? (.budget pollutant) instant other =
              some (.budget pollutant zone) := by
        simp [place?]
      simp only [plantTerms, List.map_flatMap, apply_ite (List.map Prod.fst), List.map_nil,
        vars_budgetTerms, instants, LinkRow.instant?, LinkRow.service]
      refine List.flatMap_congr fun instant _ => ?_
      exact List.flatMap_congr fun generator _ => if_congr (here instant _) rfl rfl

theorem mem_vars_plantTerms (member : row ∈ schedule.linkRows kind) :
    var ∈ (schedule.plantTerms index plant row).map Prod.fst ↔
      ∃ instant ∈ schedule.instants row, ∃ generator < plant.generators,
        schedule.place? row.service instant
            (schedule.nodeOf (schedule.offset index + generator)) = some row ∧
          ∃ role ∈ plant.roles row.service, plant.var? role generator instant = some var := by
  rw [vars_plantTerms member]
  simp only [List.mem_flatMap, List.mem_range, List.mem_ite_nil_right, Plant.mem_servants]

/-- No variable stands twice in a run. -/
theorem nodup_vars_plantTerms (laid : plant.Laid) (horizon : plant.horizon = schedule.horizon)
    (member : row ∈ schedule.linkRows kind) (index : Nat) :
    ((schedule.plantTerms index plant row).map Prod.fst).Nodup := by
  have within {instant : Nat} (listed : instant ∈ schedule.instants row) :
      instant < plant.horizon := horizon ▸ lt_of_mem_instants member listed
  rw [vars_plantTerms member]
  refine List.nodup_flatMap.mpr ⟨fun instant listed => List.nodup_flatMap.mpr ⟨?_, ?_⟩, ?_⟩
  · intro generator inside
    split
    · exact laid.nodup_servants (List.mem_range.mp inside) (within listed)
    · exact List.nodup_nil
  · refine List.nodup_range.pairwise_of_forall_ne fun first inside second inside' apart => ?_
    refine List.disjoint_left.mpr fun var one other => apart ?_
    exact (laid.servants_inj (List.mem_range.mp inside) (within listed) (List.mem_range.mp inside')
      (within listed) (List.mem_ite_nil_right.mp one).2 (List.mem_ite_nil_right.mp other).2).1
  · refine (schedule.nodup_instants row).pairwise_of_forall_ne
      fun first listed second listed' apart =>
        List.disjoint_left.mpr fun var one other => apart ?_
    obtain ⟨generator, inside, one⟩ := List.mem_flatMap.mp one
    obtain ⟨generator', inside', other⟩ := List.mem_flatMap.mp other
    exact (laid.servants_inj (List.mem_range.mp inside) (within listed) (List.mem_range.mp inside')
      (within listed') (List.mem_ite_nil_right.mp one).2 (List.mem_ite_nil_right.mp other).2).2

/-- A variable of a generator stands in the run of its station and in no other. -/
theorem count_vars_plantTerms (laid : plant.Laid) (horizon : plant.horizon = schedule.horizon)
    (member : row ∈ schedule.linkRows kind) (index : Nat) {role : Role}
    (generator_lt : generator < plant.generators) (instant_lt : instant < schedule.horizon)
    (held : plant.var? role generator instant = some var) :
    ((schedule.plantTerms index plant row).map Prod.fst).count var =
      if schedule.station? plant row.service role instant
          (schedule.nodeOf (schedule.offset index + generator)) = some row then 1 else 0 := by
  rw [(nodup_vars_plantTerms laid horizon member index).count]
  refine if_congr (mem_vars_plantTerms member |>.trans ⟨?_, fun stationed => ?_⟩) rfl rfl
  · rintro ⟨instant', listed, generator', generator_lt', placed, role', serves, held'⟩
    obtain ⟨rfl, rfl, rfl⟩ := laid.var?_inj generator_lt (horizon.symm ▸ instant_lt) generator_lt'
      (horizon.symm ▸ lt_of_mem_instants member listed) held held'
    rw [station?, if_pos serves]
    exact placed
  · obtain ⟨serves, placed⟩ := Option.ite_none_right_eq_some.mp stationed
    exact ⟨instant, (place?_sound instant_lt placed).2.2, generator, generator_lt, placed, role,
      serves, held⟩

end Runs

/-- The rows of a service in which a variable stands, each as often as it does. -/
def occurrences (schedule : Schedule K) (service : Service) (var : VarRef) : List LinkRow :=
  match schedule.link? service.kind with
  | none => []
  | some link => (List.zipWith (fun row item =>
      if row.service = service then
        List.replicate ((item.function.terms.map Prod.fst).count var) row
      else []) (schedule.linkRows service.kind) link.rows.items).flatten

section Rows

variable [Scalar K] {allowed : Mode → Prop} {link : Link K} {item : Row K}

theorem Arises.named (arises : schedule.Arises allowed)
    (late : schedule.stage.hasConstraints = true) (member : link ∈ schedule.links) :
    schedule.link? link.kind = some link ∧
      link.rows.items.length = (schedule.linkRows link.kind).length := by
  obtain ⟨-, framed⟩ := arises.framed late
  have vars := congrArg List.length (frame_of_mem framed member).vars
  rw [List.length_map, List.length_map] at vars
  exact ⟨link?_of_mem framed member, vars.trans (List.length_map _)⟩

/-- A row is cut into the runs of the plants. -/
theorem Arises.cut (arises : schedule.Arises allowed)
    (late : schedule.stage.hasConstraints = true) (member : link ∈ schedule.links) {place : Nat}
    (named : (schedule.linkRows link.kind)[place]? = some row)
    (found : link.rows.items[place]? = some item) :
    schedule.Cut row item.function.terms (schedule.cutOf row) := by
  obtain ⟨heads, framed⟩ := arises.framed late
  have vars := congrArg (fun vars => vars[place]?) (frame_of_mem framed member).vars
  simp only [linkOf, List.getElem?_map, named, found, Option.map_some, Option.some.injEq] at vars
  have listed := List.mem_of_getElem? named
  exact cut_rowOf (heads link.kind row listed) listed arises.sound.stocked.horizons vars

/-- A variable of a plant is counted in its run alone. -/
theorem Cut.count {terms : List (VarRef × K)} {cuts : Nat → Nat}
    (cut : schedule.Cut row terms cuts) (separate : schedule.Separate)
    (found : schedule.plants[index]? = some plant) (block : var.block = plant.store.block) :
    (terms.map Prod.fst).count var =
      ((schedule.plantTerms index plant row).map Prod.fst).count var := by
  have ordered := cut.ordered index (List.getElem?_eq_some_iff.mp found).1
  have only (position : Nat) (term : VarRef × K) (there : terms[position]? = some term)
      (same : term.1 = var) : cuts index ≤ position ∧ position < cuts (index + 1) :=
    cut.exact separate index plant found position term there (same ▸ block)
  -- Terms before and after the run are of other blocks, whatever their variables are for.
  have front : var ∉ (terms.take (cuts index)).map Prod.fst := by
    intro listed
    obtain ⟨term, early, same⟩ := List.mem_map.mp listed
    obtain ⟨position, there⟩ := List.mem_iff_getElem?.mp early
    rw [List.getElem?_take] at there
    obtain ⟨position_lt, there⟩ := Option.ite_none_right_eq_some.mp there
    exact absurd (only position term there same).1 (by omega)
  have back : var ∉ (terms.drop (cuts (index + 1))).map Prod.fst := by
    intro listed
    obtain ⟨term, late, same⟩ := List.mem_map.mp listed
    obtain ⟨position, there⟩ := List.mem_iff_getElem?.mp late
    rw [List.getElem?_drop] at there
    exact absurd (only _ term there same).2 (by omega)
  have parts : terms = terms.take (cuts index) ++
      ((terms.drop (cuts index)).take (cuts (index + 1) - cuts index) ++
        terms.drop (cuts (index + 1))) := by
    have rest := List.take_append_drop (cuts (index + 1) - cuts index) (terms.drop (cuts index))
    rw [List.drop_drop, Nat.add_sub_cancel' ordered] at rest
    rw [rest, List.take_append_drop]
  calc
    (terms.map Prod.fst).count var =
        ((terms.take (cuts index) ++ ((terms.drop (cuts index)).take
          (cuts (index + 1) - cuts index) ++ terms.drop (cuts (index + 1)))).map
            Prod.fst).count var := by rw [← parts]
    _ = (((terms.drop (cuts index)).take
          (cuts (index + 1) - cuts index)).map Prod.fst).count var := by
        rw [List.map_append, List.map_append, List.count_append, List.count_append,
          List.count_eq_zero.mpr front, List.count_eq_zero.mpr back, Nat.zero_add, Nat.add_zero]
    _ = ((schedule.plantTerms index plant row).map Prod.fst).count var := by
        rw [cut.vars index plant found]

omit [Scalar K] in
theorem flatMap_once {items : List LinkRow} (distinct : items.Nodup) {station : LinkRow}
    (listed : station ∈ items) :
    (items.flatMap fun row => List.replicate (if station = row then 1 else 0) row) =
      [station] := by
  induction items with
  | nil => cases listed
  | cons head rest induction =>
      obtain ⟨fresh, distinct⟩ := List.nodup_cons.mp distinct
      rw [List.flatMap_cons]
      rcases List.mem_cons.mp listed with rfl | later
      · have elsewhere : (rest.flatMap fun row =>
            List.replicate (if station = row then 1 else 0) row) = [] := by
          refine List.flatMap_eq_nil_iff.mpr fun row inside => ?_
          have apart : station ≠ row := fun same => fresh (same ▸ inside)
          rw [if_neg apart, List.replicate_zero]
        rw [elsewhere, if_pos rfl]
        rfl
      · have apart : station ≠ head := fun same => fresh (same ▸ later)
        rw [if_neg apart, List.replicate_zero]
        exact induction distinct later

/-- Without a link of a kind there are no rows of it. -/
theorem Arises.linkRows_eq_nil (arises : schedule.Arises allowed)
    (late : schedule.stage.hasConstraints = true) (missing : schedule.link? kind = none) :
    schedule.linkRows kind = [] := by
  refine List.eq_nil_iff_forall_not_mem.mpr fun row listed => ?_
  obtain ⟨link, there, -⟩ := find?_of_forall₂ (arises.framed late).2 (find?_linksNow listed)
  rw [show schedule.link? kind = some link from there] at missing
  cases missing

/-- A variable of a generator stands in the row of its station and in no other. -/
theorem Arises.count_item (arises : schedule.Arises allowed)
    (late : schedule.stage.hasConstraints = true) (separate : schedule.Separate)
    (member : link ∈ schedule.links) {place : Nat}
    (named : (schedule.linkRows link.kind)[place]? = some row)
    (there : link.rows.items[place]? = some item)
    (found : schedule.plants[index]? = some plant) (generator_lt : generator < plant.generators)
    (instant_lt : instant < schedule.horizon) {role : Role}
    (held : plant.var? role generator instant = some var) :
    (item.function.terms.map Prod.fst).count var =
      if schedule.station? plant row.service role instant
          (schedule.nodeOf (schedule.offset index + generator)) = some row then 1 else 0 := by
  have present := List.mem_of_getElem? found
  have horizon := arises.sound.stocked.horizons plant present
  rw [(arises.cut late member named there).count separate found (Store.block_of_cell? held)]
  exact count_vars_plantTerms (arises.plants plant present).laid horizon
    (List.mem_of_getElem? named) index generator_lt instant_lt held

/-- Each variable of a generator stands once in the rows of a service that it serves, in the row of
its place, and nowhere in those of the others. -/
theorem Arises.occurrences_eq (arises : schedule.Arises allowed)
    (late : schedule.stage.hasConstraints = true) (separate : schedule.Separate)
    (found : schedule.plants[index]? = some plant) (generator_lt : generator < plant.generators)
    (instant_lt : instant < schedule.horizon) {role : Role}
    (held : plant.var? role generator instant = some var) (service : Service) :
    schedule.occurrences service var =
      (schedule.station? plant service role instant
        (schedule.nodeOf (schedule.offset index + generator))).toList := by
  have sound {station : LinkRow} (there : schedule.station? plant service role instant
      (schedule.nodeOf (schedule.offset index + generator)) = some station) :=
    place?_sound instant_lt (Option.ite_none_right_eq_some.mp there).2
  have every : schedule.occurrences service var =
      (schedule.linkRows service.kind).flatMap fun row => List.replicate
        (if schedule.station? plant service role instant
          (schedule.nodeOf (schedule.offset index + generator)) = some row then 1 else 0) row := by
    unfold occurrences
    cases stored : schedule.link? service.kind with
    | none =>
        rw [arises.linkRows_eq_nil late stored]
        rfl
    | some link =>
        have member := List.mem_of_find?_eq_some stored
        have kind : link.kind = service.kind := by simpa using List.find?_some stored
        have size := (arises.named late member).2
        rw [kind] at size
        rw [List.flatMap_def]
        refine congrArg List.flatten
          (List.ext_getElem (by simp [size]) fun place within inside => ?_)
        rw [List.length_map] at inside
        rw [List.getElem_zipWith, List.getElem_map]
        have named : (schedule.linkRows link.kind)[place]? =
            some (schedule.linkRows service.kind)[place] := by
          rw [kind, List.getElem?_eq_getElem inside]
        split
        · rename_i serves
          rw [arises.count_item late separate member named
            (List.getElem?_eq_getElem (size.symm ▸ inside)) found generator_lt instant_lt held,
            serves]
        · -- All pollutants share one kind; a row of another one is never the station.
          rename_i other
          rw [if_neg fun there => other (sound there).2.1, List.replicate_zero]
  rw [every]
  cases there : schedule.station? plant service role instant
      (schedule.nodeOf (schedule.offset index + generator)) with
  | none => simp
  | some station =>
      simp only [Option.some.injEq]
      exact flatMap_once (schedule.nodup_linkRows service.kind) (sound there).1

/-- Terms of a plant belong to one of its generators. -/
theorem Arises.served (arises : schedule.Arises allowed)
    (late : schedule.stage.hasConstraints = true) (separate : schedule.Separate)
    (member : link ∈ schedule.links) (listed : item ∈ link.rows.items) {term : VarRef × K}
    (inside : term ∈ item.function.terms) (present : plant ∈ schedule.plants)
    (block : term.1.block = plant.store.block) :
    ∃ generator < plant.generators, ∃ instant < schedule.horizon, ∃ role,
      plant.var? role generator instant = some term.1 := by
  obtain ⟨place, there⟩ := List.mem_iff_getElem?.mp listed
  obtain ⟨position, term_at⟩ := List.mem_iff_getElem?.mp inside
  obtain ⟨index, found⟩ := List.mem_iff_getElem?.mp present
  have within : place < (schedule.linkRows link.kind).length :=
    (arises.named late member).2 ▸ (List.getElem?_eq_some_iff.mp there).1
  have cut := arises.cut late member (List.getElem?_eq_getElem within) there
  obtain ⟨start, stop⟩ := cut.exact separate index plant found position term term_at block
  obtain ⟨generator, generator_lt, instant, instant_lt, owned⟩ :=
    cut.owned index plant found position term term_at start stop
  rw [arises.sound.stocked.horizons plant present] at instant_lt
  refine ⟨generator, generator_lt, instant, instant_lt, ?_⟩
  rcases owned with power | commitment | primary | secondary
  · exact ⟨.power, power⟩
  · exact ⟨.commitment, commitment⟩
  · exact ⟨.primary, primary⟩
  · exact ⟨.secondary, secondary⟩

/-- A generator has a power in every instant. -/
theorem Arises.powered (arises : schedule.Arises allowed)
    (late : schedule.stage.hasConstraints = true) (present : plant ∈ schedule.plants)
    (generator_lt : generator < plant.generators) (instant_lt : instant < schedule.horizon) :
    (plant.var? .power generator instant).isSome = true := by
  have occupied := arises.occupied late present (Nat.zero_lt_of_lt generator_lt)
    (Nat.zero_lt_of_lt instant_lt)
  rw [Plant.var?, Plant.grid, Store.cell?, occupied, if_neg Bool.false_ne_true]
  rfl

/-- A generator stands at a node, where there are nodes. -/
theorem Arises.standing (arises : schedule.Arises allowed)
    (late : schedule.stage.hasConstraints = true)
    (found : schedule.plants[index]? = some plant) (generator_lt : generator < plant.generators)
    (nodes : 0 < schedule.nodes) :
    schedule.nodeOf (schedule.offset index + generator) < schedule.nodes := by
  rcases (arises.sound.placed late).nodeOf_lt (number_lt found generator_lt) with inside | first
  · exact inside
  · rw [first]
    exact nodes

/-- Every generator is counted once: its variables stand once in the rows of each service that they
serve, those of the place of its node, and nothing else of a plant stands in a row. -/
structure Counted (schedule : Schedule K) : Prop where
  links : ∀ link ∈ schedule.links, schedule.link? link.kind = some link ∧
    link.rows.items.length = (schedule.linkRows link.kind).length
  powers : ∀ plant ∈ schedule.plants, ∀ generator < plant.generators,
    ∀ instant < schedule.horizon, (plant.var? .power generator instant).isSome = true
  nodes : 0 < schedule.nodes → ∀ index plant, schedule.plants[index]? = some plant →
    ∀ generator < plant.generators,
      schedule.nodeOf (schedule.offset index + generator) < schedule.nodes
  once : ∀ index plant, schedule.plants[index]? = some plant →
    ∀ generator < plant.generators, ∀ instant < schedule.horizon,
    ∀ role var, plant.var? role generator instant = some var →
    ∀ service, schedule.occurrences service var =
      (schedule.station? plant service role instant
        (schedule.nodeOf (schedule.offset index + generator))).toList
  only : ∀ link ∈ schedule.links, ∀ item ∈ link.rows.items, ∀ term ∈ item.function.terms,
    ∀ plant ∈ schedule.plants, term.1.block = plant.store.block →
      ∃ generator < plant.generators, ∃ instant < schedule.horizon, ∃ role,
        plant.var? role generator instant = some term.1

end Rows

theorem Operated.separate {schedule : Schedule Float} (operated : schedule.Operated)
    (distinct : schedule.members.Nodup) : schedule.Separate := by
  rw [← operated.grounded.blocks, stores, List.map_append, List.map_map, List.map_map] at distinct
  obtain ⟨plants, -, apart⟩ := List.nodup_append.mp distinct
  exact ⟨plants, fun plant present network there same =>
    apart _ (List.mem_map_of_mem present) _ (List.mem_map_of_mem there) same.symm⟩

theorem Operated.counted {schedule : Schedule Float} (operated : schedule.Operated)
    (distinct : schedule.members.Nodup) (late : schedule.stage.hasConstraints = true) :
    schedule.Counted where
  links _ member := operated.reachable.arises.named late member
  powers _ present _ generator_lt _ instant_lt :=
    operated.reachable.arises.powered late present generator_lt instant_lt
  nodes nodes _ _ found _ generator_lt :=
    operated.reachable.arises.standing late found generator_lt nodes
  once _ _ found _ generator_lt _ instant_lt _ _ held service :=
    operated.reachable.arises.occurrences_eq late (operated.separate distinct) found generator_lt
      instant_lt held service
  only _ member _ listed _ inside _ present block :=
    operated.reachable.arises.served late (operated.separate distinct) member listed inside
      present block

/-! Two committed plants with a reserve at the ends of a line, one of them outside the zones. -/

def reserveData : PlantData Float :=
  { soloData with
    commitment := true
    primaryReserve := true
    fixedConsumption := [0.5, 0.5] }

def reserves : Schedule Float :=
  { duo with
    plants := [
      { Plant.ofData ⟨1⟩ reserveData with notifier := .own ⟨0⟩ },
      { Plant.ofData ⟨2⟩ reserveData with notifier := .own ⟨0⟩ }] }

theorem operated_reserves : reserves.Operated := by
  have shaped : reserveData.Shaped := by
    simp [PlantData.Shaped, PlantData.profiles, reserveData, soloData]
  have first : (Plant.ofData ⟨1⟩ reserveData).Operated :=
    .start (.new shaped (show Plant.new reserveData 1 = (.ok _, 2) from rfl))
  have second : (Plant.ofData ⟨2⟩ reserveData).Operated :=
    .start (.new shaped (show Plant.new reserveData 2 = (.ok _, 3) from rfl))
  have start : (ofHorizon ⟨0⟩ 2 : Schedule Float).Operated := .start (created_ofHorizon 0 2)
  exact ((start.step (.addPlant _) first).step (.addPlant _) second).setNetwork trivial
    (show Schedule.setNetwork _ pairLine [0, 1] 3 = (.ok reserves, 5) from rfl)

theorem Operated.counted_reserves :
    let zoned := (Schedule.setZoning .primary ⟨1, [0, 1], []⟩ reserves).state
    let generated := (Schedule.generateConstraints
      (Schedule.generateVariables zoned).state).state
    generated.Operated ∧ generated.members.Nodup ∧ generated.stage = .constraints ∧
      generated.Counted ∧
      generated.occurrences .balance ⟨⟨2⟩, 3⟩ = [.balance 1 1] ∧
      generated.occurrences (.need .primary) ⟨⟨1⟩, 5⟩ = [.zonal .primary 1 0] ∧
      generated.occurrences (.need .primary) ⟨⟨2⟩, 5⟩ = [] := by
  intro zoned generated
  have operated : generated.Operated :=
    (operated_reserves.step (.setZoning .primary ⟨1, [0, 1], []⟩) trivial).calls
      [.generateVariables, .generateConstraints] (by simp [Operation.Within])
  have distinct : generated.members.Nodup := by decide +kernel
  have stage : generated.stage = .constraints := by decide +kernel
  have counted : generated.Counted := operated.counted distinct (by rw [stage]; rfl)
  exact ⟨operated, distinct, stage, counted, by decide +kernel, by decide +kernel,
    by decide +kernel⟩

/-! A network from outside this library may have no nodes at all, and then no balance has the power
of a generator. -/

def voidLine : Descriptor Float :=
  .extension ⟨{ (DcData.bus : DcData Float).topology with nodes := 0 }, fun group => group⟩

def void : Schedule Float :=
  { (ofHorizon ⟨0⟩ 2 : Schedule Float) with
    nodes := 0
    plants := [{ Plant.ofData ⟨1⟩ soloData with notifier := .own ⟨0⟩ }] }

theorem operated_void : void.Operated := by
  have plant : (Plant.ofData ⟨1⟩ soloData).Operated := .start (created_solo 1)
  have start : (ofHorizon ⟨0⟩ 2 : Schedule Float).Operated := .start (created_ofHorizon 0 2)
  exact (start.step (.addPlant _) plant).setNetwork trivial
    (show Schedule.setNetwork _ voidLine [] 2 = (.ok void, 2) from rfl)

theorem uncounted_void :
    ¬∀ schedule : Schedule Float, schedule.Operated → schedule.members.Nodup →
      schedule.stage.hasConstraints = true →
      ∀ index plant, schedule.plants[index]? = some plant →
      ∀ generator < plant.generators, ∀ instant < schedule.horizon,
        ∃ var, plant.var? .power generator instant = some var ∧
          schedule.occurrences .balance var =
            [.balance instant (schedule.nodeOf (schedule.offset index + generator))] := by
  intro counted
  let generated := (Schedule.generateConstraints (Schedule.generateVariables void).state).state
  have operated : generated.Operated := 
    operated_void.calls [.generateVariables, .generateConstraints] (by simp [Operation.Within])
  have generators : generated.plants[0]?.map Plant.generators = some 1 := by decide +kernel
  have bare : (generated.link? .balance).isNone = true := by decide +kernel
  obtain ⟨plant, found, one⟩ := Option.map_eq_some_iff.mp generators
  obtain ⟨var, -, once⟩ := counted generated operated (by decide +kernel) (by decide +kernel) 0
    plant found 0 (one ▸ Nat.one_pos) 0 (by decide +kernel)
  rw [occurrences, Service.kind, Option.isNone_iff_eq_none.mp bare] at once
  exact absurd once (List.cons_ne_nil _ _).symm

end Schedule

end Dispatch
