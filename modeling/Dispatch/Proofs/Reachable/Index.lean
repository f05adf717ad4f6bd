import Mathlib.Data.List.Nodup
import Dispatch.Proofs.Reachable.AllOrNothing
import Dispatch.Proofs.Reachable.Writing

namespace Dispatch

/-! The term index of a schedule with rows. It cuts every row of a key at the same places, into
the head of the row and one run of terms for each plant, in the order of the plants. -/

variable {K : Type} [Scalar K]

/-- One of the variables that the plant has for its generators and instants. -/
def Plant.Owns (plant : Plant K) (var : VarRef) : Prop :=
  ∃ generator < plant.generators, ∃ instant < plant.horizon,
    plant.activePowerVar? generator instant = some var ∨
      plant.commitmentVar? generator instant = some var ∨
      plant.primaryReserveVar? generator instant = some var ∨
      plant.secondaryReserveVar? generator instant = some var

omit [Scalar K] in
theorem Store.block_of_cell? {store : Store K} {grid : Grid} {row col : Nat} {var : VarRef}
    (found : store.cell? grid row col = some var) : var.block = store.block := by
  unfold Store.cell? at found
  split at found
  · cases found
  · cases found
    rfl

omit [Scalar K] in
theorem Plant.Owns.block {plant : Plant K} {var : VarRef} (owns : plant.Owns var) :
    var.block = plant.store.block := by
  obtain ⟨_, _, _, _, found | found | found | found⟩ := owns
  · exact Store.block_of_cell? found
  · exact Store.block_of_cell? found
  · exact Store.block_of_cell? found
  · exact Store.block_of_cell? found

namespace Schedule

variable {schedule : Schedule K} {kind : LinkKind} {row : LinkRow} {plant : Plant K}

omit [Scalar K] in
theorem mem_weighted {var? : Option VarRef} {weight : K} {term : VarRef × K}
    (member : term ∈ weighted var? weight) : var? = some term.1 := by
  obtain ⟨var, listed, rfl⟩ := List.mem_map.mp member
  exact Option.mem_toList.mp listed

/-- The instant of a row, unless it is about all of them. -/
def LinkRow.instant? : LinkRow → Option Nat
  | .balance instant _ => some instant
  | .zonal _ instant _ => some instant
  | .budget _ _ => none

omit [Scalar K] in
theorem instant_lt_of_mem (member : row ∈ schedule.linkRows kind) {instant : Nat}
    (there : row.instant? = some instant) : instant < schedule.horizon := by
  cases kind with
  | balance =>
      obtain ⟨_, instant_lt, _, _, rfl⟩ := Family.mem_table.mp member
      cases there
      exact instant_lt
  | zonal need =>
      obtain ⟨_, instant_lt, _, _, rfl⟩ := Family.mem_table.mp member
      cases there
      exact instant_lt
  | budget =>
      obtain ⟨_, _, rfl⟩ := List.mem_map.mp member
      cases there

theorem owns_of_mem_plantTerms (member : row ∈ schedule.linkRows kind)
    (horizon : plant.horizon = schedule.horizon) {index : Nat} {term : VarRef × K}
    (listed : term ∈ schedule.plantTerms index plant row) : plant.Owns term.1 := by
  cases row with
  | balance instant node =>
      have instant_lt : instant < schedule.horizon := instant_lt_of_mem member rfl
      obtain ⟨generator, within, listed⟩ := List.mem_flatMap.mp listed
      refine ⟨generator, List.mem_range.mp within, instant, horizon ▸ instant_lt, ?_⟩
      split at listed
      · rcases List.mem_append.mp listed with power | fixed
        · exact .inl (mem_weighted power)
        · split at fixed
          · exact .inr (.inl (mem_weighted fixed))
          · cases fixed
      · cases listed
  | zonal need instant zone =>
      have instant_lt : instant < schedule.horizon := instant_lt_of_mem member rfl
      obtain ⟨generator, within, listed⟩ := List.mem_flatMap.mp listed
      refine ⟨generator, List.mem_range.mp within, instant, horizon ▸ instant_lt, ?_⟩
      split at listed
      · cases need with
        | primary => exact .inr (.inr (.inl (mem_weighted listed)))
        | secondary => exact .inr (.inr (.inr (mem_weighted listed)))
        | inertia =>
            rcases List.mem_append.mp listed with commitment | power
            · split at commitment
              · exact .inr (.inl (mem_weighted commitment))
              · cases commitment
            · split at power
              · exact .inl (mem_weighted power)
              · cases power
      · cases listed
  | budget pollutant zone =>
      obtain ⟨instant, instant_lt, listed⟩ := List.mem_flatMap.mp listed
      obtain ⟨generator, within, listed⟩ := List.mem_flatMap.mp listed
      refine ⟨generator, List.mem_range.mp within, instant,
        horizon ▸ List.mem_range.mp instant_lt, ?_⟩
      split at listed
      · exact .inl (mem_weighted listed)
      · cases listed

theorem block_of_mem_headOf {term : VarRef × K} (listed : term ∈ schedule.headOf row) :
    ∃ network ∈ schedule.networks, term.1.block = network.store.block := by
  cases row with
  | balance instant node =>
      unfold headOf linkHead at listed
      dsimp only at listed
      cases bus : schedule.isBus with
      | true => simp [bus] at listed
      | false =>
          simp only [bus, Bool.false_eq_true, if_false] at listed
          cases found : schedule.networks[instant]? with
          | none => simp [found] at listed
          | some network =>
              simp only [found, Option.bind_some] at listed
              cases there : network.injectionVar? 0 node with
              | none => simp [there] at listed
              | some var =>
                  simp only [there, List.mem_singleton] at listed
                  rw [listed]
                  exact ⟨network, List.mem_of_getElem? found, Store.block_of_cell? there⟩
  | zonal need instant zone => cases listed
  | budget pollutant zone => cases listed

/-- Where the run of a plant starts in a row, and where that of the plant before it ends. -/
def cutOf (schedule : Schedule K) (row : LinkRow) (index : Nat) : Nat :=
  schedule.headLength row + (((schedule.runs row).take index).flatten).length

theorem getElem?_runs {index : Nat} (found : schedule.plants[index]? = some plant)
    (row : LinkRow) :
    (schedule.runs row)[index]? = some (schedule.plantTerms index plant row) := by
  simp [runs, found]

theorem cutOf_succ {index : Nat} (found : schedule.plants[index]? = some plant)
    (row : LinkRow) :
    schedule.cutOf row (index + 1) =
      schedule.cutOf row index + (schedule.plantTerms index plant row).length := by
  rw [cutOf, cutOf, List.take_add_one, getElem?_runs found]
  simp [Nat.add_assoc]

theorem rowSpan_eq {index : Nat} (found : schedule.plants[index]? = some plant)
    (row : LinkRow) :
    schedule.rowSpan index row = ⟨schedule.cutOf row index, schedule.cutOf row (index + 1)⟩ := by
  rw [cutOf_succ found]
  simp [rowSpan, cutOf, List.getD_eq_getElem?_getD, getElem?_runs found]

theorem cutOf_length (heads : ∃ head, schedule.linkHead row = .ok head) :
    schedule.cutOf row schedule.plants.length = (schedule.rowOf row).function.terms.length := by
  have all : (schedule.runs row).take schedule.plants.length = schedule.runs row :=
    List.take_of_length_le (by simp [runs])
  rw [cutOf, all, rowOf, LinearFunction.ofTerms, List.length_append, length_headOf heads]

/-- The run of a plant, cut out of a row. -/
theorem slice_rowOf (heads : ∃ head, schedule.linkHead row = .ok head) {index : Nat}
    (found : schedule.plants[index]? = some plant) :
    ((schedule.rowOf row).function.terms.drop (schedule.cutOf row index)).take
        (schedule.cutOf row (index + 1) - schedule.cutOf row index) =
      schedule.plantTerms index plant row := by
  have run := getElem?_runs found row
  have parts : (schedule.runs row).flatten = ((schedule.runs row).take index).flatten ++
      (schedule.plantTerms index plant row ++ ((schedule.runs row).drop (index + 1)).flatten) := by
    obtain ⟨index_lt, entry⟩ := List.getElem?_eq_some_iff.mp run
    rw [← entry, ← List.flatten_cons, ← List.drop_eq_getElem_cons index_lt,
      ← List.flatten_append, List.take_append_drop]
  rw [cutOf_succ found, Nat.add_sub_cancel_left, rowOf, LinearFunction.ofTerms, parts,
    ← List.append_assoc]
  have start : schedule.cutOf row index =
      (schedule.headOf row ++ ((schedule.runs row).take index).flatten).length := by
    rw [List.length_append, length_headOf heads, cutOf]
  rw [start, List.drop_left, List.take_left]

/-- Between its first and its last cut, a position lies in the run of one plant. -/
theorem exists_run {cuts : Nat → Nat} {count position : Nat} (first : cuts 0 ≤ position)
    (last : position < cuts count) :
    ∃ index < count, cuts index ≤ position ∧ position < cuts (index + 1) := by
  induction count with
  | zero => omega
  | succ count induction =>
      by_cases earlier : position < cuts count
      · obtain ⟨index, index_lt, within⟩ := induction earlier
        exact ⟨index, by omega, within⟩
      · exact ⟨count, by omega, by omega, last⟩

theorem find?_linksNow (member : row ∈ schedule.linkRows kind) :
    (schedule.linksNow.find? fun link => link.kind == kind) = some (schedule.linkOf kind) := by
  have rows : (schedule.linkOf kind).rows.isEmpty = false := by
    have some : schedule.linkRows kind ≠ [] := List.ne_nil_of_mem member
    simp [linkOf, Family.isEmpty, some]
  let wanted (other : LinkKind) : Bool :=
    decide ((!(schedule.linkOf other).rows.isEmpty) = true ∧ (other == kind) = true)
  have first : LinkKind.all.find? wanted = some kind := by
    have here : wanted kind = true := by simp [wanted, rows]
    obtain ⟨other, found⟩ :=
      Option.isSome_iff_exists.mp (List.find?_isSome.mpr ⟨kind, mem_all kind, here⟩)
    have chosen : wanted other = true := List.find?_some found
    rw [found, eq_of_beq (of_decide_eq_true chosen).2]
  rw [linksNow, List.find?_filter, List.find?_map]
  exact congrArg (Option.map schedule.linkOf) first

omit [Scalar K] in
theorem find?_of_forall₂ {before after : List (Link K)}
    (same : List.Forall₂ Link.SameFrame before after) {link : Link K}
    (found : (before.find? fun link => link.kind == kind) = some link) :
    ∃ other, (after.find? fun link => link.kind == kind) = some other ∧
      Link.SameFrame link other := by
  induction same with
  | nil => cases found
  | cons head _ induction =>
      rw [List.find?_cons] at found ⊢
      rw [head.kind]
      split at found
      · cases found
        exact ⟨_, rfl, head⟩
      · exact induction found

theorem getElem?_spansOf_rowKey (member : row ∈ schedule.linkRows kind) {index : Nat}
    (found : schedule.plants[index]? = some plant) :
    ∃ spans, (schedule.spansOf kind)[index]? = some spans ∧
      spans[schedule.rowKey row]? =
        some ⟨schedule.cutOf row index, schedule.cutOf row (index + 1)⟩ := by
  have index_lt := (List.getElem?_eq_some_iff.mp found).1
  have within : index < (schedule.spansOf kind).length := by
    rw [length_columns]
    exact index_lt
  have entry := getElem?_spansOf member index_lt
  rw [List.getD_eq_getElem?_getD, List.getElem?_eq_getElem within, Option.getD_some,
    rowSpan_eq found] at entry
  exact ⟨_, List.getElem?_eq_getElem within, entry⟩

/-- No variable of a member could be taken for one of another. -/
def Separate (schedule : Schedule K) : Prop :=
  (schedule.plants.map fun plant => plant.store.block).Nodup ∧
    ∀ plant ∈ schedule.plants, ∀ network ∈ schedule.networks,
      network.store.block ≠ plant.store.block

/-- A row after its head is cut into the runs of the plants, one after the other. -/
structure Cut (schedule : Schedule K) (row : LinkRow) (terms : List (VarRef × K))
    (cuts : Nat → Nat) : Prop where
  first : cuts 0 = match row with
    | .balance _ _ => if schedule.isBus then 0 else 1
    | _ => 0
  last : cuts schedule.plants.length = terms.length
  ordered : ∀ index < schedule.plants.length, cuts index ≤ cuts (index + 1)
  vars : ∀ index plant, schedule.plants[index]? = some plant →
    ((terms.drop (cuts index)).take (cuts (index + 1) - cuts index)).map Prod.fst =
      (schedule.plantTerms index plant row).map Prod.fst
  owned : ∀ index plant, schedule.plants[index]? = some plant →
    ∀ (position : Nat) (term : VarRef × K), terms[position]? = some term →
      cuts index ≤ position → position < cuts (index + 1) → plant.Owns term.1
  /-- A variable of a plant stands nowhere else. -/
  exact : schedule.Separate → ∀ index plant, schedule.plants[index]? = some plant →
    ∀ (position : Nat) (term : VarRef × K), terms[position]? = some term →
      term.1.block = plant.store.block →
        cuts index ≤ position ∧ position < cuts (index + 1)

/-- A row with the variables of a generated one is cut as that one is. -/
theorem cut_rowOf (heads : ∃ head, schedule.linkHead row = .ok head)
    (member : row ∈ schedule.linkRows kind)
    (horizons : ∀ plant ∈ schedule.plants, plant.horizon = schedule.horizon)
    {terms : List (VarRef × K)}
    (same : terms.map Prod.fst = (schedule.rowOf row).function.terms.map Prod.fst) :
    schedule.Cut row terms (schedule.cutOf row) := by
  have vars (index : Nat) (plant : Plant K) (found : schedule.plants[index]? = some plant) :
      ((terms.drop (schedule.cutOf row index)).take
          (schedule.cutOf row (index + 1) - schedule.cutOf row index)).map Prod.fst =
        (schedule.plantTerms index plant row).map Prod.fst := by
    rw [List.map_take, List.map_drop, same, ← List.map_drop, ← List.map_take,
      slice_rowOf heads found]
  have owned (index : Nat) (plant : Plant K) (found : schedule.plants[index]? = some plant)
      (position : Nat) (term : VarRef × K) (there : terms[position]? = some term)
      (start : schedule.cutOf row index ≤ position)
      (stop : position < schedule.cutOf row (index + 1)) : plant.Owns term.1 := by
    have inside : term.1 ∈ ((terms.drop (schedule.cutOf row index)).take
        (schedule.cutOf row (index + 1) - schedule.cutOf row index)).map Prod.fst := by
      refine List.mem_map.mpr ⟨term, ?_, rfl⟩
      refine List.mem_of_getElem? (i := position - schedule.cutOf row index) ?_
      rw [List.getElem?_take_of_lt (by omega), List.getElem?_drop, Nat.add_sub_cancel' start]
      exact there
    rw [vars index plant found] at inside
    obtain ⟨listed, among, equality⟩ := List.mem_map.mp inside
    rw [← equality]
    exact owns_of_mem_plantTerms member (horizons plant (List.mem_of_getElem? found)) among
  have length : terms.length = (schedule.rowOf row).function.terms.length := by
    simpa using congrArg List.length same
  refine ⟨?_, ?_, fun index index_lt => ?_, vars, owned, ?_⟩
  · cases row with
    | balance instant node => rfl
    | zonal need instant zone => rfl
    | budget pollutant zone => rfl
  · rw [cutOf_length heads, length]
  · rw [cutOf_succ (List.getElem?_eq_getElem index_lt)]
    omega
  · rintro ⟨distinct, apart⟩ index plant found position term there block
    have position_lt := (List.getElem?_eq_some_iff.mp there).1
    have plant_mem := List.mem_of_getElem? found
    have past : schedule.cutOf row 0 ≤ position := by
      by_contra early
      have start : schedule.cutOf row 0 = (schedule.headOf row).length := by
        simp [cutOf, length_headOf heads]
      have within : position < (schedule.headOf row).length := by omega
      have entry := congrArg (fun vars => vars[position]?) same
      simp only [List.getElem?_map, there, rowOf, LinearFunction.ofTerms,
        List.getElem?_append_left within, List.getElem?_eq_getElem within, Option.map_some,
        Option.some.injEq] at entry
      obtain ⟨network, listed, other⟩ := block_of_mem_headOf (List.getElem_mem within)
      rw [← entry, block] at other
      exact apart plant plant_mem network listed other.symm
    rw [length, ← cutOf_length heads] at position_lt
    obtain ⟨other, other_lt, start, stop⟩ := exists_run past position_lt
    have owner := (owned other _ (List.getElem?_eq_getElem other_lt) position term there start
      stop).block
    rw [block] at owner
    have index_lt := (List.getElem?_eq_some_iff.mp found).1
    let blocks := schedule.plants.map fun plant => plant.store.block
    have first : index < blocks.length := by simpa [blocks] using index_lt
    have second : other < blocks.length := by simpa [blocks] using other_lt
    have blocks_eq : blocks[index] = blocks[other] := by
      simp only [blocks, List.getElem_map, ← owner, (List.getElem?_eq_some_iff.mp found).2]
    rw [distinct.getElem_inj_iff.mp blocks_eq]
    exact ⟨start, stop⟩

/-- The index of a schedule with rows, after any updates: the rows of a key are those that have
it, and all are cut where the index says, each run over the variables of its plant. With writing
modes the runs are those of the plants as they are now. -/
theorem Arises.term_index {allowed : Mode → Prop} (arises : schedule.Arises allowed)
    (late : schedule.stage.hasConstraints = true) (kind : LinkKind) :
    (∀ key < schedule.linkKeys kind, ∀ row, row ∈ schedule.keyRows kind key ↔
      row ∈ schedule.linkRows kind ∧ schedule.rowKey row = key) ∧
    (∀ (place : Nat) (row : LinkRow), (schedule.linkRows kind)[place]? = some row ↔
      row ∈ schedule.linkRows kind ∧
        (schedule.rowPlace row).1 * schedule.linkCols kind + (schedule.rowPlace row).2 = place) ∧
    ∀ row ∈ schedule.linkRows kind, schedule.rowKey row < schedule.linkKeys kind ∧
      ∃ (link : Link K) (item : Row K) (cuts : Nat → Nat), schedule.link? kind = some link ∧
        link.rows.get? (schedule.rowPlace row).1 (schedule.rowPlace row).2 = some item ∧
        schedule.Cut row item.function.terms cuts ∧
        ∀ index plant, schedule.plants[index]? = some plant →
          schedule.span? kind index (schedule.rowKey row) =
            some ⟨cuts index, cuts (index + 1)⟩ ∧
          ((∀ mode, allowed mode → mode.writes = true) →
            (item.function.terms.drop (cuts index)).take (cuts (index + 1) - cuts index) =
              schedule.plantTerms index plant row) := by
  refine ⟨fun key key_lt row => mem_keyRows key_lt, fun place row => getElem?_linkRows,
    fun row member => ⟨rowKey_lt member, ?_⟩⟩
  obtain ⟨heads, framed⟩ := arises.framed late
  have found := heads kind row member
  obtain ⟨link, there, same⟩ := find?_of_forall₂ framed (find?_linksNow member)
  obtain ⟨item, here, vars⟩ := same.get? (get?_linkOf member)
  refine ⟨link, item, schedule.cutOf row, there, here,
    cut_rowOf found member arises.sound.stocked.horizons vars, fun index plant present => ⟨?_, ?_⟩⟩
  · obtain ⟨spans, column, entry⟩ := getElem?_spansOf_rowKey member present
    unfold span?
    rw [show schedule.link? kind = some link from there]
    simp only [Option.bind_eq_bind, Option.bind_some, same.spans]
    rw [show (schedule.linkOf kind).spans = schedule.spansOf kind from rfl, column]
    exact entry
  · intro writes
    have now := (arises.current writes late).2
    rw [now, find?_linksNow member] at there
    cases there
    rw [get?_linkOf member] at here
    cases here
    exact slice_rowOf found present

theorem arises_duo : duo.Arises fun mode => mode.writes = true := by
  have made (number : Nat) : (Plant.ofData ⟨number⟩ soloData).Arises :=
    .start ((created_solo number).initial fun _ shaped => shaped)
  have start : (ofHorizon ⟨0⟩ 2 : Schedule Float).Arises fun mode => mode.writes = true :=
    .start (.ofHorizon ⟨0⟩ 2)
  have filled := (start.step (.addPlant _) (made 1)).step (.addPlant _) (made 2)
  exact filled.setNetwork trivial
    (show Schedule.setNetwork _ pairLine [0, 1] 3 = (.ok duo, 5) from rfl)

/-- The balance of the second node at the second instant, after an update of its plant. -/
theorem Arises.term_index_duo :
    let generated := (Schedule.generateConstraints
      (Schedule.generateVariables Schedule.duo).state).state
    let scaled := (Schedule.scalePlantAt 1 (.subset [0] true) [3] .default .quiet generated).state
    let row := LinkRow.balance 1 1
    scaled.Arises (fun mode => mode.writes = true) ∧ scaled.stage = .constraints ∧
      row ∈ scaled.linkRows .balance ∧
      ∃ (link : Link Float) (item : Row Float) (cuts : Nat → Nat),
        scaled.link? .balance = some link ∧ link.rows.get? 1 1 = some item ∧
        scaled.Cut row item.function.terms cuts ∧
        ∀ index plant, scaled.plants[index]? = some plant →
          scaled.span? .balance index 1 = some ⟨cuts index, cuts (index + 1)⟩ ∧
          (item.function.terms.drop (cuts index)).take (cuts (index + 1) - cuts index) =
            scaled.plantTerms index plant row := by
  intro generated scaled row
  have built : generated.Arises fun mode => mode.writes = true :=
    arises_duo.calls [.generateVariables, .generateConstraints]
      (by simp [Operation.Within])
  have arises : scaled.Arises fun mode => mode.writes = true :=
    built.step (.call (.scalePlantAt 1 (.subset [0] true) [3] .default .quiet)) rfl
  obtain ⟨nodes, horizon, stage⟩ :=
    built.sound.rest_scalePlantAt 1 (.subset [0] true) [3] .default .quiet
  have nodes : scaled.nodes = 2 := nodes.trans (by decide +kernel)
  have horizon : scaled.horizon = 2 := horizon.trans (by decide +kernel)
  have stage : scaled.stage = .constraints := stage.trans (by decide +kernel)
  have listed : row ∈ scaled.linkRows .balance :=
    mem_balanceRows.mpr ⟨by rw [horizon]; decide, by rw [nodes]; decide⟩
  obtain ⟨-, link, item, cuts, there, here, cut, index⟩ :=
    (term_index arises (by rw [stage]; rfl) .balance).2.2 row listed
  refine ⟨arises, stage, listed, link, item, cuts, there, here, cut, fun position plant found => ?_⟩
  obtain ⟨span, run⟩ := index position plant found
  exact ⟨span, run fun _ writes => writes⟩

end Schedule

end Dispatch
