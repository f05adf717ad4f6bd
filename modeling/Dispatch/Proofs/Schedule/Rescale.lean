import Dispatch.Proofs.Change.Laws
import Dispatch.Proofs.Schedule.Links
import Dispatch.Schedule.Update

namespace Dispatch.Schedule

/-! A rescaled plant: the patches that the term index calls for turn every linking family
into the family that the new scale generates. -/

variable {K : Type} [Scalar K]

/-- The schedules before and after one plant has got a new scale. Nothing else that a
linking row reads may differ. -/
structure Rescaling (before after : Schedule K) (index : Nat) (plant : Plant K)
    (scale : K) : Prop where
  found : before.plants[index]? = some plant
  plants : after.plants = before.plants.set index (plant.followed scale)
  horizon : after.horizon = before.horizon
  nodes : after.nodes = before.nodes
  generatorNode : after.generatorNode = before.generatorNode
  zoning : ∀ need, after.zoning need = before.zoning need
  emissions : after.emissions = before.emissions
  demand : after.demand = before.demand
  heads : ∀ row, after.linkHead row = before.linkHead row
  isBus : after.isBus = before.isBus

namespace Rescaling

variable {before after : Schedule K} {index : Nat} {plant : Plant K} {scale : K}

theorem index_lt (rescaling : Rescaling before after index plant scale) :
    index < before.plants.length :=
  (List.getElem?_eq_some_iff.mp rescaling.found).1

theorem sameLayout (rescaling : Rescaling before after index plant scale) :
    SameLayout after before where
  horizon := rescaling.horizon
  nodes := rescaling.nodes
  generatorNode := rescaling.generatorNode
  zoning := rescaling.zoning
  emissions := rescaling.emissions
  generators := by
    rw [rescaling.plants]
    apply List.ext_getElem?
    intro other
    simp only [List.getElem?_map, List.getElem?_set]
    by_cases here : index = other
    · subst here
      rw [if_pos rfl, if_pos rescaling.index_lt, rescaling.found]
      rfl
    · rw [if_neg here]

theorem headOf (rescaling : Rescaling before after index plant scale) (row : LinkRow) :
    after.headOf row = before.headOf row := by
  unfold Schedule.headOf
  rw [rescaling.heads]

theorem runs (rescaling : Rescaling before after index plant scale) (row : LinkRow) :
    after.runs row =
      (before.runs row).set index (after.plantTerms index (plant.followed scale) row) := by
  apply List.ext_getElem?
  intro other
  simp only [Schedule.runs, rescaling.plants, List.getElem?_mapIdx, List.getElem?_set,
    List.length_mapIdx]
  by_cases here : index = other
  · subst here
    simp [rescaling.index_lt]
  · simp only [if_neg here]
    congr 1
    funext found
    exact rescaling.sameLayout.plantTerms other found row

theorem run_before (rescaling : Rescaling before after index plant scale) (row : LinkRow) :
    (before.runs row)[index]? = some (before.plantTerms index plant row) := by
  simp [Schedule.runs, rescaling.found]

theorem vars (rescaling : Rescaling before after index plant scale) (row : LinkRow) :
    (after.plantTerms index (plant.followed scale) row).map Prod.fst =
      (before.plantTerms index plant row).map Prod.fst := by
  rw [rescaling.sameLayout.plantTerms]
  exact vars_plantTerms_rescaled before index plant scale row

/-- The level of a row moves with the fixed consumption of the plant only. -/
theorem linkBounds_of_fixedConsumption (rescaling : Rescaling before after index plant scale)
    {row : LinkRow} (fixed : ∀ instant node, row = .balance instant node →
      before.fixedConsumption index (plant.followed scale) instant node =
        before.fixedConsumption index plant instant node) :
    after.linkBounds row = before.linkBounds row := by
  cases row with
  | balance instant node =>
      have demands : after.demandAt node instant = before.demandAt node instant := by
        simp only [Schedule.demandAt, rescaling.demand, rescaling.horizon]
      have levels : (after.plants.mapIdx fun other found =>
            after.fixedConsumption other found instant node) =
          before.plants.mapIdx fun other found =>
            before.fixedConsumption other found instant node := by
        apply List.ext_getElem?
        intro other
        simp only [rescaling.plants, List.getElem?_mapIdx, List.getElem?_set,
          rescaling.sameLayout.fixedConsumption]
        by_cases here : index = other
        · subst here
          rw [if_pos rfl, if_pos rescaling.index_lt, rescaling.found, Option.map_some,
            Option.map_some, fixed instant node rfl]
        · rw [if_neg here]
      simp only [Schedule.linkBounds, balanceLevel, rescaling.isBus, demands, levels]
  | zonal need instant zone =>
      simp only [Schedule.linkBounds, rescaling.zoning, rescaling.horizon]
  | budget pollutant zone =>
      simp only [Schedule.linkBounds, rescaling.emissions]

/-- Nor does it move where the patch leaves it alone. -/
theorem linkBounds (rescaling : Rescaling before after index plant scale) {row : LinkRow}
    (still : movesLevel (plant.followed scale) row = false) :
    after.linkBounds row = before.linkBounds row := by
  refine rescaling.linkBounds_of_fixedConsumption fun instant node equality => ?_
  subst equality
  have idle : (plant.data.commitment && plant.hasFixedConsumption) = false := still
  have idle' : ((plant.followed scale).data.commitment &&
      (plant.followed scale).hasFixedConsumption) = false := still
  simp only [Schedule.fixedConsumption, idle, idle']
  rfl

theorem lengths (rescaling : Rescaling before after index plant scale) (row : LinkRow) :
    (after.runs row).map List.length = (before.runs row).map List.length := by
  have same : (after.plantTerms index (plant.followed scale) row).length =
      (before.plantTerms index plant row).length := by
    simpa using congrArg List.length (rescaling.vars row)
  apply List.ext_getElem?
  intro other
  rw [rescaling.runs, List.getElem?_map, List.getElem?_map, List.getElem?_set]
  by_cases here : index = other
  · subst here
    have entry := rescaling.run_before row
    rw [if_pos rfl, if_pos (List.getElem?_eq_some_iff.mp entry).1, entry, Option.map_some,
      Option.map_some, same]
  · rw [if_neg here]

theorem headLength (rescaling : Rescaling before after index plant scale) (row : LinkRow) :
    after.headLength row = before.headLength row := by
  cases row <;> simp only [Schedule.headLength, rescaling.isBus]

theorem enterSpans (rescaling : Rescaling before after index plant scale) :
    after.enterSpans = before.enterSpans := by
  funext spans row
  simp only [Schedule.enterSpans, rescaling.headLength, rescaling.sameLayout.shape.rowKey,
    spansFrom_congr (rescaling.lengths row)]

theorem spansOf (rescaling : Rescaling before after index plant scale) (kind : LinkKind) :
    after.spansOf kind = before.spansOf kind := by
  have empty : after.emptySpans kind = before.emptySpans kind := by
    simp only [emptySpans, rescaling.sameLayout.shape.linkKeys, List.map_const',
      rescaling.plants, List.length_set]
  simp only [Schedule.spansOf, rescaling.sameLayout.shape.linkRows, rescaling.enterSpans, empty]

theorem rowSpan (rescaling : Rescaling before after index plant scale) (row : LinkRow) :
    after.rowSpan index row = before.rowSpan index row := by
  have first := getElem?_rowSpan row rescaling.index_lt
  have second := getElem?_rowSpan row
    (show index < after.plants.length by simpa [rescaling.plants] using rescaling.index_lt)
  rw [rescaling.headLength, spansFrom_congr (rescaling.lengths row), first] at second
  exact (Option.some.inj second).symm

/-- A row in which the plant has no terms reads nothing of its scale. -/
theorem rowOf_of_isEmpty (rescaling : Rescaling before after index plant scale)
    (occupied : 0 < plant.generators → 0 < before.horizon →
      plant.activePower.isEmpty = false)
    {kind : LinkKind} {row : LinkRow} (member : row ∈ before.linkRows kind)
    (empty : (before.rowSpan index row).isEmpty = true) :
    after.rowOf row = before.rowOf row := by
  have entry := List.getElem?_eq_some_iff.mp (rescaling.run_before row)
  have none : before.plantTerms index plant row = [] := by
    simp only [Schedule.rowSpan, Span.isEmpty, decide_eq_true_eq, List.getD_eq_getElem?_getD,
      rescaling.run_before row, Option.getD_some] at empty
    exact List.length_eq_zero_iff.mp (by omega)
  have none' : after.plantTerms index (plant.followed scale) row = [] := by
    simpa [none] using rescaling.vars row
  have runs : after.runs row = before.runs row := by
    rw [rescaling.runs, none', ← none, ← entry.2, List.set_getElem_self]
  have bounds : after.linkBounds row = before.linkBounds row := by
    refine rescaling.linkBounds_of_fixedConsumption fun instant node equality => ?_
    subst equality
    have there : 0 < before.horizon := by
      cases kind with
      | balance =>
          obtain ⟨other, other_lt, _, _, equality⟩ := Family.mem_table.mp member
          cases equality
          omega
      | zonal need =>
          obtain ⟨_, _, _, _, equality⟩ := Family.mem_table.mp member
          cases equality
      | budget =>
          obtain ⟨_, _, equality⟩ := List.mem_map.mp member
          cases equality
    have nobody : ((List.range plant.generators).filter fun generator =>
        before.nodeOf (before.offset index + generator) == node) = [] := by
      by_cases any : 0 < plant.generators
      · exact generators_of_plantTerms_eq_nil (occupied any there) none
      · simp [Nat.eq_zero_of_not_pos any]
    have nobody' : ((List.range (plant.followed scale).generators).filter fun generator =>
        before.nodeOf (before.offset index + generator) == node) = [] := nobody
    simp only [Schedule.fixedConsumption, nobody, nobody']
    rfl
  simp only [Schedule.rowOf, rescaling.headOf, runs, bounds]

end Rescaling

theorem flatten_set {α : Type} (lists : List (List α)) {index : Nat}
    (index_lt : index < lists.length) (middle : List α) :
    (lists.set index middle).flatten =
      (lists.take index).flatten ++ middle ++ (lists.drop (index + 1)).flatten := by
  rw [List.set_eq_take_append_cons_drop, if_pos index_lt]
  simp

/-- A patch makes a row the row of the new schedule, whatever coefficients and level it
had for the plant before. -/
theorem applied_rowPatch {after other : Schedule K} {index : Nat} {plant : Plant K}
    {row : LinkRow} {middle : List (VarRef × K)}
    (found : ∃ head, after.linkHead row = .ok head)
    (heads : other.headOf row = after.headOf row)
    (run : (after.runs row)[index]? = some (after.plantTerms index plant row))
    (runs : other.runs row = (after.runs row).set index middle)
    (vars : (after.plantTerms index plant row).map Prod.fst = middle.map Prod.fst)
    (bounds : movesLevel plant row = false → other.linkBounds row = after.linkBounds row) :
    (after.rowPatch index plant (after.rowSpan index row) row).applied (other.rowOf row) =
      .ok (after.rowOf row) := by
  obtain ⟨index_lt, entry⟩ := List.getElem?_eq_some_iff.mp run
  let front := after.headOf row ++ ((after.runs row).take index).flatten
  let back := ((after.runs row).drop (index + 1)).flatten
  have lengths : (after.plantTerms index plant row).length = middle.length := by
    simpa using congrArg List.length vars
  have terms : (other.rowOf row).function.terms = front ++ middle ++ back := by
    simp [rowOf, LinearFunction.ofTerms, heads, runs, flatten_set _ index_lt, front, back]
  have terms' : (after.rowOf row).function.terms =
      front ++ after.plantTerms index plant row ++ back := by
    have unmoved : after.runs row =
        (after.runs row).set index (after.plantTerms index plant row) := by
      rw [← entry, List.set_getElem_self]
    simp only [rowOf, LinearFunction.ofTerms]
    rw [unmoved, flatten_set _ index_lt]
    simp [front, back]
  have positions : (after.rowSpan index row).positions =
      List.range' front.length middle.length := by
    simp [Span.positions, rowSpan, front, length_headOf found, entry, index_lt, lengths]
  have replaced := LinearFunction.setCoefficients_run _ _ _ _
    (after.plantTerms index plant row) terms vars
  unfold RowPatch.applied
  simp only [rowPatch]
  rw [positions, replaced, ← terms', Except.ok_bind]
  cases level : movesLevel plant row with
  | false =>
      rw [if_neg (by simp)]
      simp only [rowOf, bounds level]
      rfl
  | true =>
      rw [if_pos rfl]
      cases row with
      | balance instant node => rfl
      | zonal need instant zone => cases level
      | budget pollutant zone => cases level

omit [Scalar K] in
theorem patchRow_apply (patch : RowPatch K) (link : Link K) :
    patchRow patch link =
      match link.rows.get? patch.place.1 patch.place.2 with
      | none => ⟨link, [], .error (.outOfRange "linking row" patch.place.1 link.rows.rows)⟩
      | some item =>
          match patch.applied item with
          | .error error => ⟨link, [], .error error⟩
          | .ok new =>
              ⟨{ link with rows :=
                  link.rows.modify patch.place.1 patch.place.2 fun _ => new }, [], .ok ⟨⟩⟩ := by
  unfold patchRow
  rw [Change.current_bind]
  obtain ⟨⟨row, col⟩, span, values, level⟩ := patch
  dsimp only
  cases link.rows.get? row col with
  | none => rfl
  | some item =>
      dsimp only
      cases RowPatch.applied _ item <;> rfl

/-- The family in which some rows have been patched. -/
def partlyPatched (before after : Schedule K) (kind : LinkKind) (done : List LinkRow) :
    Link K where
  kind := kind
  rows := ⟨kind.familyName, before.linkCols kind,
    (before.linkRows kind).map fun row =>
      if row ∈ done then after.rowOf row else before.rowOf row⟩
  spans := before.spansOf kind

section

variable {before after : Schedule K} {index : Nat} {plant : Plant K} {scale : K}

/-- The patch of one row. -/
def patchOf (after : Schedule K) (index : Nat) (plant : Plant K) (row : LinkRow) :
    RowPatch K :=
  after.rowPatch index plant (after.rowSpan index row) row

theorem patchRow_partlyPatched (rescaling : Rescaling before after index plant scale)
    (heads : before.HasHeads) {kind : LinkKind} {row : LinkRow}
    (member : row ∈ before.linkRows kind) (done : List LinkRow) :
    patchRow (patchOf after index (plant.followed scale) row)
        (partlyPatched before after kind done) =
      ⟨partlyPatched before after kind (row :: done), [], .ok ⟨⟩⟩ := by
  have found : ∃ head, after.linkHead row = .ok head := by
    rw [rescaling.heads]
    exact heads kind row member
  have run : (after.runs row)[index]? =
      some (after.plantTerms index (plant.followed scale) row) := by
    have entry := rescaling.run_before row
    rw [rescaling.runs, List.getElem?_set_self (List.getElem?_eq_some_iff.mp entry).1]
  have place : (patchOf after index (plant.followed scale) row).place =
      before.rowPlace row := rescaling.sameLayout.shape.rowPlace row
  have item : (partlyPatched before after kind done).rows.get? (before.rowPlace row).1
      (before.rowPlace row).2 =
        some (if row ∈ done then after.rowOf row else before.rowOf row) := by
    have position : (before.linkRows kind)[(before.rowPlace row).1 * before.linkCols kind +
        (before.rowPlace row).2]? = some row := getElem?_linkRows.mpr ⟨member, rfl⟩
    unfold Family.get? partlyPatched
    rw [if_pos (rowPlace_lt member), List.getElem?_map, position]
    rfl
  have applied : (patchOf after index (plant.followed scale) row).applied
      (if row ∈ done then after.rowOf row else before.rowOf row) = .ok (after.rowOf row) := by
    by_cases already : row ∈ done
    · rw [if_pos already]
      refine applied_rowPatch found rfl run ?_ rfl fun _ => rfl
      have entry := (List.getElem?_eq_some_iff.mp run).2
      rw [← entry, List.set_getElem_self]
    · rw [if_neg already]
      refine applied_rowPatch found (rescaling.headOf row).symm run ?_ (rescaling.vars row)
        fun still => (rescaling.linkBounds still).symm
      have entry := (List.getElem?_eq_some_iff.mp (rescaling.run_before row)).2
      rw [rescaling.runs, List.set_set, ← entry, List.set_getElem_self]
  have written : (partlyPatched before after kind done).rows.modify (before.rowPlace row).1
      (before.rowPlace row).2 (fun _ => after.rowOf row) =
        (partlyPatched before after kind (row :: done)).rows := by
    unfold Family.modify partlyPatched
    rw [if_pos (rowPlace_lt member)]
    refine congrArg (Family.mk _ _) ((modify_map_linkRows member _ _).trans ?_)
    refine List.map_congr_left fun other _ => ?_
    by_cases same : other = row <;> simp [same]
  rw [patchRow_apply, place, item]
  dsimp only
  rw [applied]
  dsimp only
  rw [written]
  rfl

theorem patchOf_injective (rescaling : Rescaling before after index plant scale)
    {kind : LinkKind} {first second : LinkRow} (firstMember : first ∈ before.linkRows kind)
    (secondMember : second ∈ before.linkRows kind) {other : Plant K}
    (same : patchOf after index other first = patchOf after index other second) :
    first = second := by
  have places : before.rowPlace first = before.rowPlace second := by
    rw [← rescaling.sameLayout.shape.rowPlace, ← rescaling.sameLayout.shape.rowPlace]
    exact congrArg RowPatch.place same
  have there := getElem?_linkRows.mpr ⟨firstMember, rfl⟩
  have here := getElem?_linkRows.mpr ⟨secondMember, rfl⟩
  rw [show before.rowIndex kind first = before.rowIndex kind second by
    simp only [rowIndex, places], here] at there
  exact (Option.some.inj there).symm

theorem forAll_patchRow (rescaling : Rescaling before after index plant scale)
    (heads : before.HasHeads) {kind : LinkKind} {patches : List (RowPatch K)}
    (named : ∀ patch ∈ patches, ∃ row ∈ before.linkRows kind,
      patch = patchOf after index (plant.followed scale) row) (done : List LinkRow) :
    ∃ finished, Change.forAll patches patchRow (partlyPatched before after kind done) =
        ⟨partlyPatched before after kind finished, [], .ok ⟨⟩⟩ ∧
      (∀ row ∈ done, row ∈ finished) ∧
      ∀ row ∈ before.linkRows kind,
        patchOf after index (plant.followed scale) row ∈ patches → row ∈ finished := by
  induction patches generalizing done with
  | nil => exact ⟨done, rfl, fun _ member => member, fun _ _ member => by cases member⟩
  | cons patch rest induction =>
      obtain ⟨row, member, rfl⟩ := named patch (by simp)
      obtain ⟨finished, run, kept, reached⟩ :=
        induction (fun other later => named other (by simp [later])) (row :: done)
      refine ⟨finished, ?_, fun other before => kept other (by simp [before]), ?_⟩
      · rw [Change.forAll_cons,
          Change.bind_ok (patchRow_partlyPatched rescaling heads member done), run]
        rfl
      · intro other listed patched
        cases List.mem_cons.mp patched with
        | inl same =>
            exact kept other (by simp [patchOf_injective rescaling listed member same])
        | inr later => exact reached other listed later

theorem mem_linkPatches (rescaling : Rescaling before after index plant scale)
    {kind : LinkKind} {patch : RowPatch K} :
    patch ∈ after.linkPatches index (plant.followed scale) (before.linkOf kind) ↔
      ∃ row ∈ before.linkRows kind, (before.rowSpan index row).isEmpty = false ∧
        patch = patchOf after index (plant.followed scale) row := by
  have column := before.length_spansOf kind index
  simp only [linkPatches, List.mem_flatMap]
  constructor
  · rintro ⟨⟨span, key⟩, listed, patched⟩
    have at_key := List.mem_zipIdx_iff_getElem?.mp listed
    have key_lt : key < after.linkKeys kind := by
      have within := (List.getElem?_eq_some_iff.mp at_key).1
      rw [rescaling.sameLayout.shape.linkKeys]
      exact Nat.lt_of_lt_of_le within column
    dsimp only at patched
    split at patched
    · cases patched
    · rename_i occupied
      obtain ⟨row, keyed, rfl⟩ := List.mem_map.mp patched
      obtain ⟨member, rfl⟩ := (mem_keyRows key_lt).mp keyed
      rw [rescaling.sameLayout.shape.linkRows] at member
      have span_eq := getElem?_spansOf member rescaling.index_lt
      rw [← rescaling.sameLayout.shape.rowKey,
        show (before.spansOf kind).getD index [] = (before.linkOf kind).spans.getD index []
          from rfl, at_key] at span_eq
      have same : span = before.rowSpan index row := Option.some.inj span_eq
      subst same
      refine ⟨row, member, by simpa using occupied, ?_⟩
      rw [patchOf, rescaling.rowSpan]
  · rintro ⟨row, member, occupied, rfl⟩
    refine ⟨(before.rowSpan index row, before.rowKey row), ?_, ?_⟩
    · exact List.mem_zipIdx_iff_getElem?.mpr (getElem?_spansOf member rescaling.index_lt)
    · rw [if_neg (by simp [occupied])]
      refine List.mem_map.mpr ⟨row, ?_, by rw [patchOf, rescaling.rowSpan]⟩
      have key_lt : before.rowKey row < after.linkKeys kind := by
        rw [rescaling.sameLayout.shape.linkKeys]
        exact rowKey_lt member
      refine (mem_keyRows key_lt).mpr ⟨?_, rescaling.sameLayout.shape.rowKey row⟩
      rw [rescaling.sameLayout.shape.linkRows]
      exact member

/-- The patches of a family make it the family of the new scale. -/
theorem forAll_linkPatches (rescaling : Rescaling before after index plant scale)
    (heads : before.HasHeads)
    (occupied : 0 < plant.generators → 0 < before.horizon →
      plant.activePower.isEmpty = false) (kind : LinkKind) :
    Change.forAll (after.linkPatches index (plant.followed scale) (before.linkOf kind))
        patchRow (before.linkOf kind) =
      ⟨after.linkOf kind, [], .ok ⟨⟩⟩ := by
  have start : partlyPatched before after kind [] = before.linkOf kind := by
    simp [partlyPatched, linkOf]
  obtain ⟨finished, run, -, reached⟩ := forAll_patchRow rescaling heads
    (fun patch member => by
      obtain ⟨row, listed, _, equality⟩ := (mem_linkPatches rescaling).mp member
      exact ⟨row, listed, equality⟩) []
  rw [start] at run
  have rows : (before.linkRows kind).map (fun row =>
      if row ∈ finished then after.rowOf row else before.rowOf row) =
        (after.linkRows kind).map after.rowOf := by
    rw [rescaling.sameLayout.shape.linkRows]
    refine List.map_congr_left fun row member => ?_
    by_cases patched : row ∈ finished
    · rw [if_pos patched]
    · rw [if_neg patched]
      refine (rescaling.rowOf_of_isEmpty occupied member ?_).symm
      by_contra nonempty
      exact patched (reached row member
        ((mem_linkPatches rescaling).mpr ⟨row, member, by simpa using nonempty, rfl⟩))
  rw [run]
  simp only [partlyPatched, linkOf, rows, rescaling.spansOf, rescaling.sameLayout.shape.linkCols]

/-- Every family of the schedule becomes that of the new scale. -/
theorem patchPlant_apply (rescaling : Rescaling before after index plant scale)
    (heads : before.HasHeads)
    (occupied : 0 < plant.generators → 0 < before.horizon →
      plant.activePower.isEmpty = false)
    (generated : after.links = before.linksNow) :
    patchPlant index after = ⟨{ after with links := after.linksNow }, [], .ok ⟨⟩⟩ := by
  have found : after.plants[index]? = some (plant.followed scale) := by
    rw [rescaling.plants, List.getElem?_set_self rescaling.index_lt]
  have patched : Change.each (fun place => Change.forAll
        ((after.links.map (after.linkPatches index (plant.followed scale))).getD place [])
        patchRow) after.links =
      ⟨after.links.mapIdx fun _ link => after.linkOf link.kind, [], .ok ⟨⟩⟩ := by
    refine Change.each_ok _ fun place link listed => ?_
    have member : link ∈ before.linksNow := by
      rw [← generated]
      exact List.mem_of_getElem? listed
    obtain ⟨kind, -, rfl⟩ := List.mem_map.mp (List.mem_filter.mp member).1
    refine ⟨⟨⟩, ?_⟩
    rw [List.getD_eq_getElem?_getD, List.getElem?_map, listed]
    exact forAll_linkPatches rescaling heads occupied kind
  have links : (after.links.mapIdx fun _ link => after.linkOf link.kind) = after.linksNow := by
    have alike : (fun link : Link K => !link.rows.isEmpty) ∘ before.linkOf =
        (fun link : Link K => !link.rows.isEmpty) ∘ after.linkOf := by
      funext kind
      simp [linkOf, Family.isEmpty, rescaling.sameLayout.shape.linkRows]
    have mapped : (after.links.mapIdx fun _ link => after.linkOf link.kind) =
        after.links.map fun link => after.linkOf link.kind := by
      apply List.ext_getElem?
      intro place
      rw [List.getElem?_mapIdx, List.getElem?_map]
    rw [mapped, generated, linksNow, linksNow, List.filter_map, List.filter_map, List.map_map,
      alike]
    rfl
  unfold patchPlant
  rw [Change.current_bind, found]
  dsimp only
  rw [Change.onPart_apply, patched, links]

end

end Dispatch.Schedule
