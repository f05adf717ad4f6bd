import Dispatch.Proofs.Attempt.Places

namespace Dispatch

/-! Families whose term index points at terms that are there. The patches of a plant fit
such a family, so that none of them is ever refused. -/

variable {K : Type}

/-- Families with the same index, whose rows have terms over the same variables. -/
structure Link.SameFrame (before after : Link K) : Prop where
  kind : after.kind = before.kind
  cols : after.rows.cols = before.rows.cols
  vars : after.rows.items.map (fun row => row.function.terms.map Prod.fst) =
    before.rows.items.map fun row => row.function.terms.map Prod.fst
  spans : after.spans = before.spans

theorem Link.SameFrame.refl (link : Link K) : Link.SameFrame link link := ⟨rfl, rfl, rfl, rfl⟩

theorem Link.SameFrame.trans {first second third : Link K}
    (early : Link.SameFrame first second) (late : Link.SameFrame second third) :
    Link.SameFrame first third :=
  ⟨late.kind.trans early.kind, late.cols.trans early.cols, late.vars.trans early.vars,
    late.spans.trans early.spans⟩

theorem Link.SameFrame.symm {before after : Link K} (same : Link.SameFrame before after) :
    Link.SameFrame after before :=
  ⟨same.kind.symm, same.cols.symm, same.vars.symm, same.spans.symm⟩

/-- A row keeps its place and its variables. -/
theorem Link.SameFrame.get? {before after : Link K} (same : Link.SameFrame before after)
    {row col : Nat} {item : Row K} (found : before.rows.get? row col = some item) :
    ∃ other, after.rows.get? row col = some other ∧
      other.function.terms.map Prod.fst = item.function.terms.map Prod.fst := by
  unfold Family.get? at found ⊢
  rw [same.cols]
  split at found
  · rename_i col_lt
    rw [if_pos col_lt]
    have vars := congrArg (fun vars => vars[row * before.rows.cols + col]?) same.vars
    simp only [List.getElem?_map, found, Option.map_some] at vars
    exact Option.map_eq_some_iff.mp vars
  · cases found

/-- A row keeps its place and its size. -/
theorem Link.SameFrame.length {before after : Link K} (same : Link.SameFrame before after)
    {row col : Nat} {item : Row K} (found : before.rows.get? row col = some item) :
    ∃ other, after.rows.get? row col = some other ∧
      other.function.terms.length = item.function.terms.length := by
  obtain ⟨other, there, vars⟩ := same.get? found
  exact ⟨other, there, by simpa using congrArg List.length vars⟩

/-- Writing rows over the same variables. -/
theorem Link.SameFrame.modify (link : Link K) (row col : Nat) {change : Row K → Row K}
    (kept : ∀ item, link.rows.get? row col = some item →
      (change item).function.terms.map Prod.fst = item.function.terms.map Prod.fst) :
    Link.SameFrame link { link with rows := link.rows.modify row col change } := by
  refine ⟨rfl, ?_, ?_, rfl⟩
  · unfold Family.modify
    split <;> rfl
  · unfold Family.modify
    split
    · rename_i col_lt
      refine List.ext_getElem? fun index => ?_
      simp only [List.getElem?_map, List.getElem?_modify]
      cases found : link.rows.items[index]? with
      | none => rfl
      | some item =>
          simp only [Option.map_some, Option.map_eq_map]
          split
          · rename_i here
            rw [kept item (by rw [Family.get?, if_pos col_lt, here, found])]
          · rfl
    · rfl

namespace Schedule

variable [Scalar K]

/-- The index of a family has a column for every plant. Its runs are positions of terms in
every row of their key, and as many as the plant has there. -/
structure Fits (schedule : Schedule K) (link : Link K) : Prop where
  columns : link.spans.length = schedule.plants.length
  keys : ∀ index, (link.spans.getD index []).length ≤ schedule.linkKeys link.kind
  runs : ∀ (index : Nat) (plant : Plant K) (key : Nat) (span : Span),
    schedule.plants[index]? = some plant →
    (link.spans.getD index [])[key]? = some span →
    ∀ row ∈ schedule.keyRows link.kind key, ∃ item,
      link.rows.get? (schedule.rowPlace row).1 (schedule.rowPlace row).2 = some item ∧
        span.stop ≤ item.function.terms.length ∧
        span.stop - span.start = (schedule.plantTerms index plant row).length

variable {schedule : Schedule K}

omit [Scalar K] in
theorem length_spansFrom (start : Nat) (runs : List (List (VarRef × K))) :
    (spansFrom start runs).length = runs.length := by
  induction runs generalizing start with
  | nil => rfl
  | cons run rest induction => rw [spansFrom, List.length_cons, induction, List.length_cons]

theorem length_columns (schedule : Schedule K) (kind : LinkKind) :
    (schedule.spansOf kind).length = schedule.plants.length := by
  have kept (rows : List LinkRow) (spans : List (List Span))
      (length : spans.length = schedule.plants.length) :
      (rows.foldl schedule.enterSpans spans).length = schedule.plants.length := by
    induction rows generalizing spans with
    | nil => exact length
    | cons row rest induction =>
        refine induction _ ?_
        simp [enterSpans, length_spansFrom, runs, length]
  exact kept _ _ (by simp [emptySpans])

theorem fits_linkOf (heads : schedule.HasHeads) (kind : LinkKind) :
    schedule.Fits (schedule.linkOf kind) where
  columns := schedule.length_columns kind
  keys index := schedule.length_spansOf kind index
  runs index plant key span found entry row keyed := by
    have key_lt : key < schedule.linkKeys kind :=
      Nat.lt_of_lt_of_le (List.getElem?_eq_some_iff.mp entry).1
        (schedule.length_spansOf kind index)
    obtain ⟨member, rfl⟩ := (mem_keyRows key_lt).mp keyed
    have index_lt := (List.getElem?_eq_some_iff.mp found).1
    have same := (getElem?_spansOf member index_lt).symm.trans entry
    cases same
    have run : (schedule.runs row)[index]? = some (schedule.plantTerms index plant row) := by
      simp [runs, found]
    have length : ((schedule.runs row).getD index []).length =
        (schedule.plantTerms index plant row).length := by
      simp [List.getD_eq_getElem?_getD, run]
    refine ⟨schedule.rowOf row, get?_linkOf member, ?_, ?_⟩
    · have parts : (schedule.runs row).flatten =
          ((schedule.runs row).take index).flatten ++ schedule.plantTerms index plant row ++
            ((schedule.runs row).drop (index + 1)).flatten := by
        rw [← List.flatten_concat, ← List.flatten_append]
        have taken := List.take_append_drop (index + 1) (schedule.runs row)
        rw [List.take_add_one, run] at taken
        exact congrArg List.flatten taken.symm
      unfold rowSpan rowOf
      simp only [LinearFunction.ofTerms, List.length_append, parts,
        length_headOf (heads kind row member), length]
      omega
    · unfold rowSpan
      dsimp only
      rw [length]
      omega

structure SameFrame (before after : Schedule K) : Prop where
  layout : SameLayout after before
  plants : List.Forall₂ Plant.SameFrame before.plants after.plants

theorem Fits.congr {before after : Schedule K} {link other : Link K}
    (fits : before.Fits link) (same : SameFrame before after)
    (kept : Link.SameFrame link other) : after.Fits other where
  columns := by rw [kept.spans, fits.columns, same.plants.length_eq]
  keys index := by
    rw [kept.spans, kept.kind, same.layout.shape.linkKeys]
    exact fits.keys index
  runs index plant key span found entry row keyed := by
    obtain ⟨earlier, present, frame⟩ := Change.getElem?_of_forall₂ same.plants found
    rw [kept.spans] at entry
    rw [kept.kind, same.layout.shape.keyRows] at keyed
    obtain ⟨item, there, stop_le, size⟩ :=
      fits.runs index earlier key span present entry row keyed
    obtain ⟨moved, here, terms⟩ := kept.length there
    refine ⟨moved, ?_, ?_, ?_⟩
    · rw [same.layout.shape.rowPlace]
      exact here
    · rw [terms]
      exact stop_le
    · rw [size, same.layout.plantTerms, length_plantTerms _ _ frame]

theorem rowPatch?_eq (filled : schedule.Filled) (placed : schedule.Placed) {index : Nat}
    {plant : Plant K} (found : schedule.plants[index]? = some plant) {kind : LinkKind}
    {row : LinkRow} (member : row ∈ schedule.linkRows kind) (span : Span) :
    schedule.rowPatch? index plant span row =
      some (schedule.rowPatch index plant span row) := by
  have level : schedule.rowLevel? row = some (schedule.rowLevel row) := by
    cases row with
    | balance instant node =>
        have instant_lt : instant < schedule.horizon := by
          cases kind with
          | balance =>
              obtain ⟨_, instant_lt, _, _, same⟩ := Family.mem_table.mp member
              cases same
              exact instant_lt
          | zonal need =>
              obtain ⟨_, _, _, _, same⟩ := Family.mem_table.mp member
              cases same
          | budget =>
              obtain ⟨_, _, same⟩ := List.mem_map.mp member
              cases same
        exact balanceLevel?_eq filled placed instant_lt node
    | zonal need instant zone => rfl
    | budget pollutant zone => rfl
  unfold rowPatch? rowPatch
  rw [plantTerms?_eq filled placed found member, level]
  split <;> rfl

theorem linkPatches?_eq (filled : schedule.Filled) (placed : schedule.Placed) {index : Nat}
    {plant : Plant K} (found : schedule.plants[index]? = some plant) {link : Link K}
    (fits : schedule.Fits link) :
    schedule.linkPatches? index plant link =
      some (schedule.linkPatches index plant link) := by
  have index_lt := (List.getElem?_eq_some_iff.mp found).1
  have column := Lookup.getElem?_eq_getD (fits.columns ▸ index_lt) []
  have patches : (link.spans.getD index []).zipIdx.mapM
        (fun entry =>
          if entry.1.isEmpty then some []
          else (schedule.keyRows link.kind entry.2).mapM
            (schedule.rowPatch? index plant entry.1)) =
      some ((link.spans.getD index []).zipIdx.map fun entry =>
        if entry.1.isEmpty then []
        else (schedule.keyRows link.kind entry.2).map
          (schedule.rowPatch index plant entry.1)) := by
    refine Lookup.mapM_eq_some fun entry listed => ?_
    split
    · rfl
    · refine Lookup.mapM_eq_some fun row keyed => ?_
      have key_lt := (List.getElem?_eq_some_iff.mp (List.mk_mem_zipIdx_iff_getElem?.mp listed)).1
      have member := (mem_keyRows (Nat.lt_of_lt_of_le key_lt (fits.keys index))).mp keyed
      exact rowPatch?_eq filled placed found member.1 entry.1
  unfold linkPatches? linkPatches
  simp only [column, Option.bind_eq_bind, Option.bind_some, patches]
  rw [List.flatMap_def]
  rfl

theorem completes_patchPlant (filled : schedule.Filled) (placed : schedule.Placed)
    (fits : ∀ link ∈ schedule.links, schedule.Fits link) {index : Nat} {plant : Plant K}
    (found : schedule.plants[index]? = some plant) :
    Attempt.Completes (patchPlant? index) (patchPlant index) schedule := by
  apply Attempt.Completes.current
  apply Attempt.Completes.look found
  rw [found]
  apply Attempt.Completes.look (Lookup.mapM_eq_some fun link member =>
    linkPatches?_eq filled placed found (fits link member))
  exact Attempt.Completes.lift _ schedule

omit [Scalar K] in
theorem vars_applied {patch : RowPatch K} {row result : Row K}
    (applied : patch.applied row = .ok result) :
    result.function.terms.map Prod.fst = row.function.terms.map Prod.fst := by
  obtain ⟨function, patched, rest⟩ := Except.bind_eq_ok.mp applied
  rw [← LinearFunction.vars_setCoefficients patched]
  dsimp only at rest
  cases level : patch.level with
  | none =>
      rw [level] at rest
      cases rest
      rfl
  | some value =>
      rw [level] at rest
      cases rest
      rfl

omit [Scalar K] in
theorem sameFrame_patchRow (patch : RowPatch K) (link : Link K) :
    Link.SameFrame link (patchRow patch link).state := by
  rw [patchRow_apply]
  split
  · exact Link.SameFrame.refl link
  · rename_i item found
    split
    · exact Link.SameFrame.refl link
    · rename_i new applied
      refine Link.SameFrame.modify link _ _ fun other present => ?_
      cases found.symm.trans present
      exact vars_applied applied

/-- The family has the row of the patch, with the terms that it writes. -/
def RowPatch.Fits (patch : RowPatch K) (link : Link K) : Prop :=
  ∃ item, link.rows.get? patch.place.1 patch.place.2 = some item ∧
    patch.span.stop ≤ item.function.terms.length ∧
    patch.values.length = patch.span.stop - patch.span.start

omit [Scalar K] in
theorem RowPatch.Fits.congr {patch : RowPatch K} {link other : Link K}
    (fits : patch.Fits link) (kept : Link.SameFrame link other) : patch.Fits other := by
  obtain ⟨item, found, stop_le, size⟩ := fits
  obtain ⟨moved, here, terms⟩ := kept.length found
  exact ⟨moved, here, terms ▸ stop_le, size⟩

omit [Scalar K] in
theorem RowPatch.Fits.accepted {patch : RowPatch K} {link : Link K} (fits : patch.Fits link) :
    ∃ result, patchRow patch link = ⟨result, [], .ok ⟨⟩⟩ := by
  obtain ⟨item, found, stop_le, size⟩ := fits
  have patched := LinearFunction.setCoefficients_ok
    (show patch.values.length = patch.span.positions.length by
      rw [size, Span.positions, List.length_range'])
    (fun position member => by
      have within := List.mem_range'_1.mp member
      omega : ∀ position ∈ patch.span.positions, position < item.function.terms.length)
  have applied : ∃ new, patch.applied item = .ok new := by
    unfold RowPatch.applied
    rw [patched]
    cases patch.level with
    | none => exact ⟨_, rfl⟩
    | some level => exact ⟨_, rfl⟩
  obtain ⟨new, written⟩ := applied
  rw [patchRow_apply, found]
  dsimp only
  rw [written]
  exact ⟨_, rfl⟩

omit [Scalar K] in
theorem forAll_patchRow_accepted {patches : List (RowPatch K)} {link : Link K}
    (fits : ∀ patch ∈ patches, patch.Fits link) :
    ∃ result, Change.forAll patches patchRow link = ⟨result, [], .ok ⟨⟩⟩ := by
  have succeeds (patch : RowPatch K) (member : patch ∈ patches) (current : Link K)
      (kept : Link.SameFrame link current) : ∃ after answer,
        patchRow patch current = ⟨after, [], .ok answer⟩ ∧ Link.SameFrame link after := by
    obtain ⟨after, accepted⟩ := ((fits patch member).congr kept).accepted
    have next := sameFrame_patchRow patch current
    rw [accepted] at next
    exact ⟨after, ⟨⟩, accepted, kept.trans next⟩
  obtain ⟨result, accepted, -⟩ :=
    Change.forAll_accepted (Link.SameFrame link) succeeds (Link.SameFrame.refl link)
  exact ⟨result, accepted⟩

theorem fits_linkPatches {link : Link K} (fits : schedule.Fits link) {index : Nat}
    {plant : Plant K} (found : schedule.plants[index]? = some plant) {patch : RowPatch K}
    (listed : patch ∈ schedule.linkPatches index plant link) : patch.Fits link := by
  obtain ⟨entry, member, patched⟩ := List.mem_flatMap.mp listed
  split at patched
  · cases patched
  · obtain ⟨row, keyed, rfl⟩ := List.mem_map.mp patched
    obtain ⟨item, there, stop_le, size⟩ := fits.runs index plant entry.2 entry.1 found
      (List.mk_mem_zipIdx_iff_getElem?.mp member) row keyed
    exact ⟨item, there, stop_le, by simpa [rowPatch] using size.symm⟩

/-- Patching a plant writes its terms and nothing else. -/
theorem sameFrame_patchPlant (index : Nat) (schedule : Schedule K) :
    ∃ links, (patchPlant index schedule).state = schedule.withLinks links ∧
      List.Forall₂ Link.SameFrame schedule.links links := by
  unfold patchPlant
  rw [Change.current_bind]
  cases schedule.plants[index]? with
  | none => exact ⟨schedule.links, rfl, List.forall₂_same.mpr fun link _ => .refl link⟩
  | some plant =>
      refine ⟨_, rfl, Change.each_forall₂ Link.SameFrame.refl (fun place link => ?_) _⟩
      exact Change.forAll_related patchRow Link.SameFrame Link.SameFrame.refl
        (fun _ _ _ => Link.SameFrame.trans) sameFrame_patchRow _ link

theorem patchPlant_accepted (fits : ∀ link ∈ schedule.links, schedule.Fits link)
    (index : Nat) :
    ∃ after, patchPlant index schedule = ⟨after, [], .ok ⟨⟩⟩ := by
  unfold patchPlant
  rw [Change.current_bind]
  cases found : schedule.plants[index]? with
  | none => exact ⟨schedule, rfl⟩
  | some plant =>
      let patches := schedule.links.map (schedule.linkPatches index plant)
      let patch (place : Nat) : Change (Link K) PUnit :=
        Change.forAll (patches.getD place []) patchRow
      have each : Change.each patch schedule.links =
          ⟨schedule.links.mapIdx fun place link => (patch place link).state, [], .ok ⟨⟩⟩ := by
        refine Change.each_ok _ fun place link present => ?_
        have listed : patches.getD place [] = schedule.linkPatches index plant link := by
          simp [patches, List.getD_eq_getElem?_getD, present]
        obtain ⟨result, accepted⟩ := forAll_patchRow_accepted fun patch member =>
          fits_linkPatches (fits link (List.mem_of_getElem? present)) found member
        refine ⟨PUnit.unit, ?_⟩
        dsimp only [patch]
        rw [listed, accepted]
      dsimp only
      rw [Change.onPart_apply, each]
      exact ⟨_, rfl⟩

end Schedule

end Dispatch
