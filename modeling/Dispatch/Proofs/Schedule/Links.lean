import Dispatch.Proofs.Except
import Dispatch.Proofs.Schedule.Terms

namespace Dispatch.Schedule

/-! The linking families as functions of the schedule, and the term index that goes with
them. -/

variable {K : Type} [Scalar K]

/-- Every row finds the injection variable it starts with. -/
def HasHeads (schedule : Schedule K) : Prop :=
  ∀ kind, ∀ row ∈ schedule.linkRows kind, ∃ head, schedule.linkHead row = .ok head

def headOf (schedule : Schedule K) (row : LinkRow) : List (VarRef × K) :=
  match schedule.linkHead row with
  | .ok head => head
  | .error _ => []

def rowOf (schedule : Schedule K) (row : LinkRow) : Row K :=
  ⟨.ofTerms (schedule.headOf row ++ (schedule.runs row).flatten),
    (schedule.linkBounds row).1, (schedule.linkBounds row).2⟩

def spansOf (schedule : Schedule K) (kind : LinkKind) : List (List Span) :=
  (schedule.linkRows kind).foldl schedule.enterSpans (schedule.emptySpans kind)

def linkOf (schedule : Schedule K) (kind : LinkKind) : Link K where
  kind := kind
  rows := ⟨kind.familyName, schedule.linkCols kind,
    (schedule.linkRows kind).map schedule.rowOf⟩
  spans := schedule.spansOf kind

theorem linkRow_ok {schedule : Schedule K} {row : LinkRow} {item : Row K} :
    schedule.linkRow row = .ok item ↔
      (∃ head, schedule.linkHead row = .ok head) ∧ item = schedule.rowOf row := by
  unfold linkRow rowOf headOf
  cases schedule.linkHead row with
  | error error => simp
  | ok head => simp [eq_comm]

theorem length_headOf {schedule : Schedule K} {row : LinkRow}
    (found : ∃ head, schedule.linkHead row = .ok head) :
    (schedule.headOf row).length = schedule.headLength row := by
  obtain ⟨head, found⟩ := found
  rw [headOf, found]
  cases row with
  | balance instant node =>
      simp only [linkHead] at found
      split at found
      · rename_i bus
        cases found
        simp [headLength, bus]
      · rename_i several
        split at found
        · cases found
          simp [headLength, several]
        · cases found
  | zonal need instant zone =>
      cases found
      rfl
  | budget pollutant zone =>
      cases found
      rfl

theorem link_ok {schedule : Schedule K} {kind : LinkKind} {link : Link K} :
    schedule.link kind = .ok link ↔
      (∀ row ∈ schedule.linkRows kind, ∃ head, schedule.linkHead row = .ok head) ∧
        link = schedule.linkOf kind := by
  unfold Schedule.link
  rw [Except.bind_eq_ok]
  constructor
  · rintro ⟨items, built, equality⟩
    obtain ⟨heads, rfl⟩ := (Except.mapM_eq_ok fun _ _ => linkRow_ok).mp built
    cases equality
    exact ⟨heads, rfl⟩
  · rintro ⟨heads, rfl⟩
    exact ⟨_, (Except.mapM_eq_ok fun _ _ => linkRow_ok).mpr ⟨heads, rfl⟩, rfl⟩

/-- The row stands at its place. -/
theorem get?_linkOf {schedule : Schedule K} {kind : LinkKind} {row : LinkRow}
    (member : row ∈ schedule.linkRows kind) :
    (schedule.linkOf kind).rows.get? (schedule.rowPlace row).1 (schedule.rowPlace row).2 =
      some (schedule.rowOf row) := by
  have position : (schedule.linkRows kind)[(schedule.rowPlace row).1 *
      schedule.linkCols kind + (schedule.rowPlace row).2]? = some row :=
    getElem?_linkRows.mpr ⟨member, rfl⟩
  unfold Family.get? linkOf
  rw [if_pos (rowPlace_lt member), List.getElem?_map, position]
  rfl

theorem mem_all (kind : LinkKind) : kind ∈ LinkKind.all := by
  cases kind with
  | balance => simp [LinkKind.all]
  | zonal need => cases need <;> simp [LinkKind.all]
  | budget => simp [LinkKind.all]

def linksNow (schedule : Schedule K) : List (Link K) :=
  (LinkKind.all.map schedule.linkOf).filter fun link => !link.rows.isEmpty

/-- The families that have rows, when every row finds its head. -/
theorem linksOf_ok {schedule : Schedule K} {links : List (Link K)} :
    schedule.linksOf = .ok links ↔
      schedule.HasHeads ∧ links = schedule.linksNow := by
  unfold linksOf
  rw [Except.bind_eq_ok]
  constructor
  · rintro ⟨built, mapped, equality⟩
    obtain ⟨heads, rfl⟩ := (Except.mapM_eq_ok fun _ _ => link_ok).mp mapped
    cases equality
    exact ⟨fun kind => heads kind (mem_all kind), rfl⟩
  · rintro ⟨heads, rfl⟩
    exact ⟨_, (Except.mapM_eq_ok fun _ _ => link_ok).mpr ⟨fun kind _ => heads kind, rfl⟩, rfl⟩

omit [Scalar K] in
theorem getElem?_spansFrom (start : Nat) (runs : List (List (VarRef × K))) (index : Nat) :
    (spansFrom start runs)[index]? = runs[index]?.map fun run =>
      ⟨start + ((runs.take index).flatten).length,
        start + ((runs.take index).flatten).length + run.length⟩ := by
  induction runs generalizing start index with
  | nil => rfl
  | cons run rest induction =>
      cases index with
      | zero => simp [spansFrom]
      | succ index =>
          simp only [spansFrom, List.getElem?_cons_succ, induction, List.take_succ_cons,
            List.flatten_cons, List.length_append, Nat.add_assoc]

/-- Where the terms of a plant stand in a row. -/
def rowSpan (schedule : Schedule K) (index : Nat) (row : LinkRow) : Span :=
  let start := schedule.headLength row +
    (((schedule.runs row).take index).flatten).length
  ⟨start, start + ((schedule.runs row).getD index []).length⟩

theorem getElem?_rowSpan {schedule : Schedule K} {index : Nat} (row : LinkRow)
    (index_lt : index < schedule.plants.length) :
    (spansFrom (schedule.headLength row) (schedule.runs row))[index]? =
      some (schedule.rowSpan index row) := by
  have run_lt : index < (schedule.runs row).length := by simpa [runs] using index_lt
  simp [getElem?_spansFrom, rowSpan, run_lt]

/-- Writes by key, where equal keys get equal values. -/
private theorem getElem?_foldl_set {ι α : Type} {key : ι → Nat} {value : ι → α}
    {items : List ι} {item : ι} (column : List α)
    (agree : ∀ other ∈ items, key other = key item → value other = value item)
    (written : item ∈ items ∨ column[key item]? = some (value item))
    (within : key item < column.length) :
    (items.foldl (fun column item => column.set (key item) (value item)) column)[key item]? =
      some (value item) := by
  induction items generalizing column with
  | nil => simpa using written
  | cons head rest induction =>
      rw [List.foldl_cons]
      refine induction _ (fun other member => agree other (by simp [member])) ?_
        (by simpa using within)
      by_cases here : key head = key item
      · right
        rw [here, List.getElem?_set_self within, agree head (by simp) here]
      · rw [List.getElem?_set_ne here]
        cases written with
        | inl member =>
            cases List.mem_cons.mp member with
            | inl same => exact absurd (congrArg key same.symm) here
            | inr later => exact .inl later
        | inr before => exact .inr before

theorem getElem?_enterSpans (schedule : Schedule K) {index : Nat}
    (index_lt : index < schedule.plants.length) (spans : List (List Span)) (row : LinkRow) :
    (schedule.enterSpans spans row)[index]? = spans[index]?.map fun column =>
      column.set (schedule.rowKey row) (schedule.rowSpan index row) := by
  rw [enterSpans, List.getElem?_map, List.zip, List.getElem?_zipWith,
    getElem?_rowSpan row index_lt]
  cases spans[index]? <;> rfl

private theorem getElem?_foldl_enterSpans (schedule : Schedule K) {index : Nat}
    (index_lt : index < schedule.plants.length) (rows : List LinkRow)
    (spans : List (List Span)) :
    (rows.foldl schedule.enterSpans spans)[index]? = spans[index]?.map fun column =>
      rows.foldl (fun column row =>
        column.set (schedule.rowKey row) (schedule.rowSpan index row)) column := by
  induction rows generalizing spans with
  | nil => simp
  | cons row rest induction =>
      rw [List.foldl_cons, induction, getElem?_enterSpans schedule index_lt, Option.map_map]
      rfl

/-- Rows of one key have their runs at the same positions. -/
theorem rowSpan_of_rowKey {schedule : Schedule K} {kind : LinkKind}
    {first second : LinkRow} (firstMember : first ∈ schedule.linkRows kind)
    (secondMember : second ∈ schedule.linkRows kind)
    (keys : schedule.rowKey first = schedule.rowKey second) (index : Nat) :
    schedule.rowSpan index first = schedule.rowSpan index second := by
  have heads : schedule.headLength first = schedule.headLength second := by
    cases kind with
    | balance =>
        obtain ⟨_, _, _, _, rfl⟩ := Family.mem_table.mp firstMember
        obtain ⟨_, _, _, _, rfl⟩ := Family.mem_table.mp secondMember
        rfl
    | zonal need =>
        obtain ⟨_, _, _, _, rfl⟩ := Family.mem_table.mp firstMember
        obtain ⟨_, _, _, _, rfl⟩ := Family.mem_table.mp secondMember
        rfl
    | budget =>
        obtain ⟨_, _, rfl⟩ := List.mem_map.mp firstMember
        obtain ⟨_, _, rfl⟩ := List.mem_map.mp secondMember
        rfl
  have runs : (schedule.runs first).map List.length =
      (schedule.runs second).map List.length := by
    apply List.ext_getElem?
    intro plant
    simp only [Schedule.runs, List.getElem?_map, List.getElem?_mapIdx]
    cases schedule.plants[plant]? with
    | none => rfl
    | some found =>
        exact congrArg some
          (length_plantTerms_of_rowKey firstMember secondMember keys plant found)
  have before : ((schedule.runs first).take index).flatten.length =
      ((schedule.runs second).take index).flatten.length := by
    rw [List.length_flatten, List.length_flatten, List.map_take, List.map_take, runs]
  have length : ((schedule.runs first).getD index []).length =
      ((schedule.runs second).getD index []).length := by
    have entry := congrArg (fun lengths : List Nat => lengths[index]?.getD 0) runs
    simp only [List.getElem?_map] at entry
    rw [List.getD_eq_getElem?_getD, List.getD_eq_getElem?_getD]
    cases first' : (schedule.runs first)[index]? <;>
      cases second' : (schedule.runs second)[index]? <;> simp_all
  simp only [rowSpan, heads, before, length]

/-- The index holds the positions of a plant's terms in any row of a key. -/
theorem getElem?_spansOf {schedule : Schedule K} {kind : LinkKind} {row : LinkRow}
    {index : Nat} (member : row ∈ schedule.linkRows kind)
    (index_lt : index < schedule.plants.length) :
    ((schedule.spansOf kind).getD index [])[schedule.rowKey row]? =
      some (schedule.rowSpan index row) := by
  have start : (schedule.emptySpans kind)[index]? =
      some (List.replicate (schedule.linkKeys kind) ⟨0, 0⟩) := by
    simp [emptySpans, index_lt]
  rw [List.getD_eq_getElem?_getD, spansOf, getElem?_foldl_enterSpans schedule index_lt, start]
  simp only [Option.map_some, Option.getD_some]
  exact getElem?_foldl_set _
    (fun other listed keys => rowSpan_of_rowKey listed member keys index) (.inl member)
    (by simpa using rowKey_lt member)

/-- The index knows no keys but those of the kind. -/
theorem length_spansOf (schedule : Schedule K) (kind : LinkKind) (index : Nat) :
    ((schedule.spansOf kind).getD index []).length ≤ schedule.linkKeys kind := by
  by_cases index_lt : index < schedule.plants.length
  · have start : (schedule.emptySpans kind)[index]? =
        some (List.replicate (schedule.linkKeys kind) ⟨0, 0⟩) := by
      simp [emptySpans, index_lt]
    have kept (rows : List LinkRow) (column : List Span) :
        (rows.foldl (fun column row =>
          column.set (schedule.rowKey row) (schedule.rowSpan index row)) column).length =
        column.length := by
      induction rows generalizing column with
      | nil => rfl
      | cons row rest induction => rw [List.foldl_cons, induction, List.length_set]
    rw [List.getD_eq_getElem?_getD, spansOf, getElem?_foldl_enterSpans schedule index_lt,
      start]
    simp [kept]
  · have kept (rows : List LinkRow) (spans : List (List Span))
        (short : spans.length ≤ schedule.plants.length) :
        (rows.foldl schedule.enterSpans spans).length ≤ schedule.plants.length := by
      induction rows generalizing spans with
      | nil => exact short
      | cons row rest induction =>
          refine induction _ (Nat.le_trans ?_ short)
          simp only [enterSpans, List.length_map, List.length_zip]
          exact Nat.min_le_left _ _
    have beyond : (schedule.spansOf kind)[index]? = none := by
      rw [List.getElem?_eq_none_iff]
      have short := kept (schedule.linkRows kind) (schedule.emptySpans kind)
        (by simp [emptySpans])
      exact Nat.le_trans short (Nat.le_of_not_lt index_lt)
    simp [List.getD_eq_getElem?_getD, beyond]

omit [Scalar K] in
theorem spansFrom_congr {M : Type} {first : List (List (VarRef × K))}
    {second : List (List (VarRef × M))}
    (lengths : first.map List.length = second.map List.length) (start : Nat) :
    spansFrom start first = spansFrom start second := by
  induction first generalizing second start with
  | nil =>
      have empty : second = [] := by simpa using lengths.symm
      rw [empty]
      rfl
  | cons run rest induction =>
      cases second with
      | nil => cases lengths
      | cons other others =>
          simp only [List.map_cons, List.cons.injEq] at lengths
          simp only [spansFrom, lengths.1, induction lengths.2]

end Dispatch.Schedule
