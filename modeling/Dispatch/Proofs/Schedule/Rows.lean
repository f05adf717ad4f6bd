import Dispatch.Proofs.Table
import Dispatch.Schedule.Linking

namespace Dispatch.Schedule

/-! Linking rows are found by their place: the place of a row is the one position where it
stands, and the rows of a key are those that a plant's positions are recorded for. -/

variable {K : Type}

def zonesFrom (counts : List Nat) (start : Nat) : List (Nat × Nat) :=
  (counts.zipIdx start).flatMap fun entry =>
    (List.range entry.1).map fun zone => (entry.2, zone)

theorem zonesFrom_cons (count : Nat) (rest : List Nat) (start : Nat) :
    zonesFrom (count :: rest) start =
      (List.range count).map (fun zone => (start, zone)) ++ zonesFrom rest (start + 1) := by
  simp [zonesFrom, List.zipIdx_cons]

theorem length_zonesFrom (counts : List Nat) (start : Nat) :
    (zonesFrom counts start).length = counts.foldr (· + ·) 0 := by
  induction counts generalizing start with
  | nil => rfl
  | cons count rest induction => simp [zonesFrom_cons, induction]

theorem getElem?_zonesFrom (counts : List Nat) (start key : Nat) :
    (zonesFrom counts start)[key]? = zoneOfKey? counts start key := by
  induction counts generalizing start key with
  | nil => rfl
  | cons count rest induction =>
      rw [zonesFrom_cons, zoneOfKey?, List.getElem?_append]
      by_cases within : key < count
      · simp [within]
      · rw [if_neg (by simpa using within), if_neg within, ← induction]
        simp

theorem zoneOfKey?_sound {counts : List Nat} {start key pollutant zone : Nat}
    (found : zoneOfKey? counts start key = some (pollutant, zone)) :
    start ≤ pollutant ∧ zone < counts.getD (pollutant - start) 0 ∧
      (counts.take (pollutant - start)).foldr (· + ·) 0 + zone = key := by
  induction counts generalizing start key with
  | nil => cases found
  | cons count rest induction =>
      rw [zoneOfKey?] at found
      split at found
      · rename_i within
        cases found
        simp [within]
      · rename_i beyond
        obtain ⟨later, zone_lt, sum⟩ := induction found
        have position : pollutant - start = (pollutant - (start + 1)) + 1 := by omega
        rw [position, List.take_succ_cons, List.foldr_cons, List.getD_cons_succ]
        exact ⟨by omega, zone_lt, by omega⟩

theorem pollutantZones_eq (emissions : Emissions K) :
    pollutantZones emissions = zonesFrom emissions.zoneCounts 0 := rfl

theorem length_pollutantZones (emissions : Emissions K) :
    (pollutantZones emissions).length = emissions.totalZones :=
  length_zonesFrom emissions.zoneCounts 0

/-- The running number of a zone is its place among all zones. -/
theorem getElem?_pollutantZones {emissions : Emissions K} {key pollutant zone : Nat} :
    (pollutantZones emissions)[key]? = some (pollutant, zone) ↔
      (pollutant, zone) ∈ pollutantZones emissions ∧
        emissions.offset pollutant + zone = key := by
  have sound {key : Nat} (found : (pollutantZones emissions)[key]? = some (pollutant, zone)) :
      emissions.offset pollutant + zone = key := by
    rw [pollutantZones_eq, getElem?_zonesFrom] at found
    exact (zoneOfKey?_sound found).2.2
  constructor
  · intro found
    exact ⟨List.mem_of_getElem? found, sound found⟩
  · rintro ⟨member, place⟩
    obtain ⟨other, found⟩ := List.mem_iff_getElem?.mp member
    rw [← place, sound found, found]

variable {schedule : Schedule K} {kind : LinkKind} {row : LinkRow}

def rowIndex (schedule : Schedule K) (kind : LinkKind) (row : LinkRow) : Nat :=
  (schedule.rowPlace row).1 * schedule.linkCols kind + (schedule.rowPlace row).2

theorem getElem?_linkRows {index : Nat} :
    (schedule.linkRows kind)[index]? = some row ↔
      row ∈ schedule.linkRows kind ∧ schedule.rowIndex kind row = index := by
  cases kind with
  | balance => exact Family.getElem?_table_iff schedule.rowPlace fun _ _ => rfl
  | zonal need => exact Family.getElem?_table_iff schedule.rowPlace fun _ _ => rfl
  | budget =>
      simp only [linkRows, List.getElem?_map, Option.map_eq_some_iff, List.mem_map]
      constructor
      · rintro ⟨⟨pollutant, zone⟩, found, rfl⟩
        obtain ⟨member, place⟩ := getElem?_pollutantZones.mp found
        refine ⟨⟨(pollutant, zone), member, rfl⟩, ?_⟩
        simpa [rowIndex, rowPlace, rowKey, linkCols] using place
      · rintro ⟨⟨⟨pollutant, zone⟩, member, rfl⟩, place⟩
        refine ⟨(pollutant, zone), getElem?_pollutantZones.mpr ⟨member, ?_⟩, rfl⟩
        simpa [rowIndex, rowPlace, rowKey, linkCols] using place

theorem mem_balanceRows {instant node : Nat} :
    .balance instant node ∈ schedule.linkRows .balance ↔
      instant < schedule.horizon ∧ node < schedule.nodes := by
  constructor
  · intro member
    obtain ⟨_, instant_lt, _, node_lt, same⟩ := Family.mem_table.mp member
    cases same
    exact ⟨instant_lt, node_lt⟩
  · rintro ⟨instant_lt, node_lt⟩
    exact Family.mem_table.mpr ⟨instant, instant_lt, node, node_lt, rfl⟩

theorem rowPlace_lt (member : row ∈ schedule.linkRows kind) :
    (schedule.rowPlace row).2 < schedule.linkCols kind := by
  cases kind with
  | balance =>
      obtain ⟨_, _, _, col_lt, rfl⟩ := Family.mem_table.mp member
      exact col_lt
  | zonal need =>
      obtain ⟨_, _, _, col_lt, rfl⟩ := Family.mem_table.mp member
      exact col_lt
  | budget =>
      obtain ⟨_, _, rfl⟩ := List.mem_map.mp member
      exact Nat.zero_lt_one

theorem rowKey_lt (member : row ∈ schedule.linkRows kind) :
    schedule.rowKey row < schedule.linkKeys kind := by
  cases kind with
  | balance =>
      obtain ⟨_, _, _, col_lt, rfl⟩ := Family.mem_table.mp member
      exact col_lt
  | zonal need =>
      obtain ⟨_, _, _, col_lt, rfl⟩ := Family.mem_table.mp member
      exact col_lt
  | budget =>
      obtain ⟨⟨pollutant, zone⟩, listed, rfl⟩ := List.mem_map.mp member
      have found := getElem?_pollutantZones.mpr ⟨listed, rfl⟩
      have within := (List.getElem?_eq_some_iff.mp found).1
      rw [length_pollutantZones] at within
      exact within

theorem mem_keyRows {key : Nat} (key_lt : key < schedule.linkKeys kind) :
    row ∈ schedule.keyRows kind key ↔
      row ∈ schedule.linkRows kind ∧ schedule.rowKey row = key := by
  cases kind with
  | balance =>
      simp only [keyRows, List.mem_map, List.mem_range, linkRows, Family.mem_table]
      constructor
      · rintro ⟨instant, instant_lt, rfl⟩
        exact ⟨⟨instant, instant_lt, key, key_lt, rfl⟩, rfl⟩
      · rintro ⟨⟨instant, instant_lt, node, _, rfl⟩, rfl⟩
        exact ⟨instant, instant_lt, rfl⟩
  | zonal need =>
      simp only [keyRows, List.mem_map, List.mem_range, linkRows, Family.mem_table]
      constructor
      · rintro ⟨instant, instant_lt, rfl⟩
        exact ⟨⟨instant, instant_lt, key, key_lt, rfl⟩, rfl⟩
      · rintro ⟨⟨instant, instant_lt, zone, _, rfl⟩, rfl⟩
        exact ⟨instant, instant_lt, rfl⟩
  | budget =>
      have zones : zoneOfKey? schedule.emissions.zoneCounts 0 key =
          (pollutantZones schedule.emissions)[key]? := by
        rw [pollutantZones_eq, getElem?_zonesFrom]
      simp only [keyRows, zones, Option.mem_toList, Option.map_eq_some_iff, linkRows,
        List.mem_map]
      constructor
      · rintro ⟨⟨pollutant, zone⟩, found, rfl⟩
        obtain ⟨member, place⟩ := getElem?_pollutantZones.mp found
        exact ⟨⟨(pollutant, zone), member, rfl⟩, place⟩
      · rintro ⟨⟨⟨pollutant, zone⟩, member, rfl⟩, place⟩
        exact ⟨(pollutant, zone), getElem?_pollutantZones.mpr ⟨member, place⟩, rfl⟩

/-- Writing at the place of a row writes that row alone. -/
theorem modify_map_linkRows {α : Type} (member : row ∈ schedule.linkRows kind)
    (item : LinkRow → α) (new : α) :
    ((schedule.linkRows kind).map item).modify (schedule.rowIndex kind row) (fun _ => new) =
      (schedule.linkRows kind).map fun other => if other = row then new else item other := by
  apply List.ext_getElem?
  intro index
  simp only [List.getElem?_modify, List.getElem?_map]
  cases found : (schedule.linkRows kind)[index]? with
  | none => rfl
  | some other =>
      have place := (getElem?_linkRows.mp found).2
      by_cases same : other = row
      · subst same
        simp [place]
      · have apart : schedule.rowIndex kind row ≠ index := by
          intro equality
          have there := getElem?_linkRows.mpr ⟨member, equality⟩
          rw [found] at there
          exact same (Option.some.inj there)
        simp [same, apart]

end Dispatch.Schedule
