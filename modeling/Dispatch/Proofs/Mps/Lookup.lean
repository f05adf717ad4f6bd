import Dispatch.Proofs.Mps.Reading
import Mathlib.Algebra.BigOperators.Group.List.Lemmas
import Mathlib.Data.List.Nodup

namespace Dispatch.Mps

/-! Looking up what is said of a key. -/

variable {κ α β : Type} [DecidableEq κ]

@[simp] theorem said_nil (key : κ) : said key ([] : List (κ × α)) = [] := rfl

theorem said_cons (key : κ) (item : κ × α) (about : List (κ × α)) :
    said key (item :: about) =
      if item.1 = key then item.2 :: said key about else said key about := by
  unfold said
  rw [List.filterMap_cons]
  split <;> rename_i found <;> split at found <;> simp_all

@[simp] theorem said_append (key : κ) (first second : List (κ × α)) :
    said key (first ++ second) = said key first ++ said key second :=
  List.filterMap_append

@[simp] theorem said_flatten (key : κ) (about : List (List (κ × α))) :
    said key about.flatten = (about.map (said key)).flatten :=
  List.filterMap_flatten

@[simp] theorem said_map_pair (key other : κ) (values : List α) :
    said key (values.map fun value => (other, value)) = if other = key then values else [] := by
  induction values with
  | nil => simp
  | cons value rest induction =>
      rw [List.map_cons, said_cons, induction]
      split <;> rfl

/-- Keys are looked up before values are changed. -/
theorem said_map_snd (key : κ) (change : α → β) (about : List (κ × α)) :
    said key (about.map fun item => (item.1, change item.2)) =
      (said key about).map change := by
  induction about with
  | nil => rfl
  | cons item rest induction =>
      rw [List.map_cons, said_cons, said_cons, induction]
      dsimp only
      split <;> rfl

theorem said_eq_nil_of_not_mem {key : κ} {about : List (κ × α)}
    (absent : key ∉ about.map Prod.fst) : said key about = [] := by
  refine List.filterMap_eq_nil_iff.mpr fun item member => if_neg ?_
  rintro rfl
  exact absent (List.mem_map_of_mem member)

theorem said_eq_nil_iff {key : κ} {about : List (κ × α)} :
    said key about = [] ↔ key ∉ about.map Prod.fst := by
  refine ⟨fun none member => ?_, said_eq_nil_of_not_mem⟩
  obtain ⟨item, inside, rfl⟩ := List.mem_map.mp member
  have said := List.filterMap_eq_nil_iff.mp none item inside
  rw [if_pos rfl] at said
  cases said

theorem mem_of_mem_said {key : κ} {about : List (κ × α)} {value : α}
    (member : value ∈ said key about) : (key, value) ∈ about := by
  obtain ⟨item, inside, found⟩ := List.mem_filterMap.mp member
  split at found
  · rename_i same
    cases found
    exact same ▸ inside
  · cases found

/-- Of members that are told apart by their keys, each is said to have what it has. -/
theorem said_filterMap {γ : Type} {key : γ → κ} {members : List γ}
    (distinct : (members.map key).Nodup) (about : γ → Option α) {member : γ}
    (listed : member ∈ members) :
    said (key member) (members.filterMap fun other =>
      (about other).map fun value => (key other, value)) = (about member).toList := by
  have single (other : γ) : said (key member) (((about other).map fun value =>
      (key other, value)).toList) = if key other = key member then (about other).toList
        else [] := by
    cases about other with
    | none => simp
    | some value => simp [said_cons]
  have split (first : γ) (rest : List γ) :
      ((first :: rest).filterMap fun other => (about other).map fun value =>
        (key other, value)) =
      ((about first).map fun value => (key first, value)).toList ++
        rest.filterMap fun other => (about other).map fun value => (key other, value) := by
    rw [List.filterMap_cons]
    cases about first <;> rfl
  have absent (rest : List γ) (outside : key member ∉ rest.map key) :
      said (key member) (rest.filterMap fun other =>
        (about other).map fun value => (key other, value)) = [] := by
    refine said_eq_nil_of_not_mem fun inside => outside ?_
    obtain ⟨item, found, same⟩ := List.mem_map.mp inside
    obtain ⟨other, within, made⟩ := List.mem_filterMap.mp found
    obtain ⟨value, -, rfl⟩ := Option.map_eq_some_iff.mp made
    exact same ▸ List.mem_map_of_mem within
  induction members with
  | nil => cases listed
  | cons first rest induction =>
      obtain ⟨fresh, distinct⟩ := List.nodup_cons.mp distinct
      rw [split, said_append, single]
      cases List.mem_cons.mp listed with
      | inl same =>
          subst same
          rw [if_pos rfl, absent rest fresh, List.append_nil]
      | inr later =>
          have other : key first ≠ key member := fun same =>
            fresh (same ▸ List.mem_map_of_mem later)
          rw [if_neg other, induction distinct later]
          rfl

omit [DecidableEq κ] in
theorem nodup_mapIdx {γ : Type} {key : Nat → γ → κ}
    (injective : ∀ {first second item other}, key first item = key second other →
      first = second) (items : List γ) : (items.mapIdx key).Nodup := by
  rw [List.nodup_iff_pairwise_ne, List.pairwise_iff_getElem]
  intro earlier later _ _ before same
  rw [List.getElem_mapIdx, List.getElem_mapIdx] at same
  exact absurd (injective same) (Nat.ne_of_lt before)

/-- Of the pieces that are put together, each under the key of its place, the key of a place
gives back the piece. -/
theorem said_flatten_mapIdx {γ : Type} {key : Nat → κ}
    (injective : ∀ {first second}, key first = key second → first = second)
    (piece : γ → List α) (items : List γ) (place : Nat) :
    said (key place) ((items.mapIdx fun place item =>
      (piece item).map fun value => (key place, value)).flatten) =
      (items[place]?.map piece).getD [] := by
  induction items generalizing key place with
  | nil => rfl
  | cons item rest induction =>
      rw [List.mapIdx_cons, List.flatten_cons, said_append, said_map_pair]
      cases place with
      | zero =>
          rw [if_pos rfl]
          have others : said (key 0) ((rest.mapIdx fun place item =>
              (piece item).map fun value => (key (place + 1), value)).flatten) = [] := by
            refine said_eq_nil_of_not_mem fun inside => ?_
            obtain ⟨pair, listed, same⟩ := List.mem_map.mp inside
            obtain ⟨pairs, among, listed⟩ := List.mem_flatten.mp listed
            obtain ⟨place, _, rfl⟩ := List.mem_mapIdx.mp among
            obtain ⟨value, -, rfl⟩ := List.mem_map.mp listed
            cases injective same
          rw [others, List.append_nil]
          rfl
      | succ place =>
          have apart : key 0 ≠ key (place + 1) := fun same => by cases injective same
          have shifted {first second : Nat} (same : key (first + 1) = key (second + 1)) :
              first = second := by
            simpa using injective same
          have later := @induction (fun place => key (place + 1)) shifted place
          rw [if_neg apart, List.nil_append, later]
          simp

/-- A sum over items, taken key by key. -/
theorem sum_map_said {M : Type} [AddCommMonoid M] {keys : List κ}
    (distinct : keys.Nodup) (value : κ → α → M) {about : List (κ × α)}
    (listed : ∀ item ∈ about, item.1 ∈ keys) :
    (about.map fun item => value item.1 item.2).sum =
      (keys.map fun key => ((said key about).map (value key)).sum).sum := by
  induction about with
  | nil => simp
  | cons item rest induction =>
      obtain ⟨here, later⟩ := List.forall_mem_cons.mp listed
      have split (key : κ) : ((said key (item :: rest)).map (value key)).sum =
          (if key = item.1 then value item.1 item.2 else 0) +
            ((said key rest).map (value key)).sum := by
        rw [said_cons]
        by_cases same : item.1 = key
        · subst same
          simp
        · rw [if_neg same, if_neg (Ne.symm same), zero_add]
      have single : (keys.map fun key =>
          if key = item.1 then value item.1 item.2 else 0).sum = value item.1 item.2 := by
        rw [List.sum_map_eq_nsmul_single item.1 _ fun key other _ => if_neg other, if_pos rfl,
          List.count_eq_one_of_mem distinct here, one_nsmul]
      simp only [split]
      rw [List.map_cons, List.sum_cons, List.sum_map_add, single, induction later]

theorem sum_map_ite_said {M : Type} [AddCommMonoid M] (key : κ)
    (value : α → M) (about : List (κ × α)) :
    (about.map fun item => if item.1 = key then value item.2 else 0).sum =
      ((said key about).map value).sum := by
  induction about with
  | nil => rfl
  | cons item rest induction =>
      rw [List.map_cons, List.sum_cons, induction, said_cons]
      split
      · rfl
      · exact zero_add _

end Dispatch.Mps
