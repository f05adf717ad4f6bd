import Dispatch.Proofs.Mps.Lookup
import Dispatch.Proofs.Number.Exact

namespace Dispatch.Mps

/-! Terms that belong to one row are added up. They are neighbours, as rows are visited in the
order of their numbers. -/

theorem once?_total? (values : List Exact) :
    once? 0 (total? values).toList = some values.sum := by
  cases values with
  | nil => rfl
  | cons first rest =>
      have sum (total : Exact) : rest.foldl (· + ·) total = total + rest.sum := by
        induction rest generalizing total with
        | nil => simp
        | cons value rest induction => rw [List.foldl_cons, induction, List.sum_cons, add_assoc]
      exact congrArg some (sum first)

section Merging

variable {K : Type}

/-- The numbers of rows do not fall. -/
def Ascending (pairs : List (Nat × K)) : Prop :=
  pairs.Pairwise fun earlier later => earlier.1 ≤ later.1

theorem said_eq_nil_of_lt {row : Nat} {pairs : List (Nat × K)}
    (beyond : ∀ pair ∈ pairs, row < pair.1) : said row pairs = [] := by
  refine said_eq_nil_of_not_mem fun inside => ?_
  obtain ⟨pair, member, same⟩ := List.mem_map.mp inside
  exact absurd (beyond pair member) (by omega)

variable [Scalar K]

theorem le_fst_of_mem_mergeFrom {row : Nat} {total : K} {pairs : List (Nat × K)}
    (ascending : Ascending ((row, total) :: pairs)) {pair : Nat × K}
    (member : pair ∈ mergeFrom row total pairs) : row ≤ pair.1 := by
  induction pairs generalizing row total with
  | nil => rw [List.mem_singleton.mp member]
  | cons next rest induction =>
      obtain ⟨first, sorted⟩ := List.pairwise_cons.mp ascending
      have before : row ≤ next.1 := first next List.mem_cons_self
      rw [mergeFrom] at member
      split at member
      · refine induction (List.pairwise_cons.mpr ⟨fun later among => ?_, sorted.of_cons⟩) member
        exact first later (.tail _ among)
      · cases List.mem_cons.mp member with
        | inl here => rw [here]
        | inr later => exact before.trans (induction sorted later)

/-- A row has one sum. -/
theorem nodup_mergeFrom {row : Nat} {total : K} {pairs : List (Nat × K)}
    (ascending : Ascending ((row, total) :: pairs)) :
    ((mergeFrom row total pairs).map Prod.fst).Nodup := by
  induction pairs generalizing row total with
  | nil => exact List.nodup_singleton _
  | cons next rest induction =>
      obtain ⟨first, sorted⟩ := List.pairwise_cons.mp ascending
      have before : row ≤ next.1 := first next List.mem_cons_self
      rw [mergeFrom]
      split
      · refine induction (List.pairwise_cons.mpr ⟨fun later among => ?_, sorted.of_cons⟩)
        exact first later (.tail _ among)
      · rename_i apart
        rw [List.map_cons, List.nodup_cons]
        refine ⟨fun inside => ?_, induction sorted⟩
        obtain ⟨pair, member, same⟩ := List.mem_map.mp inside
        have after := le_fst_of_mem_mergeFrom sorted member
        omega

theorem nodup_mergeRows {pairs : List (Nat × K)} (ascending : Ascending pairs) :
    ((mergeRows pairs).map Prod.fst).Nodup := by
  cases pairs with
  | nil => exact List.nodup_nil
  | cons first rest => exact nodup_mergeFrom ascending

/-- No row is lost and none is added. -/
theorem mem_fst_mergeFrom {row : Nat} {total : K} {pairs : List (Nat × K)} {place : Nat} :
    place ∈ (mergeFrom row total pairs).map Prod.fst ↔
      place ∈ ((row, total) :: pairs).map Prod.fst := by
  induction pairs generalizing row total with
  | nil => rfl
  | cons next rest induction =>
      rw [mergeFrom]
      split
      · rename_i same
        rw [induction, List.map_cons, List.map_cons, List.map_cons, same]
        simp
      · rw [List.map_cons, List.mem_cons, induction]
        simp

theorem mem_fst_mergeRows {pairs : List (Nat × K)} {place : Nat} :
    place ∈ (mergeRows pairs).map Prod.fst ↔ place ∈ pairs.map Prod.fst := by
  cases pairs with
  | nil => rfl
  | cons first rest => exact mem_fst_mergeFrom

end Merging

/-- What is added up for a row is all that is there for the row. -/
theorem once?_said_mergeFrom {row : Nat} {total : Exact} {pairs : List (Nat × Exact)}
    (ascending : Ascending ((row, total) :: pairs)) (place : Nat) :
    once? 0 (said place (mergeFrom row total pairs)) =
      some (said place ((row, total) :: pairs)).sum := by
  induction pairs generalizing row total with
  | nil =>
      rw [mergeFrom, said_cons]
      split <;> simp [once?]
  | cons next rest induction =>
      obtain ⟨next, value⟩ := next
      obtain ⟨first, sorted⟩ := List.pairwise_cons.mp ascending
      obtain ⟨second, others⟩ := List.pairwise_cons.mp sorted
      have before : row ≤ next := first (next, value) List.mem_cons_self
      rw [mergeFrom]
      split
      · rename_i same
        subst same
        have merged : Ascending ((next, total + value) :: rest) :=
          List.pairwise_cons.mpr ⟨second, others⟩
        rw [induction merged, said_cons, said_cons, said_cons]
        dsimp only
        split
        · rw [List.sum_cons, List.sum_cons, List.sum_cons, add_assoc]
        · rfl
      · rename_i apart
        have after : row < next := by omega
        rw [said_cons, said_cons place (row, total)]
        dsimp only
        split
        · rename_i same
          subst same
          have merged : said row (mergeFrom next value rest) = [] :=
            said_eq_nil_of_lt fun pair member =>
              after.trans_le (le_fst_of_mem_mergeFrom sorted member)
          have given : said row ((next, value) :: rest) = [] := by
            refine said_eq_nil_of_lt fun pair member => after.trans_le ?_
            cases List.mem_cons.mp member with
            | inl here => rw [here]
            | inr later => exact second pair later
          rw [merged, given]
          simp [once?]
        · exact induction sorted

theorem once?_said_mergeRows {pairs : List (Nat × Exact)} (ascending : Ascending pairs)
    (place : Nat) :
    once? 0 (said place (mergeRows pairs)) = some (said place pairs).sum := by
  cases pairs with
  | nil => rfl
  | cons first rest => exact once?_said_mergeFrom ascending place

/-- Pieces that are put together, each under its place, ascend. -/
theorem ascending_flatten_mapIdx {K γ : Type} (piece : γ → List K) (items : List γ) :
    Ascending ((items.mapIdx fun place item =>
      (piece item).map fun value => (place, value)).flatten) := by
  have from' (start : Nat) : Ascending ((items.mapIdx fun place item =>
      (piece item).map fun value => (place + start, value)).flatten) := by
    induction items generalizing start with
    | nil => exact List.Pairwise.nil
    | cons item rest induction =>
        rw [List.mapIdx_cons, List.flatten_cons]
        have shift : (fun place item => (piece item).map fun value => (place + 1 + start, value)) =
            fun place item => (piece item).map fun value => (place + (start + 1), value) := by
          funext place item
          rw [Nat.add_assoc, Nat.add_comm 1]
        refine List.pairwise_append.mpr ⟨?_, ?_, fun first among second later => ?_⟩
        · exact List.pairwise_map.mpr (List.pairwise_of_forall fun _ _ => Nat.le_refl _)
        · rw [shift]
          exact induction (start + 1)
        · obtain ⟨value, -, rfl⟩ := List.mem_map.mp among
          obtain ⟨pairs, listed, inside⟩ := List.mem_flatten.mp later
          obtain ⟨place, _, rfl⟩ := List.mem_mapIdx.mp listed
          obtain ⟨other, -, rfl⟩ := List.mem_map.mp inside
          dsimp only
          omega
  exact from' 0

end Dispatch.Mps
