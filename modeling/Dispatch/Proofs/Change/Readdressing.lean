import Dispatch.Proofs.Change.Orders
import Mathlib.Data.List.Sort

namespace Dispatch

/-! Addresses that name the same entries with the same values, as a range and as a list or in
another order. What an update does through either is the same. -/

variable {K S : Type}

/-- Two runs of an update are accepted together, with one outcome, and leave the same. Where the
records agree, so do the notices. -/
structure Coincides (recorded : Prop) (one other : Effect S Outcome) : Prop where
  outcome : one.result.toOption = other.result.toOption
  state : one.state = other.state
  notices : recorded → one.notices = other.notices

theorem Coincides.refl (recorded : Prop) (effect : Effect S Outcome) :
    Coincides recorded effect effect :=
  ⟨rfl, rfl, fun _ => rfl⟩

theorem Coincides.of_notices {recorded : Prop} {state : S} {result : Except Error Outcome}
    {notices others : List Notice} (same : recorded → notices = others) :
    Coincides recorded ⟨state, notices, result⟩ ⟨state, others, result⟩ :=
  ⟨rfl, rfl, same⟩

theorem Coincides.refused {recorded : Prop} (state : S) (error other : Error) :
    Coincides recorded ⟨state, [], .error error⟩ ⟨state, [], .error other⟩ :=
  ⟨rfl, rfl, fun _ => rfl⟩

/-- Whatever comes next goes on from the same. -/
theorem Coincides.bind {recorded : Prop} {one other : Change S Outcome} {state : S}
    (same : Coincides recorded (one state) (other state)) (next : Outcome → Change S Outcome) :
    Coincides recorded ((one >>= next) state) ((other >>= next) state) := by
  obtain ⟨outcome, states, notices⟩ := same
  rw [Change.bind_apply, Change.bind_apply, states]
  cases first : (one state).result with
  | error error =>
      cases second : (other state).result with
      | error later => exact ⟨rfl, rfl, notices⟩
      | ok answer =>
          rw [first, second] at outcome
          cases outcome
  | ok answer =>
      cases second : (other state).result with
      | error later =>
          rw [first, second] at outcome
          cases outcome
      | ok reply =>
          rw [first, second] at outcome
          cases outcome
          exact ⟨rfl, rfl, fun recorded => congrArg (· ++ _) (notices recorded)⟩

/-- A list of different indices in another order, each with its value. -/
structure Rearranged (indices : List Nat) (values : List K) (other : List Nat)
    (others : List K) : Prop where
  distinct : indices.Nodup
  same : indices.Perm other
  count : values.length = others.length
  pairs : (indices.zip values).Perm (other.zip others)

/-- A record says how the entries were addressed, and nothing else about them. -/
theorem Selection.record_congr {first second : Selection}
    (same : first.addressing = second.addressing) (block : BlockId) (quantity : Quantity) :
    first.record block quantity = second.record block quantity :=
  congrArg (Record.mk block quantity) same

/-- Two selections of the same entries with the same values. -/
structure Selection.Rearranges (first second : Selection) (values others : List K) : Prop where
  distinct : first.indices.Nodup
  count : first.indices.length ≤ values.length
  same : first.indices.Perm second.indices
  pairs : (first.indices.zip values).Perm (second.indices.zip others)

namespace Selection.Rearranges

variable {first second : Selection} {values others : List K}

theorem write (rearranges : first.Rearranges second values others) (current : List K)
    (extent : Nat) (default : K) :
    first.write current extent default values = second.write current extent default others := by
  refine foldl_set_perm rearranges.pairs ?_ _
  rw [List.map_fst_zip rearranges.count]
  exact rearranges.distinct

theorem differs [Scalar K] (rearranges : first.Rearranges second values others)
    (current : List K) (default : K) :
    first.differs current default values = second.differs current default others := by
  unfold Selection.differs
  rw [Bool.eq_iff_iff, List.any_eq_true, List.any_eq_true]
  exact exists_congr fun _ => and_congr_left fun _ => rearranges.pairs.mem_iff

end Selection.Rearranges

/-- Two checked addresses are refused together, are empty together or select the same. -/
inductive SelectsAlike (recorded : Prop) (values others : List K) :
    Except Error (Option Selection) → Except Error (Option Selection) → Prop
  | refused (error other : Error) :
      SelectsAlike recorded values others (.error error) (.error other)
  | empty : SelectsAlike recorded values others (.ok none) (.ok none)
  | entries {first second : Selection} (rearranges : first.Rearranges second values others)
      (addressing : recorded → first.addressing = second.addressing) :
      SelectsAlike recorded values others (.ok (some first)) (.ok (some second))

namespace Address

/-- The addresses select alike, whatever the vector is. -/
def Interchangeable (recorded : Prop) (address : Address) (values : List K) (other : Address)
    (others : List K) : Prop :=
  ∀ extent what, SelectsAlike recorded values others
    (address.select extent values.length what) (other.select extent others.length what)

/-- The check of indices, as one condition on all of them. -/
theorem checkIndices_cases (indices : List Nat) (extent : Nat) (what : String) :
    ((∀ index ∈ indices, index < extent) ∧
        checkIndices indices extent what = (.ok ⟨⟩ : Except Error PUnit.{1})) ∨
      (¬∀ index ∈ indices, index < extent) ∧
        ∃ error, checkIndices indices extent what = (.error error : Except Error PUnit.{1}) := by
  cases checked : (checkIndices indices extent what : Except Error PUnit.{1}) with
  | ok answer => exact .inl ⟨checkIndices_ok checked, rfl⟩
  | error error =>
      refine .inr ⟨fun within => ?_, error, rfl⟩
      unfold checkIndices at checked
      rw [List.find?_eq_none.mpr fun index member => by simpa using within index member] at checked
      cases checked

theorem interchangeable_range (start stop : Nat) (sorted : Bool) (values : List K) :
    Interchangeable False (.range start stop) values
      (.subset (List.range' start (stop - start)) sorted) values := by
  intro extent what
  simp only [select]
  by_cases empty : stop ≤ start
  · have none : (List.range' start (stop - start)).isEmpty = true := by simp; omega
    rw [if_pos empty, if_pos none]
    exact .empty
  · have some : ¬(List.range' start (stop - start)).isEmpty = true := by simp; omega
    have proper : start < stop := by omega
    have within : (∀ index ∈ List.range' start (stop - start), index < extent) ↔ stop ≤ extent := by
      constructor
      · intro all
        have last := all (stop - 1) (List.mem_range'_1.mpr (by omega))
        omega
      · intro fits index member
        have inside := List.mem_range'_1.mp member
        omega
    rw [if_neg empty, if_neg some, List.length_range', checkRange]
    rcases checkIndices_cases (List.range' start (stop - start)) extent what with
      ⟨all, checked⟩ | ⟨outside, error, failed⟩
    · have fits := within.mp all
      rw [if_neg (by omega), checked, checkCount]
      split
      · exact .refused _ _
      · refine .entries ⟨List.nodup_range', ?_, .refl _, .refl _⟩ False.elim
        rw [List.length_range']
        omega
    · have beyond := mt within.mpr outside
      rw [if_pos (by omega), failed]
      exact .refused _ _

theorem mergeSort_eq_of_perm {indices other : List Nat} (same : indices.Perm other) :
    (indices.mergeSort fun first second => decide (first ≤ second)) =
      other.mergeSort fun first second => decide (first ≤ second) :=
  ((List.mergeSort_perm _ _).trans (same.trans (List.mergeSort_perm _ _).symm)).eq_of_pairwise'
    (List.pairwise_mergeSort' _ _) (List.pairwise_mergeSort' _ _)

theorem interchangeable_subset {indices other : List Nat} {values others : List K}
    (rearranged : Rearranged indices values other others) (sorted flag : Bool) :
    Interchangeable (sorted = false ∧ flag = false) (.subset indices sorted) values
      (.subset other flag) others := by
  intro extent what
  have length := rearranged.same.length_eq
  have isEmpty : other.isEmpty = indices.isEmpty := by
    rw [Bool.eq_iff_iff, List.isEmpty_iff_length_eq_zero, List.isEmpty_iff_length_eq_zero, length]
  have within : (∀ index ∈ other, index < extent) ↔ ∀ index ∈ indices, index < extent :=
    forall_congr' fun _ => imp_congr_left rearranged.same.mem_iff.symm
  simp only [select]
  rw [isEmpty]
  split
  · exact .empty
  · rcases checkIndices_cases indices extent what with ⟨all, checked⟩ | ⟨outside, error, failed⟩
    · rcases checkIndices_cases other extent what with ⟨-, again⟩ | ⟨outside, -⟩
      · rw [checked, again, ← rearranged.count, ← length, checkCount]
        split
        · exact .refused _ _
        · rename_i enough
          refine .entries ⟨rearranged.distinct, Nat.le_of_not_lt enough, rearranged.same,
            rearranged.pairs⟩ ?_
          rintro ⟨rfl, rfl⟩
          exact congrArg Addressing.subset (mergeSort_eq_of_perm rearranged.same)
      · exact absurd (within.mpr all) outside
    · rcases checkIndices_cases other extent what with ⟨all, -⟩ | ⟨-, later, again⟩
      · exact absurd (within.mp all) outside
      · rw [failed, again]
        exact .refused _ _

end Address

/-- A setter that checks its address and hands on the selection. -/
theorem Address.Interchangeable.coincides {recorded : Prop} {address other : Address}
    {values others : List K} (alike : address.Interchangeable recorded values other others)
    {extent : Nat} {what : String} {state : S} {set : Address → List K → Change S Outcome}
    {update : Selection → List K → Change S Outcome}
    (apply : ∀ address values, set address values state =
      match address.select extent values.length what with
      | .error error => ⟨state, [], .error error⟩
      | .ok none => ⟨state, [], .ok .unchanged⟩
      | .ok (some selection) => update selection values state)
    (updates : ∀ first second : Selection, (∀ index ∈ first.indices, index < extent) →
      first.Rearranges second values others →
      (recorded → first.addressing = second.addressing) →
        Coincides recorded (update first values state) (update second others state)) :
    Coincides recorded (set address values state) (set other others state) := by
  have selects := alike extent what
  rw [apply, apply]
  cases found : address.select extent values.length what with
  | error error =>
      rw [found] at selects
      cases missed : other.select extent others.length what with
      | error later => exact .refused state error later
      | ok selected =>
          rw [missed] at selects
          cases selects
  | ok selected =>
      rw [found] at selects
      cases again : other.select extent others.length what with
      | error later =>
          rw [again] at selects
          cases selects
      | ok selection =>
          rw [again] at selects
          cases selects with
          | empty => exact .refl recorded _
          | entries rearranges addressing =>
              exact updates _ _ (select_sound found).1 rearranges addressing

/-- A setter does the same in this state through a range and through the list of its entries,
and through a list of different entries in any order. -/
structure Readdressable (set : Address → List K → Change S Outcome) (state : S) : Prop where
  range : ∀ (start stop : Nat) (sorted : Bool) (values : List K),
    Coincides False (set (.range start stop) values state)
      (set (.subset (List.range' start (stop - start)) sorted) values state)
  subset : ∀ {indices other : List Nat} {values others : List K},
    Rearranged indices values other others → ∀ sorted flag : Bool,
      Coincides (sorted = false ∧ flag = false) (set (.subset indices sorted) values state)
        (set (.subset other flag) others state)

theorem readdressable_of_interchangeable {set : Address → List K → Change S Outcome} {state : S}
    (coincides : ∀ {recorded : Prop} {address other : Address} {values others : List K},
      address.Interchangeable recorded values other others →
        Coincides recorded (set address values state) (set other others state)) :
    Readdressable set state where
  range start stop sorted values :=
    coincides (Address.interchangeable_range start stop sorted values)
  subset rearranged sorted flag :=
    coincides (Address.interchangeable_subset rearranged sorted flag)

end Dispatch
