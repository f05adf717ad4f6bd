import Dispatch.Proofs.Change.Record
import Mathlib.Data.List.Nodup

namespace Dispatch

/-! Writes to entries that are all different can be made in any order. -/

variable {K : Type}

theorem set_set_of_apart {written : List K} {first second : Nat × K} (apart : first.1 ≠ second.1) :
    (written.set first.1 first.2).set second.1 second.2 =
      (written.set second.1 second.2).set first.1 first.2 :=
  List.set_comm _ _ apart

/-- A run of writes commutes with one of other entries. -/
theorem foldl_set_comm {first second : List (Nat × K)}
    (apart : ∀ early ∈ first, ∀ late ∈ second, early.1 ≠ late.1) (values : List K) :
    second.foldl (fun written pair => written.set pair.1 pair.2)
        (first.foldl (fun written pair => written.set pair.1 pair.2) values) =
      first.foldl (fun written pair => written.set pair.1 pair.2)
        (second.foldl (fun written pair => written.set pair.1 pair.2) values) := by
  have single (pair : Nat × K) (others : ∀ late ∈ second, pair.1 ≠ late.1) (values : List K) :
      second.foldl (fun written pair => written.set pair.1 pair.2) (values.set pair.1 pair.2) =
        (second.foldl (fun written pair => written.set pair.1 pair.2) values).set
          pair.1 pair.2 := by
    induction second generalizing values with
    | nil => rfl
    | cons late rest induction =>
        rw [List.foldl_cons, List.foldl_cons, set_set_of_apart (others late (by simp))]
        exact induction (fun early member other later => apart early member other (by simp [later]))
          (fun other later => others other (by simp [later])) _
  induction first generalizing values with
  | nil => rfl
  | cons early rest induction =>
      rw [List.foldl_cons, List.foldl_cons,
        induction (fun other member => apart other (by simp [member])),
        single early (apart early (by simp))]

/-- Writes to different entries can be listed in any order. -/
theorem foldl_set_perm {first second : List (Nat × K)} (same : first.Perm second)
    (distinct : (first.map Prod.fst).Nodup) (values : List K) :
    first.foldl (fun written pair => written.set pair.1 pair.2) values =
      second.foldl (fun written pair => written.set pair.1 pair.2) values := by
  refine same.foldl_eq' (fun early member late later written => ?_) values
  by_cases equal : early.1 = late.1
  · rw [List.inj_on_of_nodup_map distinct member later equal]
  · exact set_set_of_apart equal

namespace Selection

variable (selection other : Selection)

theorem stored_eq_getD (values : List K) (default : K) (index : Nat) :
    stored values default index = values.getD index default := by
  unfold stored
  split
  · rename_i absent
    have empty : values = [] := by simpa using absent
    simp [empty]
  · rfl

theorem materialise_of_length {values : List K} {extent : Nat} (default : K)
    (length : values.length = extent) : materialise values extent default = values := by
  unfold materialise
  split
  · rename_i absent
    have empty : values = [] := by simpa using absent
    subst empty
    subst length
    rfl
  · rfl

/-- Two writes to different entries can change places, whichever of them fills in the vector. -/
theorem write_write {current : List K} {extent : Nat}
    (shaped : current = [] ∨ current.length = extent) (default : K) (values others : List K)
    (apart : selection.indices.Disjoint other.indices) :
    other.write (selection.write current extent default values) extent default others =
      selection.write (other.write current extent default others) extent default values := by
  have filled (selection : Selection) (values : List K) :
      materialise (selection.write current extent default values) extent default =
        selection.write current extent default values :=
    materialise_of_length default (selection.length_write shaped default values)
  rw [write, filled, write, write, filled, write]
  refine foldl_set_comm (fun early member late later equal => ?_) _
  exact apart (List.of_mem_zip member).1 (equal ▸ (List.of_mem_zip later).1)

variable [Scalar K]

/-- Whether a write would change something does not depend on the entries it is not about. -/
theorem differs_congr {before after : List K} (default : K) (values : List K)
    (same : ∀ index ∈ selection.indices, after.getD index default = before.getD index default) :
    selection.differs after default values = selection.differs before default values := by
  unfold differs
  rw [Bool.eq_iff_iff, List.any_eq_true, List.any_eq_true]
  have agree (pair : Nat × K) (member : pair ∈ selection.indices.zip values) :
      stored after default pair.1 = stored before default pair.1 := by
    rw [stored_eq_getD, stored_eq_getD]
    exact same pair.1 (List.of_mem_zip member).1
  refine exists_congr fun pair => and_congr_right fun member => ?_
  rw [agree pair member]

theorem differs_write (current : List K) (extent : Nat) (default : K) (values others : List K)
    (apart : selection.indices.Disjoint other.indices) :
    other.differs (selection.write current extent default values) default others =
      other.differs current default others :=
  other.differs_congr default others fun _ member =>
    selection.getD_write_of_not_mem current extent default values fun earlier =>
      apart earlier member

end Selection

end Dispatch
