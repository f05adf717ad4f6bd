import Dispatch.Change.Selection
import Dispatch.Proofs.Except

namespace Dispatch

/-! What a checked address selects, and what writing through it leaves alone. -/

theorem checkIndices_ok {indices : List Nat} {extent : Nat} {what : String}
    (checked : checkIndices indices extent what = .ok ⟨⟩) :
    ∀ index ∈ indices, index < extent := by
  unfold checkIndices at checked
  split at checked
  · cases checked
  · rename_i missing
    intro index member
    simpa using List.find?_eq_none.mp missing index member

theorem checkRange_ok {stop extent : Nat} {what : String}
    (checked : checkRange stop extent what = .ok ⟨⟩) : stop ≤ extent := by
  unfold checkRange at checked
  split at checked
  · cases checked
  · omega

theorem checkCount_ok {found needed : Nat} {what : String}
    (checked : checkCount found needed what = .ok ⟨⟩) : needed ≤ found := by
  unfold checkCount at checked
  split at checked
  · cases checked
  · omega

namespace Address

variable {address : Address} {extent valueCount : Nat} {what : String}
  {selection : Selection}

/-- A selection is made of entries that exist, each with a value. -/
theorem select_sound (selected : address.select extent valueCount what = .ok (some selection)) :
    (∀ index ∈ selection.indices, index < extent) ∧
      selection.indices.length ≤ valueCount ∧ selection.indices ≠ [] := by
  cases address with
  | range start stop =>
      simp only [select] at selected
      split at selected
      · cases selected
      · rename_i proper
        obtain ⟨⟨⟩, range, selected⟩ := Except.bind_eq_ok.mp selected
        obtain ⟨⟨⟩, count, selected⟩ := Except.bind_eq_ok.mp selected
        cases selected
        have stop_le := checkRange_ok range
        refine ⟨?_, ?_, ?_⟩
        · intro index member
          have within := List.mem_range'_1.mp member
          omega
        · simpa using checkCount_ok count
        · intro empty
          have size := congrArg List.length empty
          simp only [List.length_range', List.length_nil] at size
          omega
  | subset indices sorted =>
      simp only [select] at selected
      split at selected
      · cases selected
      · rename_i occupied
        obtain ⟨⟨⟩, checked, selected⟩ := Except.bind_eq_ok.mp selected
        obtain ⟨⟨⟩, count, selected⟩ := Except.bind_eq_ok.mp selected
        cases selected
        exact ⟨checkIndices_ok checked, checkCount_ok count, by simpa using occupied⟩

end Address

namespace Selection

variable {K : Type} (selection : Selection)

theorem getD_materialise (current : List K) (extent : Nat) (default : K) (index : Nat) :
    (materialise current extent default).getD index default = current.getD index default := by
  unfold materialise
  split
  · rename_i absent
    have empty : current = [] := by simpa using absent
    by_cases within : index < extent <;> simp [empty, within]
  · rfl

theorem length_materialise {current : List K} {extent : Nat}
    (shaped : current = [] ∨ current.length = extent) (default : K) :
    (materialise current extent default).length = extent := by
  unfold materialise
  cases shaped with
  | inl empty => simp [empty]
  | inr length =>
      split
      · simp
      · exact length

private theorem length_foldl_set (pairs : List (Nat × K)) (values : List K) :
    (pairs.foldl (fun written pair => written.set pair.1 pair.2) values).length =
      values.length := by
  induction pairs generalizing values with
  | nil => rfl
  | cons pair rest induction => rw [List.foldl_cons, induction, List.length_set]

private theorem getD_foldl_set_of_not_mem (pairs : List (Nat × K)) (values : List K)
    (default : K) {index : Nat} (outside : index ∉ pairs.map Prod.fst) :
    (pairs.foldl (fun written pair => written.set pair.1 pair.2) values).getD index default =
      values.getD index default := by
  induction pairs generalizing values with
  | nil => rfl
  | cons pair rest induction =>
      rw [List.map_cons, List.mem_cons, not_or] at outside
      rw [List.foldl_cons, induction _ outside.2]
      simp [List.getElem?_set_ne (Ne.symm outside.1)]

theorem length_write {current : List K} {extent : Nat}
    (shaped : current = [] ∨ current.length = extent) (default : K) (values : List K) :
    (selection.write current extent default values).length = extent := by
  rw [write, length_foldl_set, length_materialise shaped]

/-- Entries that are not selected read as before, also where the vector was first filled
in. -/
theorem getD_write_of_not_mem (current : List K) (extent : Nat) (default : K)
    (values : List K) {index : Nat} (outside : index ∉ selection.indices) :
    (selection.write current extent default values).getD index default =
      current.getD index default := by
  rw [write, getD_foldl_set_of_not_mem, getD_materialise]
  intro member
  obtain ⟨pair, paired, rfl⟩ := List.mem_map.mp member
  exact outside (List.of_mem_zip paired).1

end Selection

end Dispatch
