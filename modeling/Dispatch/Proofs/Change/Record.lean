import Dispatch.Proofs.Change.Laws
import Dispatch.Proofs.Change.Selection

namespace Dispatch

/-! What a caller may rely on when an update answers. An applied one has overwritten the
entries it was addressed to, each by the last value that was paired with it, and tells of it
once; any other has done nothing. -/

namespace Address

/-- The addressed entries, in the order in which they are paired with values. -/
def entries : Address → List Nat
  | .range start stop => List.range' start (stop - start)
  | .subset indices _ => indices

/-- A record shows indices in ascending order, unless the caller answers for their order. -/
inductive Shows : Address → Addressing → Prop
  | range (start stop : Nat) : Shows (.range start stop) (.range start stop)
  | asGiven (indices : List Nat) : Shows (.subset indices true) (.subset indices)
  | sorted {indices ordered : List Nat} (same : ordered.Perm indices)
      (ascending : ordered.Pairwise (· ≤ ·)) :
      Shows (.subset indices false) (.subset ordered)

variable {address : Address} {extent valueCount : Nat} {what : String}
  {selection : Selection}

theorem select_shows (selected : address.select extent valueCount what = .ok (some selection)) :
    selection.indices = address.entries ∧ address.Shows selection.addressing := by
  cases address with
  | range start stop =>
      simp only [select] at selected
      split at selected
      · cases selected
      · obtain ⟨-, -, selected⟩ := Except.bind_eq_ok.mp selected
        obtain ⟨-, -, selected⟩ := Except.bind_eq_ok.mp selected
        cases selected
        exact ⟨rfl, .range start stop⟩
  | subset indices sorted =>
      simp only [select] at selected
      split at selected
      · cases selected
      · obtain ⟨-, -, selected⟩ := Except.bind_eq_ok.mp selected
        obtain ⟨-, -, selected⟩ := Except.bind_eq_ok.mp selected
        cases selected
        refine ⟨rfl, ?_⟩
        cases sorted with
        | true => exact .asGiven indices
        | false =>
            refine .sorted (List.mergeSort_perm indices _) ?_
            have ascending : (indices.mergeSort fun first second => first ≤ second).Pairwise
                fun first second => decide (first ≤ second) = true :=
              List.pairwise_mergeSort
                (fun _ _ _ early late => by
                  simp only [decide_eq_true_eq] at *
                  omega)
                (fun first second => by
                  simp only [Bool.or_eq_true, decide_eq_true_eq]
                  omega) indices
            exact ascending.imp fun ordered => by simpa using ordered

end Address

variable {K : Type}

/-- The last value that an index is paired with. -/
def lastPaired? (index : Nat) : List (Nat × K) → Option K
  | [] => none
  | pair :: rest => (lastPaired? index rest).or (if pair.1 = index then some pair.2 else none)

theorem exists_lastPaired? {index : Nat} {indices : List Nat} {values : List K}
    (member : index ∈ indices) (count : indices.length ≤ values.length) :
    ∃ value, lastPaired? index (indices.zip values) = some value := by
  induction indices generalizing values with
  | nil => cases member
  | cons first rest induction =>
      cases values with
      | nil => cases count
      | cons value values =>
          rw [List.zip_cons_cons, lastPaired?]
          cases later : lastPaired? index (rest.zip values) with
          | some last => exact ⟨last, rfl⟩
          | none =>
              have same : first = index := by
                cases List.mem_cons.mp member with
                | inl here => exact here.symm
                | inr there =>
                    obtain ⟨last, found⟩ :=
                      induction there (by simpa using count)
                    rw [later] at found
                    cases found
              exact ⟨value, by simp [same]⟩

private theorem getElem?_foldl_write (pairs : List (Nat × K)) (values : List K) {index : Nat}
    (within : index < values.length) :
    (pairs.foldl (fun written pair => written.set pair.1 pair.2) values)[index]? =
      (lastPaired? index pairs).or values[index]? := by
  induction pairs generalizing values with
  | nil => rfl
  | cons pair rest induction =>
      rw [List.foldl_cons, induction _ (by rwa [List.length_set]), lastPaired?, Option.or_assoc]
      congr 1
      by_cases same : pair.1 = index
      · subst same
        simp [within]
      · rw [List.getElem?_set_ne same, if_neg same]
        rfl

/-- A vector after an update: every addressed entry holds the last value paired with it, and
the others read as before. -/
structure Overwritten (address : Address) (values : List K) (extent : Nat) (default : K)
    (before after : List K) : Prop where
  length : after.length = extent
  addressed : ∀ index ∈ address.entries, ∃ value,
    lastPaired? index (address.entries.zip values) = some value ∧ after[index]? = some value
  others : ∀ index ∉ address.entries,
    after.getD index default = before.getD index default

theorem overwritten_write {address : Address} {values current : List K} {extent : Nat}
    {what : String} {selection : Selection} (default : K)
    (selected : address.select extent values.length what = .ok (some selection))
    (shaped : current = [] ∨ current.length = extent) :
    Overwritten address values extent default current
      (selection.write current extent default values) := by
  obtain ⟨within, count, -⟩ := Address.select_sound selected
  obtain ⟨entries, -⟩ := Address.select_shows selected
  refine ⟨selection.length_write shaped default values, fun index member => ?_,
    fun index outside => ?_⟩
  · rw [← entries] at member ⊢
    obtain ⟨value, last⟩ := exists_lastPaired? member count
    refine ⟨value, last, ?_⟩
    rw [Selection.write, getElem?_foldl_write _ _
      (by rw [Selection.length_materialise shaped]; exact within index member), last]
    rfl
  · rw [← entries] at outside
    exact selection.getD_write_of_not_mem current extent default values outside

/-- One record goes out on the channel that the mode names, and none where it names none. -/
structure Recorded (physical : Mode) (address : Address) (notifier : NotifierKey)
    (block : BlockId) (quantity : Quantity) (notices : List Notice) : Prop where
  written : physical ≠ .dryRun
  quiet : physical = .quiet → notices = []
  notified : ∀ channel, physical = .notify channel → ∃ addressing,
    address.Shows addressing ∧ notices = [⟨notifier, channel, ⟨block, quantity, addressing⟩⟩]

theorem recorded_of_shows {physical : Mode} {address : Address} {addressing : Addressing}
    (writes : physical.writes = true) (shows : address.Shows addressing)
    (notifier : NotifierKey) (block : BlockId) (quantity : Quantity) :
    Recorded physical address notifier block quantity
      (physical.notices notifier ⟨block, quantity, addressing⟩) := by
  cases physical with
  | dryRun => cases writes
  | quiet => exact ⟨by simp, fun _ => rfl, nofun⟩
  | notify channel =>
      refine ⟨by simp, nofun, fun other same => ?_⟩
      cases same
      exact ⟨addressing, shows, rfl⟩

theorem recorded_of_select {physical : Mode} {address : Address} {extent valueCount : Nat}
    {what : String} {selection : Selection} (writes : physical.writes = true)
    (selected : address.select extent valueCount what = .ok (some selection))
    (notifier : NotifierKey) (block : BlockId) (quantity : Quantity) :
    Recorded physical address notifier block quantity
      (physical.notices notifier (selection.record block quantity)) :=
  recorded_of_shows writes (Address.select_shows selected).2 notifier block quantity

/-- An update that answers has either been applied, with what that announces, or done
nothing. -/
structure Accounted {S : Type} (effect : Effect S Outcome) (before : S) (announced : Prop) :
    Prop where
  applied : effect.result = .ok .applied → announced
  still : ∀ outcome, effect.result = .ok outcome → outcome ≠ .applied →
    effect.state = before ∧ effect.notices = []

namespace Accounted

variable {S : Type} {before : S} {announced : Prop}

theorem of_error {state : S} {notices : List Notice} (error : Error) :
    Accounted ⟨state, notices, .error error⟩ before announced :=
  ⟨nofun, nofun⟩

theorem of_still {outcome : Outcome} (other : outcome ≠ .applied) :
    Accounted ⟨before, [], .ok outcome⟩ before announced := by
  refine ⟨fun answered => ?_, fun _ _ _ => ⟨rfl, rfl⟩⟩
  cases answered
  exact absurd rfl other

theorem of_applied {state : S} {notices : List Notice} (holds : announced) :
    Accounted ⟨state, notices, .ok .applied⟩ before announced := by
  refine ⟨fun _ => holds, fun outcome answered other => ?_⟩
  cases answered
  exact absurd rfl other

theorem imp {effect : Effect S Outcome} {other : Prop}
    (accounted : Accounted effect before announced)
    (implies : announced → other) : Accounted effect before other :=
  ⟨fun answered => implies (accounted.applied answered), accounted.still⟩

end Accounted

end Dispatch
