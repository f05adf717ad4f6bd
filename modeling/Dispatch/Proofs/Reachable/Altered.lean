import Dispatch.Proofs.Number.Counts
import Dispatch.Proofs.Reachable.DryRun

namespace Dispatch

/-! What an answer says about the stored data. A writing update compares each value with the
entry stored before the call, and then writes pair after pair. As long as no index comes twice
it is applied just when an addressed entry reads differently afterwards; an index that comes
twice can be taken away from its value and back. -/

/-! What equals anything equals itself, which a double need not. -/

theorem UnpackedFloat.beq_self_of_beq {left right : Float.Model.UnpackedFloat}
    (equal : left.beq right = true) : left.beq left = true := by
  cases left with
  | notANumber => cases right <;> cases equal
  | infinity sign => cases sign <;> rfl
  | zero sign => rfl
  | finite sign mantissa exponent positive =>
      cases sign <;>
        simp [Float.Model.UnpackedFloat.beq, Float.Model.UnpackedFloat.compare]

theorem Float.beq_self_of_beq {left right : Float} (equal : (left == right) = true) :
    (left == left) = true :=
  UnpackedFloat.beq_self_of_beq equal

variable {S T : Type} {address : Address} {values before after : List Float}
  {default : Float} {extent : Nat}

/-- Every addressed entry exists and has a value. -/
structure Address.Valid (address : Address) (extent valueCount : Nat) : Prop where
  within : ∀ index ∈ address.entries, index < extent
  paired : address.entries.length ≤ valueCount

theorem Address.Valid.select {valueCount : Nat} (valid : address.Valid extent valueCount)
    (what : String) : ∃ selected, address.select extent valueCount what = .ok selected := by
  obtain ⟨within, paired⟩ := valid
  cases address with
  | range start stop =>
      rw [Address.select]
      split
      · exact ⟨none, rfl⟩
      · rename_i proper
        have last := within (stop - 1) (List.mem_range'_1.mpr (by omega))
        rw [entries, List.length_range'] at paired
        rw [checkRange, if_neg (by omega), checkCount, if_neg (by omega)]
        exact ⟨_, rfl⟩
  | subset indices sorted =>
      rw [Address.select]
      split
      · exact ⟨none, rfl⟩
      · have found : indices.find? (fun index => decide (extent ≤ index)) = none := by
          rw [List.find?_eq_none]
          intro index member
          simpa using within index member
        rw [entries] at paired
        rw [checkIndices, found, checkCount, if_neg (by omega)]
        exact ⟨_, rfl⟩

theorem Address.Valid.not_error {valueCount : Nat} {what : String} {error : Error}
    (valid : address.Valid extent valueCount) :
    address.select extent valueCount what ≠ .error error := by
  obtain ⟨selected, accepted⟩ := valid.select what
  rw [accepted]
  nofun

theorem Address.entries_of_none {what : String} {valueCount : Nat}
    (selected : address.select extent valueCount what = .ok none) : address.entries = [] := by
  cases address with
  | range start stop =>
      simp only [select] at selected
      split at selected
      · rename_i empty
        rw [entries, Nat.sub_eq_zero_of_le empty, List.range'_zero]
      · obtain ⟨-, -, selected⟩ := Except.bind_eq_ok.mp selected
        obtain ⟨-, -, selected⟩ := Except.bind_eq_ok.mp selected
        cases selected
  | subset indices sorted =>
      simp only [select] at selected
      split at selected
      · rename_i empty
        exact List.isEmpty_iff.mp empty
      · obtain ⟨-, -, selected⟩ := Except.bind_eq_ok.mp selected
        obtain ⟨-, -, selected⟩ := Except.bind_eq_ok.mp selected
        cases selected

/-- Some addressed entry reads differently. -/
def Altered (address : Address) (default : Float) (before after : List Float) : Prop :=
  ∃ index ∈ address.entries,
    Selection.stored before default index != Selection.stored after default index

/-- Some value is not the one stored under its index. -/
def Compared (address : Address) (default : Float) (before values : List Float) : Prop :=
  ∃ pair ∈ address.entries.zip values, Selection.stored before default pair.1 != pair.2

theorem compared_of_differs {what : String} {selection : Selection}
    (selected : address.select extent values.length what = .ok (some selection)) :
    selection.differs before default values = true ↔
      Compared address default before values := by
  rw [Selection.differs, (Address.select_shows selected).1, List.any_eq_true, Compared]

/-! Without repetition the last value paired with an index is the only one. -/

theorem mem_of_lastPaired? {K : Type} {index : Nat} {pairs : List (Nat × K)} {value : K}
    (last : lastPaired? index pairs = some value) : (index, value) ∈ pairs := by
  induction pairs with
  | nil => cases last
  | cons pair rest induction =>
      rw [lastPaired?, Option.or_eq_some_iff] at last
      rcases last with later | ⟨-, here⟩
      · exact List.mem_cons_of_mem pair (induction later)
      · split at here
        · rename_i same
          cases here
          cases same
          exact List.mem_cons_self
        · cases here

theorem eq_of_mem_zip {K : Type} {indices : List Nat} {values : List K} {index : Nat}
    {first second : K} (distinct : indices.Nodup) (one : (index, first) ∈ indices.zip values)
    (other : (index, second) ∈ indices.zip values) : first = second := by
  obtain ⟨place, within, found⟩ := List.mem_iff_getElem.mp one
  obtain ⟨again, inside, seen⟩ := List.mem_iff_getElem.mp other
  rw [List.getElem_zip, Prod.mk.injEq] at found seen
  have same : place = again :=
    (List.Nodup.getElem_inj_iff distinct).mp (found.1.trans seen.1.symm)
  subst same
  exact found.2.symm.trans seen.2

/-- What an entry reads after it was overwritten. -/
theorem Overwritten.stored (written : Overwritten address values extent default before after)
    {index : Nat} (member : index ∈ address.entries) :
    (index, Selection.stored after default index) ∈ address.entries.zip values := by
  obtain ⟨value, last, found⟩ := written.addressed index member
  have occupied : after.isEmpty = false := by
    cases after with
    | nil => cases found
    | cons head rest => rfl
  have reads : Selection.stored after default index = value := by
    rw [Selection.stored, occupied, List.getD_eq_getElem?_getD, found]
    rfl
  rw [reads]
  exact mem_of_lastPaired? last

theorem Overwritten.compared
    (written : Overwritten address values extent default before after)
    (altered : Altered address default before after) :
    Compared address default before values := by
  obtain ⟨index, member, moved⟩ := altered
  exact ⟨_, written.stored member, moved⟩

theorem Overwritten.altered (written : Overwritten address values extent default before after)
    (distinct : address.entries.Nodup) (compared : Compared address default before values) :
    Altered address default before after := by
  obtain ⟨⟨index, value⟩, paired, moved⟩ := compared
  have member := (List.of_mem_zip paired).1
  refine ⟨index, member, ?_⟩
  rw [eq_of_mem_zip distinct (written.stored member) paired]
  exact moved

/-- What was not written has nothing to show, not even where a stored value is not a number:
each addressed entry was found equal to something. -/
theorem not_altered_of_same {selection : Selection} {what : String}
    (selected : address.select extent values.length what = .ok (some selection))
    (same : ¬ Compared address default before values) :
    ¬ Altered address default before before := by
  rintro ⟨index, member, moved⟩
  obtain ⟨-, count, -⟩ := Address.select_sound selected
  rw [(Address.select_shows selected).1] at count
  obtain ⟨value, last⟩ := exists_lastPaired? member count
  have equal : (Selection.stored before default index == value) = true := by
    by_contra unequal
    exact same ⟨(index, value), mem_of_lastPaired? last, by simpa [bne] using unequal⟩
  rw [bne, Float.beq_self_of_beq equal] at moved
  cases moved

/-- What the answer of a writing update says about the vector it was meant for. -/
structure Candid (address : Address) (values : List Float) (default : Float)
    (read : S → List Float) (start : S) (effect : Effect S Outcome) (outcome : Outcome) :
    Prop where
  settled : outcome = .applied ∨
    outcome = .unchanged ∧ effect.state = start ∧ effect.notices = []
  compared : outcome = .applied ↔ Compared address default (read start) values
  altered : Altered address default (read start) (read effect.state) → outcome = .applied
  distinct : address.entries.Nodup →
    (outcome = .applied ↔ Altered address default (read start) (read effect.state))

def Answers (address : Address) (values : List Float) (default : Float)
    (read : S → List Float) (start : S) (effect : Effect S Outcome) : Prop :=
  ∃ outcome, effect.result = .ok outcome ∧
    Candid address values default read start effect outcome

namespace Answers

variable {read : S → List Float} {start : S} {what : String} {selection : Selection}

/-- An update that leaves everything as it was. -/
theorem of_still (uncompared : ¬ Compared address default (read start) values)
    (unaltered : ¬ Altered address default (read start) (read start)) :
    Answers address values default read start ⟨start, [], .ok .unchanged⟩ :=
  ⟨.unchanged, rfl, .inr ⟨rfl, rfl, rfl⟩, by simpa using uncompared,
    fun altered => absurd altered unaltered, fun _ => by simpa using unaltered⟩

/-- An update that addresses nothing. -/
theorem of_none (selected : address.select extent values.length what = .ok none) :
    Answers address values default read start ⟨start, [], .ok .unchanged⟩ := by
  have empty : address.entries = [] := Address.entries_of_none selected
  have unaltered : ¬ Altered address default (read start) (read start) := by
    rintro ⟨index, member, -⟩
    rw [empty] at member
    cases member
  have uncompared : ¬ Compared address default (read start) values := by
    rintro ⟨pair, member, -⟩
    rw [empty] at member
    cases member
  exact of_still uncompared unaltered

theorem of_same (selected : address.select extent values.length what = .ok (some selection))
    (same : ¬ selection.differs (read start) default values = true) :
    Answers address values default read start ⟨start, [], .ok .unchanged⟩ := by
  have uncompared : ¬ Compared address default (read start) values :=
    fun compared => same ((compared_of_differs selected).mpr compared)
  exact of_still uncompared (not_altered_of_same selected uncompared)

theorem of_written {effect : Effect S Outcome}
    (selected : address.select extent values.length what = .ok (some selection))
    (differs : selection.differs (read start) default values = true)
    (applied : effect.result = .ok .applied)
    (written : Overwritten address values extent default (read start) (read effect.state)) :
    Answers address values default read start effect := by
  have compared := (compared_of_differs selected).mp differs
  exact ⟨.applied, applied, .inl rfl, by simpa using compared, fun _ => rfl,
    fun distinct => by simpa using written.altered distinct compared⟩

/-- An update of a part, answered by the whole. -/
theorem lift {part : T} {inner : Effect T Outcome} {view : T → List Float}
    {effect : Effect S Outcome} (answers : Answers address values default view part inner)
    (accounted : ∀ outcome, effect.result = .ok outcome → outcome ≠ .applied →
      effect.state = start ∧ effect.notices = [])
    (result : effect.result = inner.result) (before : read start = view part)
    (after : read effect.state = view inner.state) :
    Answers address values default read start effect := by
  obtain ⟨outcome, answered, settled, compared, altered, distinct⟩ := answers
  rw [← result] at answered
  rw [← before] at compared altered distinct
  rw [← after] at altered distinct
  refine ⟨outcome, answered, ?_, compared, altered, distinct⟩
  rcases settled with applied | ⟨unchanged, -⟩
  · exact .inl applied
  · exact .inr ⟨unchanged, accounted outcome answered (by rw [unchanged]; decide)⟩

end Answers

variable {physical : Mode}

namespace Plant

theorem Shaped.answers_setScaleAt {plant : Plant Float} (shaped : plant.Shaped)
    {address : Address} {values : List Float} (valid : address.Valid 1 values.length)
    (writes : physical.writes = true) (abstract : Mode) :
    Answers address values 1 (fun plant => [plant.scale]) plant
      (Plant.setScaleAt address values physical abstract plant) := by
  have accounted := accounted_setScaleAt address values physical abstract plant
  rw [setScaleAt_apply] at accounted ⊢
  split
  · rename_i refused
    exact absurd refused valid.not_error
  · rename_i selected
    exact .of_none selected
  · rename_i selection selected
    rw [selected] at accounted
    dsimp only at accounted
    rw [updateScale_apply, writes] at accounted ⊢
    dsimp only at accounted ⊢
    split
    · rename_i same
      exact .of_same selected (by simpa using same)
    · rename_i differs
      rw [if_neg differs] at accounted
      obtain ⟨result, moved, -, -⟩ := shaped.withScale
        ((selection.write [plant.scale] 1 1 values).headD plant.scale) abstract
      rw [moved] at accounted ⊢
      exact .of_written selected (by simpa using differs) rfl (accounted.applied rfl).2.scale

end Plant

namespace Network

variable {network : Network Float}

theorem Shaped.answers_setKappa (shaped : network.Shaped) {address : Address}
    {values : List Float} (valid : address.Valid network.lines values.length)
    (writes : physical.writes = true) (abstract : Mode) :
    Answers address values 1 Network.kappa network
      (setKappa address values physical abstract network) := by
  rw [setKappa_apply]
  split
  · rename_i refused
    exact absurd refused valid.not_error
  · rename_i selected
    exact .of_none selected
  · rename_i selection selected
    rw [updateKappa_apply, writes]
    split
    · rename_i same
      exact .of_same selected (by simpa using same)
    · rename_i differs
      refine .of_written selected (by simpa using differs) rfl ?_
      rw [if_neg (by decide), withKappa_rest]
      exact overwritten_write 1 selected shaped.kappa

theorem Shaped.answers_setDemand (shaped : network.Shaped) {address : Address}
    {values : List Float} (valid : address.Valid network.extent values.length)
    (writes : physical.writes = true) (abstract : Mode) :
    Answers address values 0 Network.demand network
      (setDemand address values physical abstract network) := by
  rw [setDemand_apply]
  split
  · rename_i refused
    exact absurd refused valid.not_error
  · rename_i selected
    exact .of_none selected
  · rename_i selection selected
    rw [updateDemand_apply, writes]
    split
    · rename_i same
      exact .of_same selected (by simpa using same)
    · rename_i differs
      refine .of_written selected (by simpa using differs) rfl ?_
      rw [if_neg (by decide), withDemand_rest]
      exact overwritten_write 0 selected shaped.demand

end Network

namespace Schedule

variable {schedule : Schedule Float}

/-- The answer is that of the plant, which what follows it does not touch. -/
theorem Sound.answers_scalePlantAt (sound : schedule.Sound) {index : Nat}
    (within : index < schedule.plants.length) {address : Address} {values : List Float}
    (valid : address.Valid 1 values.length) (writes : physical.writes = true)
    (abstract : Mode) :
    Answers address values 1
      (fun schedule => (schedule.plants[index]?).toList.map Plant.scale) schedule
      (Schedule.scalePlantAt index address values physical abstract schedule) := by
  have still := (sound.accounted_scalePlantAt index address values physical abstract).still
  have part := onPlant_apply index (Plant.setScaleAt address values physical abstract) schedule
  unfold Schedule.scalePlantAt at still ⊢
  have found := List.getElem?_eq_getElem within
  generalize schedule.plants[index] = plant at found
  rw [found] at part
  dsimp only at part
  have inner := (sound.stocked.plants plant (List.mem_of_getElem? found)).answers_setScaleAt valid
    writes abstract
  generalize Plant.setScaleAt address values physical abstract plant = effect at part inner
  obtain ⟨rescaled, notices, result⟩ := effect
  obtain ⟨outcome, answered, candid⟩ := inner
  dsimp only at answered
  subst answered
  rw [Change.bind_ok part] at still ⊢
  obtain ⟨networks, links, followed, -⟩ :=
    (sound.of_onPlant_setScaleAt part).afterScale_rest index outcome abstract
  rw [followed] at still ⊢
  refine Answers.lift ⟨outcome, rfl, candid⟩ still rfl (by rw [found]; rfl) ?_
  change ((schedule.plants.set index rescaled)[index]?).toList.map Plant.scale = _
  rw [List.getElem?_set_self within]
  rfl

theorem Sound.answers_setDemand (sound : schedule.Sound) {address : Address}
    {values : List Float} (valid : address.Valid schedule.extent values.length)
    (writes : physical.writes = true) (abstract : Mode) :
    Answers address values 0 Schedule.demand schedule
      (Schedule.setDemand address values physical abstract schedule) := by
  have applied := (sound.accounted_setDemand address values physical abstract).applied
  rw [setDemand_apply] at applied ⊢
  split
  · rename_i refused
    exact absurd refused valid.not_error
  · rename_i selected
    exact .of_none selected
  · rename_i selection selected
    rw [selected] at applied
    dsimp only at applied
    rw [updateDemand_apply, writes] at applied ⊢
    dsimp only at applied ⊢
    split
    · rename_i same
      exact .of_same selected (by simpa using same)
    · rename_i differs
      rw [if_neg differs] at applied
      replace differs : selection.differs schedule.demand 0 values = true := by
        simpa using differs
      cases single : schedule.isBus with
      | true =>
          rw [single] at applied
          exact .of_written selected differs rfl (applied rfl).2.demand
      | false =>
          have within := (Address.select_sound selected).1
          have overwritten := overwritten_write 0 selected sound.stocked.demand
          obtain ⟨members, forwarded, -⟩ := (sound.withDemand overwritten.length).forwardDemand_rest
            single within abstract.silent
          rw [single, forwarded] at applied
          rw [forwarded]
          exact .of_written selected differs rfl (applied rfl).2.demand

end Schedule

/-- A writing update of a reachable block that answers `Applied` while it repeats no index has
changed what it addresses, and whatever is changed has been answered so. -/
theorem answers_of_reachable {physical : Mode} (writes : physical.writes = true)
    (address : Address) (values : List Float) (abstract : Mode) :
    (∀ plant : Plant Float, plant.Reachable → address.Valid 1 values.length →
      Answers address values 1 (fun plant => [plant.scale]) plant
        (Plant.setScaleAt address values physical abstract plant)) ∧
    (∀ network : Network Float, network.Reachable →
      (address.Valid network.lines values.length →
        Answers address values 1 Network.kappa network
          (Network.setKappa address values physical abstract network)) ∧
      (address.Valid network.extent values.length →
        Answers address values 0 Network.demand network
          (Network.setDemand address values physical abstract network))) ∧
    ∀ schedule : Schedule Float, schedule.Reachable →
      (∀ index < schedule.plants.length, address.Valid 1 values.length →
        Answers address values 1
          (fun schedule => (schedule.plants[index]?).toList.map Plant.scale) schedule
          (Schedule.scalePlantAt index address values physical abstract schedule)) ∧
      (address.Valid schedule.extent values.length →
        Answers address values 0 Schedule.demand schedule
          (Schedule.setDemand address values physical abstract schedule)) := by
  refine ⟨fun plant reachable valid => ?plant, fun network reachable => ⟨fun valid => ?kappa,
    fun valid => ?load⟩, fun schedule reachable => ⟨fun index within valid => ?scale,
    fun valid => ?demand⟩⟩
  case plant => exact reachable.arises.shaped.answers_setScaleAt valid writes abstract
  case kappa => exact reachable.sound.shaped.answers_setKappa valid writes abstract
  case load => exact reachable.sound.shaped.answers_setDemand valid writes abstract
  case scale => exact reachable.sound.answers_scalePlantAt within valid writes abstract
  case demand => exact reachable.sound.answers_setDemand valid writes abstract

/-- Taken to 2 and back to 1, the factor of the only line is told of as if it had changed. -/
theorem applied_unaltered_line :
    let network := (Network.bus ⟨0⟩).attach (.shared Schedule.pairLine)
    let effect := Network.setKappa (.subset [0, 0] true) [2, 1] (.notify 0) (.notify 0) network
    effect.result = .ok .applied ∧ effect.notices.length = 1 ∧
      ¬ Altered (.subset [0, 0] true) 1 network.kappa effect.state.kappa := by
  unfold Altered
  decide +kernel

end Dispatch
