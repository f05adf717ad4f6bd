import Dispatch.Proofs.Reachable.Accounted

namespace Dispatch

/-! A dry run says what the same call would answer with a writing mode, whatever either makes
of the rows, and does nothing else. What a writing call does after its data are written could
still refuse it; that it never does is what the dry run relies on. -/

variable {K : Type} [Scalar K]

/-- How the answer of a call that only tries stands to that of the call that writes. -/
structure Foretells {S : Type} (dry real : Effect S Outcome) (before : S) : Prop where
  state : dry.state = before
  notices : dry.notices = []
  queues : ∀ exchange : Exchange, exchange.deliver dry.notices = exchange
  error : ∀ error, dry.result = .error error ↔ real.result = .error error
  unchanged : dry.result = .ok .unchanged ↔ real.result = .ok .unchanged
  applied : dry.result = .ok .dryRun ↔ real.result = .ok .applied
  tries : dry.result ≠ .ok .applied
  writes : real.result ≠ .ok .dryRun

namespace Foretells

variable {S : Type} {before state : S} {notices : List Notice}

theorem of_error (error : Error) :
    Foretells ⟨before, [], .error error⟩ ⟨state, notices, .error error⟩ before :=
  ⟨rfl, rfl, fun _ => rfl, fun _ => Iff.rfl, by simp, by simp, by simp, by simp⟩

theorem of_unchanged :
    Foretells ⟨before, [], .ok .unchanged⟩ ⟨state, notices, .ok .unchanged⟩ before :=
  ⟨rfl, rfl, fun _ => rfl, fun _ => Iff.rfl, Iff.rfl, by simp, by simp, by simp⟩

theorem of_applied :
    Foretells ⟨before, [], .ok .dryRun⟩ ⟨state, notices, .ok .applied⟩ before :=
  ⟨rfl, rfl, fun _ => rfl, by simp, by simp, by simp, by simp, by simp⟩

/-- There are three ways for the two answers to agree. -/
theorem cases {dry real : Effect S Outcome} (foretells : Foretells dry real before) :
    (∃ error, dry = ⟨before, [], .error error⟩ ∧ real.result = .error error) ∨
      (dry = ⟨before, [], .ok .unchanged⟩ ∧ real.result = .ok .unchanged) ∨
      dry = ⟨before, [], .ok .dryRun⟩ ∧ real.result = .ok .applied := by
  obtain ⟨_, _, answer⟩ := dry
  obtain ⟨rfl, rfl, -, error, unchanged, applied, tries, -⟩ := foretells
  cases answer with
  | error cause => exact .inl ⟨cause, rfl, (error cause).mp rfl⟩
  | ok outcome =>
      cases outcome with
      | unchanged => exact .inr (.inl ⟨rfl, unchanged.mp rfl⟩)
      | dryRun => exact .inr (.inr ⟨rfl, applied.mp rfl⟩)
      | applied => exact absurd rfl tries

end Foretells

namespace Plant

/-- The same call with other modes. -/
def Update.inModes (physical abstract : Mode) : Update K → Update K
  | .scale factor _ _ => .scale factor physical abstract
  | .scaleAt address values _ _ => .scaleAt address values physical abstract

variable {plant : Plant K}

theorem Shaped.foretells_setScaleAt (shaped : plant.Shaped) (address : Address)
    (values : List K) {physical : Mode} (writes : physical.writes = true)
    (tried abstract : Mode) :
    Foretells (Plant.setScaleAt address values .dryRun tried plant)
      (Plant.setScaleAt address values physical abstract plant) plant := by
  rw [setScaleAt_apply, setScaleAt_apply]
  split
  · exact .of_error _
  · exact .of_unchanged
  · rename_i selection _
    rw [updateScale_apply, updateScale_apply, writes]
    dsimp only
    split
    · exact .of_unchanged
    · obtain ⟨result, written, -, -⟩ := shaped.withScale
        ((selection.write [plant.scale] 1 1 values).headD plant.scale) abstract
      rw [written]
      exact .of_applied

theorem Shaped.foretells (shaped : plant.Shaped) (update : Update K) {physical : Mode}
    (writes : physical.writes = true) (tried abstract : Mode) :
    Foretells ((update.inModes .dryRun tried).run plant)
      ((update.inModes physical abstract).run plant) plant := by
  cases update with
  | scale factor _ _ =>
      exact shaped.foretells_setScaleAt (.range 0 1) [factor] writes tried abstract
  | scaleAt address values _ _ =>
      exact shaped.foretells_setScaleAt address values writes tried abstract

end Plant

namespace Network

def Update.inModes (physical abstract : Mode) : Update K → Update K
  | .kappa address values _ _ => .kappa address values physical abstract
  | .demand address values _ _ => .demand address values physical abstract
  | .injectionBounds minimum maximum _ _ => .injectionBounds minimum maximum physical abstract

variable {physical : Mode}

theorem foretells_setKappa (address : Address) (values : List K)
    (writes : physical.writes = true) (tried abstract : Mode) (network : Network K) :
    Foretells (setKappa address values .dryRun tried network)
      (setKappa address values physical abstract network) network := by
  rw [setKappa_apply, setKappa_apply]
  split
  · exact .of_error _
  · exact .of_unchanged
  · rw [updateKappa_apply, updateKappa_apply, writes]
    split
    · exact .of_unchanged
    · exact .of_applied

theorem foretells_setDemand (address : Address) (values : List K)
    (writes : physical.writes = true) (tried abstract : Mode) (network : Network K) :
    Foretells (setDemand address values .dryRun tried network)
      (setDemand address values physical abstract network) network := by
  rw [setDemand_apply, setDemand_apply]
  split
  · exact .of_error _
  · exact .of_unchanged
  · rw [updateDemand_apply, updateDemand_apply, writes]
    split
    · exact .of_unchanged
    · exact .of_applied

theorem foretells_setInjectionBounds (minimum maximum : List K)
    (writes : physical.writes = true) (tried abstract : Mode) (network : Network K) :
    Foretells (setInjectionBounds minimum maximum .dryRun tried network)
      (setInjectionBounds minimum maximum physical abstract network) network := by
  rw [setInjectionBounds_apply, setInjectionBounds_apply, writes]
  split
  · exact .of_error _
  · split
    · exact .of_error _
    · split
      · exact .of_unchanged
      · exact .of_applied

theorem Update.foretells (update : Update K) (writes : physical.writes = true)
    (tried abstract : Mode) (network : Network K) :
    Foretells ((update.inModes .dryRun tried).run network)
      ((update.inModes physical abstract).run network) network := by
  cases update with
  | kappa address values _ _ =>
      exact foretells_setKappa address values writes tried abstract network
  | demand address values _ _ =>
      exact foretells_setDemand address values writes tried abstract network
  | injectionBounds minimum maximum _ _ =>
      exact foretells_setInjectionBounds minimum maximum writes tried abstract network

end Network

namespace Schedule

def Update.inModes (physical abstract : Mode) : Update K → Update K
  | .scale index factor _ _ => .scale index factor physical abstract
  | .scaleAt index address values _ _ => .scaleAt index address values physical abstract
  | .demand address values _ _ => .demand address values physical abstract

variable {schedule : Schedule K} {physical : Mode}

/-- Networks never refuse the demand that a schedule hands on to them. -/
theorem Sound.foretells_setDemand (sound : schedule.Sound) (address : Address)
    (values : List K) (writes : physical.writes = true) (tried abstract : Mode) :
    Foretells (Schedule.setDemand address values .dryRun tried schedule)
      (Schedule.setDemand address values physical abstract schedule) schedule := by
  rw [setDemand_apply, setDemand_apply]
  split
  · exact .of_error _
  · exact .of_unchanged
  · rename_i selection selected
    rw [updateDemand_apply, updateDemand_apply, writes]
    dsimp only
    split
    · exact .of_unchanged
    · change Foretells ⟨schedule, [], .ok .dryRun⟩ _ schedule
      rw [if_neg (by simp)]
      split
      · exact .of_applied
      · rename_i several
        have written := sound.withDemand
          (selection.length_write sound.stocked.demand 0 values)
        have within := (Address.select_sound selected).1
        obtain ⟨after, forwarded, -⟩ := written.forwardDemand_accepted
          (show schedule.isBus = false by simpa using several) within abstract.silent
        rw [forwarded]
        exact .of_applied

/-- What follows a new scale keeps the answer of the plant. -/
theorem Sound.foretells_scalePlantAt (sound : schedule.Sound) (index : Nat)
    (address : Address) (values : List K) (writes : physical.writes = true)
    (tried abstract : Mode) :
    Foretells (Schedule.scalePlantAt index address values .dryRun tried schedule)
      (Schedule.scalePlantAt index address values physical abstract schedule) schedule := by
  have trial := onPlant_apply index (Plant.setScaleAt address values .dryRun tried) schedule
  have part := onPlant_apply index (Plant.setScaleAt address values physical abstract) schedule
  unfold Schedule.scalePlantAt
  cases found : schedule.plants[index]? with
  | none =>
      rw [found] at trial part
      rw [Change.bind_error trial, Change.bind_error part]
      exact .of_error _
  | some plant =>
      rw [found] at trial part
      dsimp only at trial part
      have foretells := (sound.stocked.plants plant
        (List.mem_of_getElem? found)).foretells_setScaleAt address values writes tried abstract
      generalize Plant.setScaleAt address values .dryRun tried plant = dry at trial foretells
      generalize Plant.setScaleAt address values physical abstract plant = real
        at part foretells
      obtain ⟨rescaled, notices, result⟩ := real
      dsimp only at part
      have followed {outcome : Outcome} (answered : result = .ok outcome) :
          ∃ after sent, (onPlant index (Plant.setScaleAt address values physical abstract) >>=
              fun outcome => afterScale index outcome abstract) schedule =
            ⟨after, sent, .ok outcome⟩ := by
        rw [answered] at part
        obtain ⟨after, finished, -⟩ :=
          (sound.of_onPlant_setScaleAt part).afterScale_accepted index outcome abstract
        rw [Change.bind_ok part, finished]
        exact ⟨after, _, rfl⟩
      rcases foretells.cases with
        ⟨error, rfl, answered⟩ | ⟨rfl, answered⟩ | ⟨rfl, answered⟩
      · dsimp only at answered
        subst answered
        rw [withPlants_set_self found] at trial
        rw [Change.bind_error trial, Change.bind_error part]
        exact .of_error error
      · rw [withPlants_set_self found] at trial
        obtain ⟨after, sent, accepted⟩ := followed answered
        rw [Change.bind_ok trial, afterScale_of_still (by simp), accepted]
        exact .of_unchanged
      · rw [withPlants_set_self found] at trial
        obtain ⟨after, sent, accepted⟩ := followed answered
        rw [Change.bind_ok trial, afterScale_of_still (by simp), accepted]
        exact .of_applied

theorem Sound.foretells (sound : schedule.Sound) (update : Update K)
    (writes : physical.writes = true) (tried abstract : Mode) :
    Foretells ((update.inModes .dryRun tried).run schedule)
      ((update.inModes physical abstract).run schedule) schedule := by
  cases update with
  | scale index factor _ _ =>
      exact sound.foretells_scalePlantAt index (.range 0 1) [factor] writes tried abstract
  | scaleAt index address values _ _ =>
      exact sound.foretells_scalePlantAt index address values writes tried abstract
  | demand address values _ _ =>
      exact sound.foretells_setDemand address values writes tried abstract

end Schedule

/-- A dry run of any update of any reachable block foretells every writing call. -/
theorem foretells_of_reachable {physical : Mode} (writes : physical.writes = true)
    (tried abstract : Mode) :
    (∀ plant : Plant Float, plant.Reachable → ∀ update : Plant.Update Float,
      Foretells ((update.inModes .dryRun tried).run plant)
        ((update.inModes physical abstract).run plant) plant) ∧
    (∀ network : Network Float, network.Reachable → ∀ update : Network.Update Float,
      Foretells ((update.inModes .dryRun tried).run network)
        ((update.inModes physical abstract).run network) network) ∧
    ∀ schedule : Schedule Float, schedule.Reachable → ∀ update : Schedule.Update Float,
      Foretells ((update.inModes .dryRun tried).run schedule)
        ((update.inModes physical abstract).run schedule) schedule :=
  ⟨fun _ reachable update => reachable.arises.shaped.foretells update writes tried abstract,
    fun network _ update => update.foretells writes tried abstract network,
    fun _ reachable update => reachable.sound.foretells update writes tried abstract⟩

/-- The real call goes on to the bounds of two networks and to the linking rows. -/
theorem foretells_of_reachable_duo :
    let generated := (Schedule.generateConstraints
      (Schedule.generateVariables Schedule.duo).state).state
    let real := Schedule.scalePlantAt 1 (.subset [0] true) [3] (.notify 2) .quiet generated
    (Mode.notify 2).writes = true ∧ generated.Reachable ∧ real.result = .ok .applied ∧
      Foretells (Schedule.scalePlantAt 1 (.subset [0] true) [3] .dryRun .dryRun generated) real
        generated := by
  have reachable := Schedule.reachable_duo.play [.generateVariables, .generateConstraints]
  have writes : (Mode.notify 2).writes = true := rfl
  refine ⟨writes, reachable, by decide +kernel, ?_⟩
  exact (foretells_of_reachable writes .dryRun .quiet).2.2 _ reachable
    (.scaleAt 1 (.subset [0] true) [3] .quiet .quiet)

end Dispatch
