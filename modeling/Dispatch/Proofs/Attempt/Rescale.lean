import Dispatch.Proofs.Attempt.Schedule
import Dispatch.Proofs.Attempt.Sound

namespace Dispatch

/-! A new scale of a plant. Whatever follows it finds every entry it looks up and is never
refused, so that a refused call has not written anything. -/

variable {K : Type} [Scalar K]

theorem Network.Kept.setInjectionBounds (minimum maximum : List K) (physical abstract : Mode)
    (network : Network K) :
    Network.Kept network
      (Network.setInjectionBounds minimum maximum physical abstract network).state := by
  refine ⟨fun sound => sound.setInjectionBounds minimum maximum physical abstract, ?_⟩
  cases Network.setInjectionBounds_state minimum maximum physical abstract network with
  | inl still => rw [still]
  | inr moved =>
      rw [moved]
      exact (Network.SameFrame.withInjectionBounds network minimum maximum abstract).extent

namespace Schedule

variable {schedule : Schedule K}

omit [Scalar K] in
/-- A network stands for one instant of the horizon. -/
theorem Stocked.instant_lt (stocked : schedule.Stocked) {instant : Nat} {network : Network K}
    (found : schedule.networks[instant]? = some network) :
    schedule.isBus = false ∧ instant < schedule.horizon := by
  have instant_lt := (List.getElem?_eq_some_iff.mp found).1
  have several : schedule.isBus = false := by
    rw [isBus, ← Bool.not_eq_true, List.isEmpty_iff_length_eq_zero]
    omega
  exact ⟨several, stocked.count several ▸ instant_lt⟩

theorem Stocked.completes_refreshInjectionBounds (stocked : schedule.Stocked)
    (placed : schedule.Placed) (abstract : Mode) :
    Attempt.Completes (refreshInjectionBounds? abstract) (refreshInjectionBounds abstract)
      schedule := by
  apply Attempt.Completes.current
  apply Attempt.Completes.onPart
  apply Attempt.Completes.each
  intro instant network found
  obtain ⟨several, instant_lt⟩ := stocked.instant_lt found
  apply Attempt.Completes.look (injectionBounds?_eq stocked.filled placed several instant_lt)
  have shaped := (stocked.networks network (List.mem_of_getElem? found)).shaped
  exact Network.completes_setInjectionBounds shaped _ _ .quiet abstract

theorem kept_refreshInjectionBounds (abstract : Mode) (schedule : Schedule K) :
    ∃ networks, (refreshInjectionBounds abstract schedule).state =
        schedule.withNetworks networks ∧
      List.Forall₂ Network.Kept schedule.networks networks := by
  rw [refreshInjectionBounds_apply]
  exact ⟨_, rfl, Change.each_forall₂ Network.Kept.refl
    (fun _ network => Network.Kept.setInjectionBounds _ _ .quiet abstract network) _⟩

omit [Scalar K] in
theorem Stocked.sizes (stocked : schedule.Stocked) (network : Network K)
    (member : network ∈ schedule.networks) : schedule.nodes = network.extent :=
  (stocked.extents network member).symm

theorem Sound.refreshInjectionBounds_accepted (sound : schedule.Sound) (abstract : Mode) :
    ∃ networks, refreshInjectionBounds abstract schedule =
        ⟨schedule.withNetworks networks, [], .ok ⟨⟩⟩ ∧
      List.Forall₂ Network.Kept schedule.networks networks := by
  obtain ⟨networks, state, kept⟩ := kept_refreshInjectionBounds abstract schedule
  refine ⟨networks, ?_, kept⟩
  rw [refreshInjectionBounds_ok schedule sound.stocked.sizes abstract, state]

theorem Sound.patchPlant_accepted (sound : schedule.Sound) (index : Nat) :
    ∃ after, patchPlant index schedule = ⟨after, [], .ok ⟨⟩⟩ ∧ after.Sound := by
  have fits (link : Link K) (member : link ∈ schedule.links) : schedule.Fits link := by
    cases late : schedule.stage.hasConstraints with
    | true => exact sound.fits late link member
    | false =>
        rw [sound.unlinked late] at member
        cases member
  obtain ⟨after, accepted⟩ := Schedule.patchPlant_accepted fits index
  obtain ⟨links, state, kept⟩ := sameFrame_patchPlant index schedule
  rw [accepted] at state
  have last := sound.withLinks kept
  rw [← state] at last
  exact ⟨after, accepted, last⟩

theorem Sound.completes_afterScale (sound : schedule.Sound) {index : Nat} {plant : Plant K}
    (found : schedule.plants[index]? = some plant) (outcome : Outcome) (abstract : Mode) :
    Attempt.Completes (afterScale? index outcome abstract) (afterScale index outcome abstract)
      schedule := by
  apply Attempt.Completes.current
  refine Attempt.Completes.ite (fun _ => rfl) fun reached => ?_
  have late : schedule.stage.hasConstraints = true := by
    cases generated : schedule.stage.hasConstraints with
    | true => rfl
    | false => exact absurd (by rw [generated]; simp) reached
  obtain ⟨networks, refreshed, members⟩ :=
    sound.refreshInjectionBounds_accepted abstract.silent
  have kept := sound.withNetworks members
  refine Attempt.Completes.bind
    (sound.stocked.completes_refreshInjectionBounds (sound.placed late) _) fun _ _ => ?_
  rw [refreshed]
  refine Attempt.Completes.ite (fun _ => ?_) fun _ => rfl
  exact Attempt.Completes.bind (completes_patchPlant kept.stocked.filled (kept.placed late)
    (kept.fits late) found) fun _ _ => rfl

theorem Sound.afterScale_accepted (sound : schedule.Sound) (index : Nat) (outcome : Outcome)
    (abstract : Mode) :
    ∃ after, afterScale index outcome abstract schedule = ⟨after, [], .ok outcome⟩ ∧
      after.Sound := by
  rw [afterScale_apply]
  cases late : schedule.stage.hasConstraints with
  | false =>
      rw [if_pos (by simp)]
      exact ⟨schedule, rfl, sound⟩
  | true =>
      split
      · exact ⟨schedule, rfl, sound⟩
      · obtain ⟨networks, refreshed, members⟩ :=
          sound.refreshInjectionBounds_accepted abstract.silent
        have kept := sound.withNetworks members
        rw [Change.bind_ok refreshed]
        split
        · obtain ⟨after, patched, last⟩ := kept.patchPlant_accepted index
          rw [Change.bind_ok patched]
          exact ⟨after, rfl, last⟩
        · exact ⟨_, rfl, kept⟩

/-- Writing the scale is the only part of the call that may be refused. -/
theorem Sound.onPlant_setScaleAt (sound : schedule.Sound) (index : Nat) (address : Address)
    (values : List K) (physical abstract : Mode) :
    (∃ error, onPlant index (Plant.setScaleAt address values physical abstract) schedule =
        ⟨schedule, [], .error error⟩) ∨
      ∃ plants plant notices outcome,
        onPlant index (Plant.setScaleAt address values physical abstract) schedule =
          ⟨schedule.withPlants plants, notices, .ok outcome⟩ ∧
        (schedule.withPlants plants).Sound ∧ plants[index]? = some plant := by
  rw [onPlant_apply]
  cases found : schedule.plants[index]? with
  | none => exact .inl ⟨_, rfl⟩
  | some plant =>
      have shaped := sound.stocked.plants plant (List.mem_of_getElem? found)
      have index_lt := (List.getElem?_eq_some_iff.mp found).1
      rcases shaped.setScaleAt_cases address values physical abstract with
        ⟨error, refused⟩ | ⟨result, notices, outcome, accepted, still, frame⟩
      · refine .inl ⟨error, ?_⟩
        dsimp only
        rw [refused]
        dsimp only
        rw [withPlants_set_self found]
      · refine .inr ⟨schedule.plants.set index result, result, notices, outcome, ?_, ?_, ?_⟩
        · dsimp only
          rw [accepted]
        · have horizon : result.horizon = plant.horizon := congrArg PlantData.horizon frame.data
          exact sound.withPlants
            (Change.set_forall₂ Plant.Kept.refl found ⟨fun _ => still, horizon⟩)
            (Change.set_forall₂ Plant.SameFrame.refl found frame)
        · rw [List.getElem?_set, if_pos rfl, if_pos index_lt]

theorem Sound.of_onPlant_setScaleAt (sound : schedule.Sound) {index : Nat} {address : Address}
    {values : List K} {physical abstract : Mode} {after : Schedule K} {notices : List Notice}
    {outcome : Outcome}
    (accepted : onPlant index (Plant.setScaleAt address values physical abstract) schedule =
      ⟨after, notices, .ok outcome⟩) : after.Sound := by
  rcases sound.onPlant_setScaleAt index address values physical abstract with
    ⟨error, refused⟩ | ⟨plants, _, _, _, run, kept, -⟩
  · cases accepted.symm.trans refused
  · cases accepted.symm.trans run
    exact kept

theorem Sound.completes_scalePlantAt (sound : schedule.Sound) (index : Nat)
    (address : Address) (values : List K) (physical abstract : Mode) :
    Attempt.Completes (scalePlantAt? index address values physical abstract)
      (scalePlantAt index address values physical abstract) schedule := by
  refine Attempt.Completes.bind ?_ fun outcome answered => ?_
  · apply Attempt.Completes.current
    apply Attempt.Completes.onPart
    refine Attempt.Completes.onMember (fun _ => rfl) fun plant found => ?_
    exact Plant.completes_setScaleAt (sound.stocked.plants plant (List.mem_of_getElem? found))
      address values physical abstract
  · rcases sound.onPlant_setScaleAt index address values physical abstract with
      ⟨error, refused⟩ | ⟨plants, plant, notices, outcome, accepted, kept, found⟩
    · rw [refused] at answered
      cases answered
    · rw [accepted]
      exact kept.completes_afterScale found _ abstract

theorem Sound.scalePlantAt_cases (sound : schedule.Sound) (index : Nat) (address : Address)
    (values : List K) (physical abstract : Mode) :
    (∃ error, scalePlantAt index address values physical abstract schedule =
        ⟨schedule, [], .error error⟩) ∨
      ∃ after notices outcome,
        scalePlantAt index address values physical abstract schedule =
          ⟨after, notices, .ok outcome⟩ ∧ after.Sound := by
  unfold scalePlantAt
  rcases sound.onPlant_setScaleAt index address values physical abstract with
    ⟨error, refused⟩ | ⟨plants, plant, notices, outcome, accepted, kept, found⟩
  · rw [Change.bind_error refused]
    exact .inl ⟨error, rfl⟩
  · obtain ⟨after, finished, last⟩ := kept.afterScale_accepted index outcome abstract
    rw [Change.bind_ok accepted, finished]
    exact .inr ⟨after, _, outcome, rfl, last⟩

end Schedule

end Dispatch
