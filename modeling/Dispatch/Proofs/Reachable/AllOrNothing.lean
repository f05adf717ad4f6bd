import Dispatch.Proofs.Reachable.Schedule

namespace Dispatch

/-! Updates of plants, networks and schedules. A call finds every entry that it looks up,
and one that is refused has neither written anything nor told anybody. Sizes are natural
numbers here and memory has no end. -/

variable {K : Type} [Scalar K]

namespace Plant

inductive Update (K : Type)
  | scale (factor : K) (physical abstract : Mode)
  | scaleAt (address : Address) (values : List K) (physical abstract : Mode)

def Update.run : Update K → Change (Plant K) Outcome
  | .scale factor physical abstract => setScale factor physical abstract
  | .scaleAt address values physical abstract => setScaleAt address values physical abstract

def Update.attempt : Update K → Attempt (Plant K) Outcome
  | .scale factor physical abstract => setScaleAt? (.range 0 1) [factor] physical abstract
  | .scaleAt address values physical abstract => setScaleAt? address values physical abstract

theorem Shaped.update {plant : Plant K} (shaped : plant.Shaped) (update : Update K) :
    AllOrNothing update.attempt update.run plant := by
  cases update with
  | scale factor physical abstract =>
      exact shaped.allOrNothing (.range 0 1) [factor] physical abstract
  | scaleAt address values physical abstract =>
      exact shaped.allOrNothing address values physical abstract

end Plant

namespace Schedule

inductive Update (K : Type)
  | scale (index : Nat) (factor : K) (physical abstract : Mode)
  | scaleAt (index : Nat) (address : Address) (values : List K) (physical abstract : Mode)
  | demand (address : Address) (values : List K) (physical abstract : Mode)

def Update.run : Update K → Change (Schedule K) Outcome
  | .scale index factor physical abstract => scalePlant index factor physical abstract
  | .scaleAt index address values physical abstract =>
      scalePlantAt index address values physical abstract
  | .demand address values physical abstract => setDemand address values physical abstract

def Update.attempt : Update K → Attempt (Schedule K) Outcome
  | .scale index factor physical abstract =>
      scalePlantAt? index (.range 0 1) [factor] physical abstract
  | .scaleAt index address values physical abstract =>
      scalePlantAt? index address values physical abstract
  | .demand address values physical abstract => setDemand? address values physical abstract

variable {schedule : Schedule K}

theorem Sound.allOrNothing_scalePlantAt (sound : schedule.Sound) (index : Nat)
    (address : Address) (values : List K) (physical abstract : Mode) :
    AllOrNothing (scalePlantAt? index address values physical abstract)
      (Schedule.scalePlantAt index address values physical abstract) schedule := by
  refine ⟨sound.completes_scalePlantAt index address values physical abstract, ?_⟩
  rcases sound.scalePlantAt_cases index address values physical abstract with
    ⟨error, refused⟩ | ⟨after, notices, outcome, accepted, _⟩
  · exact Change.atomic_of_error refused
  · exact Change.atomic_of_ok (congrArg Effect.result accepted)

theorem Sound.update (sound : schedule.Sound) (update : Update K) :
    AllOrNothing update.attempt update.run schedule := by
  cases update with
  | scale index factor physical abstract =>
      exact sound.allOrNothing_scalePlantAt index (.range 0 1) [factor] physical abstract
  | scaleAt index address values physical abstract =>
      exact sound.allOrNothing_scalePlantAt index address values physical abstract
  | demand address values physical abstract =>
      refine ⟨sound.completes_setDemand address values physical abstract, ?_⟩
      rcases sound.setDemand_cases address values physical abstract with
        ⟨error, refused⟩ | ⟨after, notices, outcome, accepted, _⟩
      · exact Change.atomic_of_error refused
      · exact Change.atomic_of_ok (congrArg Effect.result accepted)

theorem Sound.networkConstants (sound : schedule.Sound) (constants : List K) :
    (Schedule.setNetworkConstants constants).Atomic schedule := by
  rcases sound.setNetworkConstants_cases constants with ⟨error, refused⟩ | ⟨after, accepted, _⟩
  · exact Change.atomic_of_error refused
  · exact Change.atomic_of_ok (congrArg Effect.result accepted)

/-- What an update does after it has written the data is never refused. -/
structure Unfailing (schedule : Schedule K) : Prop where
  refreshes : ∀ abstract, ∃ after,
    refreshInjectionBounds abstract schedule = ⟨after, [], .ok ⟨⟩⟩
  patches : ∀ index, ∃ after, patchPlant index schedule = ⟨after, [], .ok ⟨⟩⟩
  forwards : schedule.isBus = false → ∀ entries abstract,
    (∀ entry ∈ entries, entry < schedule.extent) →
      ∃ after, forwardDemand entries abstract schedule = ⟨after, [], .ok ⟨⟩⟩

theorem Sound.unfailing (sound : schedule.Sound) : schedule.Unfailing where
  refreshes abstract := by
    obtain ⟨networks, accepted, _⟩ := sound.refreshInjectionBounds_accepted abstract
    exact ⟨_, accepted⟩
  patches index := by
    obtain ⟨after, accepted, _⟩ := sound.patchPlant_accepted index
    exact ⟨after, accepted⟩
  forwards several entries abstract within := by
    obtain ⟨after, accepted, _⟩ := sound.forwardDemand_accepted several within abstract
    exact ⟨after, accepted⟩

end Schedule

/-- Every update of every reachable block happens as a whole or not at all. -/
theorem allOrNothing_of_reachable :
    (∀ plant : Plant Float, plant.Reachable → ∀ update : Plant.Update Float,
      AllOrNothing update.attempt update.run plant) ∧
    (∀ network : Network Float, network.Reachable → ∀ update : Network.Update Float,
      AllOrNothing update.attempt update.run network) ∧
    ∀ schedule : Schedule Float, schedule.Reachable →
      (∀ update : Schedule.Update Float, AllOrNothing update.attempt update.run schedule) ∧
      (∀ constants, AllOrNothing (.ofChange (Schedule.setNetworkConstants constants))
        (Schedule.setNetworkConstants constants) schedule) ∧
      schedule.Unfailing := by
  refine ⟨fun plant reachable update => reachable.arises.shaped.update update,
    fun network reachable update => reachable.sound.shaped.allOrNothing update,
    fun schedule reachable => ⟨fun update => reachable.sound.update update,
      fun constants => ⟨Attempt.Completes.lift _ schedule,
        reachable.sound.networkConstants constants⟩, reachable.sound.unfailing⟩⟩

namespace Schedule

def soloData : PlantData Float where
  generators := 1
  horizon := 2
  minPower := [1, 1]
  maxPower := [5, 6]
  linearCost := []
  commitment := false
  primaryReserve := false
  secondaryReserve := false
  fixedConsumption := []
  inertiaPower := []
  inertiaCommitment := []

def duo : Schedule Float :=
  { (ofHorizon ⟨0⟩ 2 : Schedule Float) with
    nodes := 2
    plants := [
      { Plant.ofData ⟨1⟩ soloData with notifier := .own ⟨0⟩ },
      { Plant.ofData ⟨2⟩ soloData with notifier := .own ⟨0⟩ }]
    networks := [
      { (Network.bus ⟨3⟩).attach (.shared pairLine) with notifier := .own ⟨0⟩ },
      { (Network.bus ⟨4⟩).attach (.shared pairLine) with notifier := .own ⟨0⟩ }]
    generatorNode := [0, 1] }

theorem created_solo (number : Nat) :
    (Plant.ofData ⟨number⟩ soloData).Created PlantData.Shaped :=
  .new (PlantData.shaped_new (show PlantData.new 1 2 [1, 1] [5, 6] = .ok soloData from rfl))
    (show Plant.new soloData number = (.ok (Plant.ofData ⟨number⟩ soloData), number + 1) from rfl)

theorem reachable_duo : duo.Reachable := by
  have start : (ofHorizon ⟨0⟩ 2 : Schedule Float).Reachable := .start (created_ofHorizon 0 2)
  have filled := (start.step (.addPlant _) (.start (created_solo 1))).step (.addPlant _)
    (.start (created_solo 2))
  exact filled.setNetwork trivial
    (show Schedule.setNetwork _ pairLine [0, 1] 3 = (.ok duo, 5) from rfl)

end Schedule

theorem allOrNothing_of_reachable_duo :
    let generated := (Schedule.generateConstraints
      (Schedule.generateVariables Schedule.duo).state).state
    generated.stage = .constraints ∧
      AllOrNothing (Schedule.scalePlantAt? 1 (.subset [0] true) [3] .quiet .quiet)
        (Schedule.scalePlantAt 1 (.subset [0] true) [3] .quiet .quiet) generated := by
  refine ⟨by decide +kernel, ?_⟩
  have reachable := Schedule.reachable_duo.play [.generateVariables, .generateConstraints]
  exact (allOrNothing_of_reachable.2.2 _ reachable).1
    (.scaleAt 1 (.subset [0] true) [3] .quiet .quiet)

end Dispatch
