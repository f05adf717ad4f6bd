import Dispatch.Proofs.Change.Record
import Dispatch.Proofs.Reachable.AllOrNothing

namespace Dispatch

/-! Updates of a block, accounted for: what an applied one has written, and the one record it
has told of it by. What an update of a schedule makes of its members tells nobody. -/

variable {K : Type} [Scalar K]

namespace Plant

/-- Only the scale is new, and what has been generated from it. -/
structure ScaleWritten (address : Address) (values : List K) (before after : Plant K) :
    Prop where
  scale : Overwritten address values 1 1 [before.scale] [after.scale]
  rest : after = { before with scale := after.scale, objective := after.objective }

theorem accounted_setScaleAt (address : Address) (values : List K) (physical abstract : Mode)
    (plant : Plant K) :
    Accounted (setScaleAt address values physical abstract plant) plant
      (Recorded physical address plant.notifier plant.id .scale
          (setScaleAt address values physical abstract plant).notices ∧
        ScaleWritten address values plant
          (setScaleAt address values physical abstract plant).state) := by
  rw [setScaleAt_apply]
  split
  · exact .of_error _
  · exact .of_still (by simp)
  · rename_i selection selected
    rw [updateScale_apply]
    dsimp only
    split
    · exact .of_still (by simp)
    · split
      · exact .of_still (by simp)
      · rename_i writes
        cases moved : plant.withScale
            ((selection.write [plant.scale] 1 1 values).headD plant.scale) abstract with
        | error error => exact .of_error _
        | ok result =>
            have rest := withScale_rest moved
            have written : Overwritten address values 1 1 [plant.scale]
                (selection.write [plant.scale] 1 1 values) :=
              overwritten_write 1 selected (.inr rfl)
            obtain ⟨scale, single⟩ := List.length_eq_one_iff.mp written.length
            have same : result.scale = scale := by
              rw [rest, single]
              rfl
            refine .of_applied ⟨recorded_of_select (by simpa using writes) selected _ _ _, ?_, ?_⟩
            · rw [same, ← single]
              exact written
            · rw [same]
              rw [single] at rest
              exact rest

namespace Update

def address : Update K → Address
  | .scale _ _ _ => .range 0 1
  | .scaleAt address _ _ _ => address

def values : Update K → List K
  | .scale factor _ _ => [factor]
  | .scaleAt _ values _ _ => values

def physical : Update K → Mode
  | .scale _ physical _ => physical
  | .scaleAt _ _ physical _ => physical

/-- What an applied update announces. -/
def Announced (update : Update K) (plant : Plant K) (effect : Effect (Plant K) Outcome) :
    Prop :=
  Recorded update.physical update.address plant.notifier plant.id .scale effect.notices ∧
    ScaleWritten update.address update.values plant effect.state

theorem accounted (update : Update K) (plant : Plant K) :
    Accounted (update.run plant) plant (update.Announced plant (update.run plant)) := by
  cases update with
  | scale factor physical abstract =>
      exact accounted_setScaleAt (.range 0 1) [factor] physical abstract plant
  | scaleAt address values physical abstract =>
      exact accounted_setScaleAt address values physical abstract plant

end Update

end Plant

namespace Network

theorem patchFlowLimits_rest (network : Network K) (lines : List Nat) :
    network.patchFlowLimits lines =
      { network with rows := (network.patchFlowLimits lines).rows } := by
  unfold patchFlowLimits
  split <;> rfl

theorem patchDemand_rest (network : Network K) (entries : List Nat) :
    network.patchDemand entries =
      { network with rows := (network.patchDemand entries).rows } := by
  unfold patchDemand
  split
  · rfl
  · split <;> rfl

theorem withKappa_rest (network : Network K) (selection : Selection) (values : List K)
    (abstract : Mode) :
    network.withKappa selection values abstract =
      { network with
        kappa := selection.write network.kappa network.lines 1 values
        rows := (network.withKappa selection values abstract).rows } := by
  unfold Network.withKappa
  dsimp only
  split
  · rw [patchFlowLimits_rest]
    rfl
  · rfl

theorem withDemand_rest (network : Network K) (selection : Selection) (values : List K)
    (abstract : Mode) :
    network.withDemand selection values abstract =
      { network with
        demand := selection.write network.demand network.extent 0 values
        rows := (network.withDemand selection values abstract).rows } := by
  unfold Network.withDemand
  dsimp only
  split
  · rw [patchDemand_rest]
    rfl
  · rfl

theorem withInjectionBounds_rest (network : Network K) (minimum maximum : List K)
    (abstract : Mode) :
    network.withInjectionBounds minimum maximum abstract =
      { network with
        minInjection := minimum
        maxInjection := maximum
        rows := (network.withInjectionBounds minimum maximum abstract).rows } := by
  unfold Network.withInjectionBounds
  dsimp only
  split <;> rfl

/-- Only demand is new, and rows. -/
def Reloaded (before after : Network K) : Prop :=
  after = { before with demand := after.demand, rows := after.rows }

/-- Only injection bounds are new, and rows. -/
def Rebounded (before after : Network K) : Prop :=
  after = { before with
    minInjection := after.minInjection
    maxInjection := after.maxInjection
    rows := after.rows }

omit [Scalar K] in
theorem Reloaded.trans {first second third : Network K} (early : Reloaded first second)
    (late : Reloaded second third) : Reloaded first third := by
  unfold Reloaded at *
  rw [early] at late
  exact late

theorem reloaded_setDemand (address : Address) (values : List K) (physical abstract : Mode)
    (network : Network K) :
    Reloaded network (setDemand address values physical abstract network).state := by
  rcases setDemand_state address values physical abstract network with still | moved
  · rw [still]
    rfl
  · obtain ⟨selection, moved⟩ := moved
    have rest := withDemand_rest network selection values abstract
    rw [moved, Reloaded, rest]

theorem rebounded_setInjectionBounds (minimum maximum : List K) (physical abstract : Mode)
    (network : Network K) :
    Rebounded network
      (setInjectionBounds minimum maximum physical abstract network).state := by
  rcases setInjectionBounds_state minimum maximum physical abstract network with still | moved
  · rw [still]
    rfl
  · have rest := withInjectionBounds_rest network minimum maximum abstract
    rw [moved, Rebounded, rest]

/-- What an applied update announces. -/
def Update.Announced (network : Network K) (effect : Effect (Network K) Outcome) :
    Update K → Prop
  | .kappa address values physical _ =>
      Recorded physical address network.notifier network.id .kappa effect.notices ∧
        Overwritten address values network.lines 1 network.kappa effect.state.kappa ∧
        effect.state =
          { network with kappa := effect.state.kappa, rows := effect.state.rows }
  | .demand address values physical _ =>
      Recorded physical address network.notifier network.id .activeDemand effect.notices ∧
        Overwritten address values network.extent 0 network.demand effect.state.demand ∧
        network.Reloaded effect.state
  | .injectionBounds minimum maximum physical _ =>
      Recorded physical (.range 0 network.extent) network.notifier network.id
          .nodeInjectionBounds effect.notices ∧
        minimum.length = network.extent ∧ maximum.length = network.extent ∧
        effect.state = { network with
          minInjection := minimum, maxInjection := maximum, rows := effect.state.rows }

theorem accounted_setKappa {network : Network K} (shaped : network.Shaped) (address : Address)
    (values : List K) (physical abstract : Mode) :
    Accounted (setKappa address values physical abstract network) network
      (Update.Announced network (setKappa address values physical abstract network)
        (.kappa address values physical abstract)) := by
  rw [setKappa_apply]
  split
  · exact .of_error _
  · exact .of_still (by simp)
  · rename_i selection selected
    rw [updateKappa_apply]
    split
    · exact .of_still (by simp)
    · split
      · exact .of_still (by simp)
      · rename_i writes
        have rest := withKappa_rest network selection values abstract
        refine .of_applied ⟨recorded_of_select (by simpa using writes) selected _ _ _, ?_, ?_⟩
        · dsimp only
          rw [rest]
          exact overwritten_write 1 selected shaped.kappa
        · dsimp only
          rw [rest]

theorem accounted_setDemand {network : Network K} (shaped : network.Shaped)
    (address : Address) (values : List K) (physical abstract : Mode) :
    Accounted (setDemand address values physical abstract network) network
      (Update.Announced network (setDemand address values physical abstract network)
        (.demand address values physical abstract)) := by
  have moved := reloaded_setDemand address values physical abstract network
  rw [setDemand_apply] at moved ⊢
  split
  · exact .of_error _
  · exact .of_still (by simp)
  · rename_i selection selected
    rw [selected] at moved
    dsimp only at moved
    rw [updateDemand_apply] at moved ⊢
    split
    · exact .of_still (by simp)
    · split
      · exact .of_still (by simp)
      · rename_i differs writes
        rw [if_neg differs, if_neg writes] at moved
        refine .of_applied ⟨recorded_of_select (by simpa using writes) selected _ _ _, ?_, moved⟩
        dsimp only
        rw [withDemand_rest]
        exact overwritten_write 0 selected shaped.demand

theorem accounted_setInjectionBounds (minimum maximum : List K) (physical abstract : Mode)
    (network : Network K) :
    Accounted (setInjectionBounds minimum maximum physical abstract network) network
      (Update.Announced network (setInjectionBounds minimum maximum physical abstract network)
        (.injectionBounds minimum maximum physical abstract)) := by
  rw [setInjectionBounds_apply]
  split
  · exact .of_error _
  · rename_i minimumFits
    split
    · exact .of_error _
    · rename_i maximumFits
      split
      · exact .of_still (by simp)
      · split
        · exact .of_still (by simp)
        · rename_i writes
          exact .of_applied ⟨recorded_of_shows (by simpa using writes) (.range 0 network.extent)
            _ _ _, not_not.mp minimumFits, not_not.mp maximumFits,
            withInjectionBounds_rest network minimum maximum abstract⟩

theorem Update.accounted {network : Network K} (shaped : network.Shaped)
    (update : Update K) :
    Accounted (update.run network) network (Announced network (update.run network) update) := by
  cases update with
  | kappa address values physical abstract =>
      exact accounted_setKappa shaped address values physical abstract
  | demand address values physical abstract =>
      exact accounted_setDemand shaped address values physical abstract
  | injectionBounds minimum maximum physical abstract =>
      exact accounted_setInjectionBounds minimum maximum physical abstract network

end Network

namespace Schedule

/-- One plant has a new scale, from which the injection bounds of the networks and the linking
rows follow. -/
structure PlantWritten (index : Nat) (before after : Schedule K) (plant rescaled : Plant K) :
    Prop where
  found : before.plants[index]? = some plant
  plants : after.plants = before.plants.set index rescaled
  networks : List.Forall₂ Network.Rebounded before.networks after.networks
  rest : after = { before with
    plants := after.plants, networks := after.networks, links := after.links }

/-- Only demand is new, and what the networks and the linking rows make of it. -/
structure DemandWritten (address : Address) (values : List K) (before after : Schedule K) :
    Prop where
  demand : Overwritten address values before.extent 0 before.demand after.demand
  networks : List.Forall₂ Network.Reloaded before.networks after.networks
  rest : after = { before with
    demand := after.demand, networks := after.networks, links := after.links }

variable {schedule : Schedule K}

theorem rebounded_of_refresh {abstract : Mode} {networks : List (Network K)}
    (refreshed : refreshInjectionBounds abstract schedule =
      ⟨schedule.withNetworks networks, [], .ok ⟨⟩⟩) :
    List.Forall₂ Network.Rebounded schedule.networks networks := by
  have still (network : Network K) : Network.Rebounded network network := rfl
  exact refreshInjectionBounds_forall₂ still (fun minimum maximum network =>
    Network.rebounded_setInjectionBounds minimum maximum .quiet _ network) refreshed

/-- What follows a new scale moves injection bounds and linking rows without a notice. -/
theorem Sound.afterScale_rest (sound : schedule.Sound) (index : Nat) (outcome : Outcome)
    (abstract : Mode) :
    ∃ networks links, afterScale index outcome abstract schedule =
        ⟨(schedule.withNetworks networks).withLinks links, [], .ok outcome⟩ ∧
      List.Forall₂ Network.Rebounded schedule.networks networks := by
  have same : List.Forall₂ Network.Rebounded schedule.networks schedule.networks :=
    List.forall₂_same.mpr fun network _ => rfl
  rw [afterScale_apply]
  split
  · exact ⟨schedule.networks, schedule.links, rfl, same⟩
  · obtain ⟨networks, refreshed, members⟩ :=
      sound.refreshInjectionBounds_accepted abstract.silent
    have rebounded := rebounded_of_refresh refreshed
    rw [Change.bind_ok refreshed]
    split
    · obtain ⟨links, state, -⟩ := sameFrame_patchPlant index (schedule.withNetworks networks)
      obtain ⟨after, patched, -⟩ := (sound.withNetworks members).patchPlant_accepted index
      rw [patched] at state
      rw [Change.bind_ok patched]
      refine ⟨networks, links, ?_, rebounded⟩
      rw [← state]
      rfl
    · exact ⟨networks, schedule.links, rfl, rebounded⟩

theorem afterScale_of_still {outcome : Outcome} (other : outcome ≠ .applied) (index : Nat)
    (abstract : Mode) (schedule : Schedule K) :
    afterScale index outcome abstract schedule = ⟨schedule, [], .ok outcome⟩ := by
  rw [afterScale_apply, if_pos]
  rw [Bool.or_eq_true]
  exact .inl (bne_iff_ne.mpr other)

/-- The record of a new scale is that of the plant. -/
theorem Sound.accounted_scalePlantAt (sound : schedule.Sound) (index : Nat)
    (address : Address) (values : List K) (physical abstract : Mode) :
    let effect := Schedule.scalePlantAt index address values physical abstract schedule
    Accounted effect schedule (∃ plant rescaled,
      Recorded physical address plant.notifier plant.id .scale effect.notices ∧
        Plant.ScaleWritten address values plant rescaled ∧
        PlantWritten index schedule effect.state plant rescaled) := by
  dsimp only
  have part := onPlant_apply index (Plant.setScaleAt address values physical abstract) schedule
  unfold Schedule.scalePlantAt
  cases found : schedule.plants[index]? with
  | none =>
      rw [found] at part
      rw [Change.bind_error part]
      exact .of_error _
  | some plant =>
      rw [found] at part
      dsimp only at part
      have accounted := Plant.accounted_setScaleAt address values physical abstract plant
      generalize Plant.setScaleAt address values physical abstract plant = effect
        at part accounted
      obtain ⟨rescaled, notices, result⟩ := effect
      dsimp only at part accounted
      cases result with
      | error error =>
          rw [Change.bind_error part]
          exact .of_error _
      | ok outcome =>
          rw [Change.bind_ok part]
          by_cases applied : outcome = .applied
          · subst applied
            obtain ⟨recorded, written⟩ := accounted.applied rfl
            obtain ⟨networks, links, followed, rebounded⟩ :=
              (sound.of_onPlant_setScaleAt part).afterScale_rest index .applied abstract
            rw [followed, Effect.after_mk, List.append_nil]
            exact .of_applied ⟨plant, rescaled, recorded, written, found, rfl, rebounded, rfl⟩
          · obtain ⟨same, quiet⟩ := accounted.still outcome rfl applied
            dsimp only at same quiet
            subst same quiet
            rw [withPlants_set_self found, afterScale_of_still applied]
            exact .of_still applied

/-- Networks are told of a new demand entry by entry, and tell nobody. -/
theorem Sound.forwardDemand_rest (sound : schedule.Sound) (several : schedule.isBus = false)
    {entries : List Nat} (within : ∀ entry ∈ entries, entry < schedule.extent) (abstract : Mode) :
    ∃ networks, forwardDemand entries abstract schedule =
        ⟨schedule.withNetworks networks, [], .ok ⟨⟩⟩ ∧
      List.Forall₂ Network.Reloaded schedule.networks networks := by
  obtain ⟨after, forwarded, -⟩ := sound.forwardDemand_accepted several within abstract
  obtain ⟨state, reloaded⟩ := forwardDemand_forall₂ Network.Reloaded (fun _ => rfl)
    (fun _ _ _ => Network.Reloaded.trans)
    (fun address values network =>
      Network.reloaded_setDemand address values .quiet abstract network)
    entries schedule
  rw [forwarded] at state reloaded
  refine ⟨after.networks, ?_, reloaded⟩
  rw [forwarded, ← show after = _ from state]

theorem Sound.accounted_setDemand (sound : schedule.Sound) (address : Address)
    (values : List K) (physical abstract : Mode) :
    let effect := Schedule.setDemand address values physical abstract schedule
    Accounted effect schedule
      (Recorded physical address schedule.notifier schedule.id .activePowerDemand
          effect.notices ∧
        DemandWritten address values schedule effect.state) := by
  dsimp only
  rw [setDemand_apply]
  split
  · exact .of_error _
  · exact .of_still (by simp)
  · rename_i selection selected
    have within := (Address.select_sound selected).1
    have overwritten := overwritten_write 0 selected sound.stocked.demand
    have written := sound.withDemand overwritten.length
    rw [updateDemand_apply]
    dsimp only
    split
    · exact .of_still (by simp)
    · split
      · exact .of_still (by simp)
      · rename_i writes
        have recorded := recorded_of_select (by simpa using writes) selected schedule.notifier
          schedule.id .activePowerDemand
        split
        · refine .of_applied ⟨recorded, ?_⟩
          have same : List.Forall₂ Network.Reloaded schedule.networks schedule.networks :=
            List.forall₂_same.mpr fun network _ => rfl
          dsimp only
          unfold Schedule.withBusLevels
          split
          · exact ⟨overwritten, same, rfl⟩
          · exact ⟨overwritten, same, rfl⟩
        · rename_i several
          have networks : schedule.isBus = false := by simpa using several
          obtain ⟨members, forwarded, reloaded⟩ :=
            written.forwardDemand_rest networks within abstract.silent
          rw [forwarded]
          exact .of_applied ⟨recorded, overwritten, reloaded, rfl⟩

end Schedule

end Dispatch
