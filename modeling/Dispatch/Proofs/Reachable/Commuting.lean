import Dispatch.Proofs.Change.Orders
import Dispatch.Proofs.Reachable.Accounted

namespace Dispatch

/-! Updates of a network that have nothing in common can change places: either order gives both
answers and the network that the other order gives. -/

variable {K : Type} [Scalar K]

namespace Address

/-- A vector after an update through an address. A refused one leaves it alone, and so does one
that changes no entry. -/
def overwrite (address : Address) (what : String) (current : List K) (extent : Nat) (default : K)
    (values : List K) : List K :=
  match address.select extent values.length what with
  | .ok (some selection) =>
      if selection.differs current default values then
        selection.write current extent default values
      else current
  | _ => current

variable {address other : Address} {what : String} {current : List K} {extent : Nat}

theorem getD_overwrite (default : K) (values : List K) {index : Nat}
    (outside : index ∉ address.entries) :
    (address.overwrite what current extent default values).getD index default =
      current.getD index default := by
  unfold overwrite
  split
  · rename_i selection selected
    split
    · refine selection.getD_write_of_not_mem current extent default values ?_
      rwa [(select_shows selected).1]
    · rfl
  · rfl

/-- Overwriting different entries of a vector can be done in either order. -/
theorem overwrite_overwrite (shaped : current = [] ∨ current.length = extent) (default : K)
    (values others : List K) (apart : address.entries.Disjoint other.entries) :
    other.overwrite what (address.overwrite what current extent default values) extent default
        others =
      address.overwrite what (other.overwrite what current extent default others) extent default
        values := by
  unfold overwrite
  cases first : address.select extent values.length what with
  | error error => rfl
  | ok selected =>
      cases second : other.select extent others.length what with
      | error error => rfl
      | ok found =>
          cases selected with
          | none => rfl
          | some selection =>
              cases found with
              | none => rfl
              | some later =>
                  have disjoint : selection.indices.Disjoint later.indices := by
                    rwa [(select_shows first).1, (select_shows second).1]
                  have forward := selection.differs_write later current extent default values
                    others disjoint
                  have backward := later.differs_write selection current extent default others
                    values fun _ member earlier => disjoint earlier member
                  have writes := selection.write_write later shaped default values others disjoint
                  dsimp only
                  by_cases early : selection.differs current default values = true
                  · by_cases late : later.differs current default others = true
                    · simp only [early, late, forward, backward, if_true, writes]
                    · simp only [early, late, forward, if_true, Bool.false_eq_true, if_false]
                  · by_cases late : later.differs current default others = true
                    · simp only [early, late, backward, if_true, Bool.false_eq_true, if_false]
                    · simp only [early, late, Bool.false_eq_true, if_false]

end Address

namespace Network

/-- A change of the data of a network. The constant of the objective is set without an answer. -/
inductive Revision (K : Type)
  | update (change : Update K)
  | constantTerm (constant : K)

namespace Revision

def run : Revision K → Change (Network K) (Option Outcome)
  | .update change => do
      let outcome ← change.run
      return some outcome
  | .constantTerm constant => do
      setConstantTerm constant
      return none

def Writes : Revision K → Prop
  | .update (.kappa _ _ physical abstract) => physical.writes = true ∧ abstract.writes = true
  | .update (.demand _ _ physical abstract) => physical.writes = true ∧ abstract.writes = true
  | .update (.injectionBounds _ _ physical abstract) =>
      physical.writes = true ∧ abstract.writes = true
  | .constantTerm _ => True

/-- The revisions change different quantities, or different entries of one. -/
def Apart : Revision K → Revision K → Prop
  | .update (.kappa first _ _ _), .update (.kappa second _ _ _) =>
      first.entries.Disjoint second.entries
  | .update (.demand first _ _ _), .update (.demand second _ _ _) =>
      first.entries.Disjoint second.entries
  | .update (.injectionBounds _ _ _ _), .update (.injectionBounds _ _ _ _) => False
  | .constantTerm _, .constantTerm _ => False
  | _, _ => True

omit [Scalar K] in
theorem Apart.symm {first second : Revision K} (apart : first.Apart second) :
    second.Apart first := by
  cases first with
  | constantTerm constant =>
      cases second with
      | constantTerm other => exact apart
      | update other => cases other <;> trivial
  | update change =>
      cases second with
      | constantTerm constant => cases change <;> trivial
      | update other =>
          cases change <;> cases other <;>
            first | exact fun _ member earlier => apart earlier member | exact apart

/-- Whether the network takes injection bounds, and not only because it has them already. -/
def renews (minimum maximum : List K) (network : Network K) : Bool :=
  decide (minimum.length = network.extent) && decide (maximum.length = network.extent) &&
    !(Scalar.same minimum network.minInjection && Scalar.same maximum network.maxInjection)

/-- What a revision makes of the data alone. -/
def revise (network : Network K) : Revision K → Network K
  | .update (.kappa address values _ _) =>
      { network with
        kappa := address.overwrite "line" network.kappa network.lines 1 values }
  | .update (.demand address values _ _) =>
      { network with
        demand := address.overwrite "demand" network.demand network.extent 0 values }
  | .update (.injectionBounds minimum maximum _ _) =>
      { network with
        minInjection := if renews minimum maximum network then minimum else network.minInjection
        maxInjection := if renews minimum maximum network then maximum else network.maxInjection }
  | .constantTerm constant => { network with constantTerm := constant }

variable {network : Network K}

theorem run_update (change : Update K) (network : Network K) :
    (Revision.update change).run network =
      ⟨(change.run network).state, (change.run network).notices,
        (change.run network).result.map some⟩ := by
  rw [run, Change.bind_apply]
  cases (change.run network).result with
  | error error => rfl
  | ok outcome =>
      simp only [Change.pure_apply, Effect.after_mk, List.append_nil]
      rfl

theorem stripped_setKappa (address : Address) (values : List K) {physical abstract : Mode}
    (writes : physical.writes = true) (network : Network K) :
    (setKappa address values physical abstract network).state.stripped =
      revise network.stripped (.update (.kappa address values physical abstract)) := by
  have kappa : network.stripped.kappa = network.kappa := rfl
  have lines : network.stripped.lines = network.lines := rfl
  rw [setKappa_apply, revise, Address.overwrite, kappa, lines]
  cases address.select network.lines values.length "line" with
  | error error => rfl
  | ok selected =>
      cases selected with
      | none => rfl
      | some selection =>
          dsimp only
          rw [updateKappa_apply]
          cases differs : selection.differs network.kappa 1 values with
          | false => rfl
          | true =>
              simp only [writes, Bool.not_true, Bool.false_eq_true, if_false, if_true]
              rw [withKappa_rest]
              rfl

theorem stripped_setDemand (address : Address) (values : List K) {physical abstract : Mode}
    (writes : physical.writes = true) (network : Network K) :
    (setDemand address values physical abstract network).state.stripped =
      revise network.stripped (.update (.demand address values physical abstract)) := by
  have demand : network.stripped.demand = network.demand := rfl
  have extent : network.stripped.extent = network.extent := rfl
  rw [setDemand_apply, revise, Address.overwrite, demand, extent]
  cases address.select network.extent values.length "demand" with
  | error error => rfl
  | ok selected =>
      cases selected with
      | none => rfl
      | some selection =>
          dsimp only
          rw [updateDemand_apply]
          cases differs : selection.differs network.demand 0 values with
          | false => rfl
          | true =>
              simp only [writes, Bool.not_true, Bool.false_eq_true, if_false, if_true]
              rw [withDemand_rest]
              rfl

theorem stripped_setInjectionBounds (minimum maximum : List K) {physical abstract : Mode}
    (writes : physical.writes = true) (network : Network K) :
    (setInjectionBounds minimum maximum physical abstract network).state.stripped =
      revise network.stripped
        (.update (.injectionBounds minimum maximum physical abstract)) := by
  have renewed : renews minimum maximum network.stripped = renews minimum maximum network := rfl
  rw [setInjectionBounds_apply, revise, renewed, renews]
  by_cases minFits : minimum.length = network.extent
  · by_cases maxFits : maximum.length = network.extent
    · cases (Scalar.same minimum network.minInjection &&
          Scalar.same maximum network.maxInjection) with
      | true =>
          simp only [minFits, maxFits, ne_eq, not_true, if_false, if_true, Bool.not_true,
            Bool.and_false, Bool.false_eq_true]
      | false =>
          simp only [minFits, maxFits, writes, ne_eq, not_true, if_false, Bool.false_eq_true,
            Bool.not_true, Bool.not_false, decide_true, Bool.and_true, if_true]
          rw [withInjectionBounds_rest]
          rfl
    · simp [minFits, maxFits, stripped]
  · simp [minFits, stripped]

theorem stripped_run {revision : Revision K} (writes : revision.Writes) (network : Network K) :
    (revision.run network).state.stripped = revision.revise network.stripped := by
  cases revision with
  | constantTerm constant => rfl
  | update change =>
      rw [run_update]
      cases change with
      | kappa address values physical abstract =>
          exact stripped_setKappa address values writes.1 network
      | demand address values physical abstract =>
          exact stripped_setDemand address values writes.1 network
      | injectionBounds minimum maximum physical abstract =>
          exact stripped_setInjectionBounds minimum maximum writes.1 network

/-- What a revision reads is the same in both networks. -/
def Alike (before after : Network K) : Revision K → Prop
  | .update (.kappa address _ _ _) =>
      after.lines = before.lines ∧
        ∀ line ∈ address.entries, after.kappa.getD line 1 = before.kappa.getD line 1
  | .update (.demand address _ _ _) =>
      after.extent = before.extent ∧
        ∀ entry ∈ address.entries, after.demand.getD entry 0 = before.demand.getD entry 0
  | .update (.injectionBounds _ _ _ _) =>
      after.extent = before.extent ∧ after.minInjection = before.minInjection ∧
        after.maxInjection = before.maxInjection
  | .constantTerm _ => True

theorem result_setKappa (address : Address) (values : List K) {physical abstract : Mode}
    {before after : Network K} (lines : after.lines = before.lines)
    (kappa : ∀ line ∈ address.entries, after.kappa.getD line 1 = before.kappa.getD line 1) :
    (setKappa address values physical abstract after).result =
      (setKappa address values physical abstract before).result := by
  rw [setKappa_apply, setKappa_apply, lines]
  cases selected : address.select before.lines values.length "line" with
  | error error => rfl
  | ok found =>
      cases found with
      | none => rfl
      | some selection =>
          have differs : selection.differs after.kappa 1 values =
              selection.differs before.kappa 1 values :=
            selection.differs_congr 1 values fun index member =>
              kappa index ((Address.select_shows selected).1 ▸ member)
          dsimp only
          rw [updateKappa_apply, updateKappa_apply, differs]
          split
          · rfl
          · split <;> rfl

theorem result_setDemand (address : Address) (values : List K) {physical abstract : Mode}
    {before after : Network K} (extent : after.extent = before.extent)
    (demand : ∀ entry ∈ address.entries,
      after.demand.getD entry 0 = before.demand.getD entry 0) :
    (setDemand address values physical abstract after).result =
      (setDemand address values physical abstract before).result := by
  rw [setDemand_apply, setDemand_apply, extent]
  cases selected : address.select before.extent values.length "demand" with
  | error error => rfl
  | ok found =>
      cases found with
      | none => rfl
      | some selection =>
          have differs : selection.differs after.demand 0 values =
              selection.differs before.demand 0 values :=
            selection.differs_congr 0 values fun index member =>
              demand index ((Address.select_shows selected).1 ▸ member)
          dsimp only
          rw [updateDemand_apply, updateDemand_apply, differs]
          split
          · rfl
          · split <;> rfl

theorem Alike.result_run {revision : Revision K} {before after : Network K}
    (alike : revision.Alike before after) :
    (revision.run after).result = (revision.run before).result := by
  cases revision with
  | constantTerm constant => rfl
  | update change =>
      rw [run_update, run_update]
      refine congrArg (Except.map some) ?_
      cases change with
      | kappa address values physical abstract =>
          exact result_setKappa address values alike.1 alike.2
      | demand address values physical abstract =>
          exact result_setDemand address values alike.1 alike.2
      | injectionBounds minimum maximum physical abstract =>
          obtain ⟨extent, least, greatest⟩ := alike
          simp only [Update.run, setInjectionBounds_apply, extent, least, greatest]
          split
          · rfl
          · split
            · rfl
            · split
              · rfl
              · split <;> rfl

/-- A revision leaves what another reads. -/
theorem Apart.alike {first second : Revision K} (apart : first.Apart second)
    (network : Network K) : second.Alike network (first.revise network) := by
  cases first with
  | constantTerm constant =>
      cases second with
      | constantTerm other => exact apart.elim
      | update other =>
          cases other with
          | kappa address values physical abstract => exact ⟨rfl, fun _ _ => rfl⟩
          | demand address values physical abstract => exact ⟨rfl, fun _ _ => rfl⟩
          | injectionBounds minimum maximum physical abstract => exact ⟨rfl, rfl, rfl⟩
  | update change =>
      cases second with
      | constantTerm constant => trivial
      | update other =>
          cases change <;> cases other
          case kappa.kappa =>
            exact ⟨rfl, fun _ member => Address.getD_overwrite 1 _ fun earlier =>
              apart earlier member⟩
          case demand.demand =>
            exact ⟨rfl, fun _ member => Address.getD_overwrite 0 _ fun earlier =>
              apart earlier member⟩
          case injectionBounds.injectionBounds => exact apart.elim
          all_goals first | exact ⟨rfl, fun _ _ => rfl⟩ | exact ⟨rfl, rfl, rfl⟩

/-- On the data alone two revisions change places. -/
theorem Apart.revise_revise {first second : Revision K} (apart : first.Apart second)
    (kappa : network.kappa = [] ∨ network.kappa.length = network.lines)
    (demand : network.demand = [] ∨ network.demand.length = network.extent) :
    second.revise (first.revise network) = first.revise (second.revise network) := by
  cases first with
  | constantTerm constant =>
      cases second with
      | constantTerm other => exact apart.elim
      | update other => cases other <;> rfl
  | update change =>
      cases second with
      | constantTerm constant => cases change <;> rfl
      | update other =>
          cases change <;> cases other
          case kappa.kappa =>
            exact congrArg (fun kappa => { network with kappa })
              (Address.overwrite_overwrite kappa 1 _ _ apart)
          case demand.demand =>
            exact congrArg (fun demand => { network with demand })
              (Address.overwrite_overwrite demand 0 _ _ apart)
          case injectionBounds.injectionBounds => exact apart.elim
          all_goals rfl

theorem patchFlowLimits_withStore (store : Store K) (lines : List Nat) (network : Network K) :
    ({ network with store } : Network K).patchFlowLimits lines =
      { network.patchFlowLimits lines with store } := by
  have topology : ({ network with store } : Network K).topology? = network.topology? := rfl
  unfold patchFlowLimits
  rw [topology]
  cases network.topology? <;> rfl

theorem patchDemand_withStore (store : Store K) (entries : List Nat) (network : Network K) :
    ({ network with store } : Network K).patchDemand entries =
      { network.patchDemand entries with store } := by
  have topology : ({ network with store } : Network K).topology? = network.topology? := rfl
  unfold patchDemand
  rw [topology]
  cases network.topology? with
  | none => rfl
  | some topology =>
      dsimp only
      cases network.rows.flowLimits.kind <;> rfl

theorem withKappa_withStore (selection : Selection) (values : List K) (abstract : Mode)
    (store : Store K) (network : Network K) :
    ({ network with store } : Network K).withKappa selection values abstract =
      { network.withKappa selection values abstract with store } := by
  unfold Network.withKappa
  dsimp only
  split
  · exact patchFlowLimits_withStore store selection.indices
      (network.reloaded network.demand (selection.write network.kappa network.lines 1 values))
  · rfl

theorem withDemand_withStore (selection : Selection) (values : List K) (abstract : Mode)
    (store : Store K) (network : Network K) :
    ({ network with store } : Network K).withDemand selection values abstract =
      { network.withDemand selection values abstract with store } := by
  unfold Network.withDemand
  dsimp only
  split
  · exact patchDemand_withStore store selection.indices
      (network.reloaded (selection.write network.demand network.extent 0 values) network.kappa)
  · rfl

theorem withInjectionBounds_withStore (minimum maximum : List K) (abstract : Mode)
    (store : Store K) (network : Network K) :
    ({ network with store } : Network K).withInjectionBounds minimum maximum abstract =
      { network.withInjectionBounds minimum maximum abstract with store } := by
  unfold Network.withInjectionBounds
  dsimp only
  split <;> rfl

theorem setKappa_withStore (address : Address) (values : List K) (physical abstract : Mode)
    (store : Store K) (network : Network K) :
    (setKappa address values physical abstract { network with store }).state =
      { (setKappa address values physical abstract network).state with store } := by
  have lines : ({ network with store } : Network K).lines = network.lines := rfl
  rw [setKappa_apply, setKappa_apply, lines]
  cases address.select network.lines values.length "line" with
  | error error => rfl
  | ok selected =>
      cases selected with
      | none => rfl
      | some selection =>
          dsimp only
          rw [updateKappa_apply, updateKappa_apply]
          split
          · rfl
          · split
            · rfl
            · exact withKappa_withStore selection values abstract store network

theorem setDemand_withStore (address : Address) (values : List K) (physical abstract : Mode)
    (store : Store K) (network : Network K) :
    (setDemand address values physical abstract { network with store }).state =
      { (setDemand address values physical abstract network).state with store } := by
  have extent : ({ network with store } : Network K).extent = network.extent := rfl
  rw [setDemand_apply, setDemand_apply, extent]
  cases address.select network.extent values.length "demand" with
  | error error => rfl
  | ok selected =>
      cases selected with
      | none => rfl
      | some selection =>
          dsimp only
          rw [updateDemand_apply, updateDemand_apply]
          split
          · rfl
          · split
            · rfl
            · exact withDemand_withStore selection values abstract store network

theorem setInjectionBounds_withStore (minimum maximum : List K) (physical abstract : Mode)
    (store : Store K) (network : Network K) :
    (setInjectionBounds minimum maximum physical abstract { network with store }).state =
      { (setInjectionBounds minimum maximum physical abstract network).state with store } := by
  have extent : ({ network with store } : Network K).extent = network.extent := rfl
  rw [setInjectionBounds_apply, setInjectionBounds_apply, extent]
  split
  · rfl
  · split
    · rfl
    · split
      · rfl
      · split
        · rfl
        · exact withInjectionBounds_withStore minimum maximum abstract store network

/-- No revision looks at the values of the variables. -/
theorem run_withStore (revision : Revision K) (store : Store K) (network : Network K) :
    (revision.run { network with store }).state =
      { (revision.run network).state with store } := by
  cases revision with
  | constantTerm constant => rfl
  | update change =>
      rw [run_update, run_update]
      cases change with
      | kappa address values physical abstract =>
          exact setKappa_withStore address values physical abstract store network
      | demand address values physical abstract =>
          exact setDemand_withStore address values physical abstract store network
      | injectionBounds minimum maximum physical abstract =>
          exact setInjectionBounds_withStore minimum maximum physical abstract store network

theorem run_run_withStore (first second : Revision K) (store : Store K) (network : Network K) :
    (second.run (first.run { network with store }).state).state =
      { (second.run (first.run network).state).state with store } := by
  rw [run_withStore first]
  exact run_withStore second store _

omit [Scalar K] in
theorem eq_of_withStore {one other : Network K} (store : Store K)
    (same : ({ one with store } : Network K) = { other with store })
    (values : one.store = other.store) : one = other := by
  cases one
  cases other
  cases values
  cases same
  rfl

/-- What no revision changes. -/
theorem kept_run (revision : Revision K) (network : Network K) :
    (revision.run network).state.stage = network.stage ∧
      (revision.run network).state.store = network.store := by
  cases revision with
  | constantTerm constant => exact ⟨rfl, rfl⟩
  | update change =>
      rw [run_update]
      cases change with
      | kappa address values physical abstract =>
          rcases setKappa_state address values physical abstract network with
            still | ⟨selection, moved⟩
          · exact ⟨congrArg Network.stage still, congrArg Network.store still⟩
          · rw [withKappa_rest] at moved
            exact ⟨(congrArg Network.stage moved).trans rfl,
              (congrArg Network.store moved).trans rfl⟩
      | demand address values physical abstract =>
          rcases setDemand_state address values physical abstract network with
            still | ⟨selection, moved⟩
          · exact ⟨congrArg Network.stage still, congrArg Network.store still⟩
          · rw [withDemand_rest] at moved
            exact ⟨(congrArg Network.stage moved).trans rfl,
              (congrArg Network.store moved).trans rfl⟩
      | injectionBounds minimum maximum physical abstract =>
          rcases setInjectionBounds_state minimum maximum physical abstract network with
            still | moved
          · exact ⟨congrArg Network.stage still, congrArg Network.store still⟩
          · rw [withInjectionBounds_rest] at moved
            exact ⟨(congrArg Network.stage moved).trans rfl,
              (congrArg Network.store moved).trans rfl⟩

theorem inStep_run {revision : Revision K} (writes : revision.Writes) (inStep : network.InStep) :
    (revision.run network).state.InStep := by
  cases revision with
  | constantTerm constant => exact inStep.withConstant constant
  | update change =>
      rw [run_update]
      cases change with
      | kappa address values physical abstract =>
          exact inStep.setKappa address values physical writes.2
      | demand address values physical abstract =>
          exact inStep.setDemand address values physical writes.2
      | injectionBounds minimum maximum physical abstract =>
          exact inStep.setInjectionBounds minimum maximum physical writes.2

end Revision

/-- A network in step is determined by its data and its stage. -/
theorem InStep.eq_of_stripped {first second : Network K} (early : first.InStep)
    (late : second.InStep) (stage : first.stage = second.stage)
    (data : first.stripped = second.stripped) : first = second := by
  rw [InStep, stage, data] at early
  exact Except.ok.inj (early.symm.trans late)

/-- In step whatever the variables hold. -/
def InStepButValues (network : Network K) : Prop :=
  ∃ store, ({ network with store } : Network K).InStep

namespace Revision

variable {network : Network K} {first second : Revision K}

theorem Apart.alike_run (apart : first.Apart second) (writes : first.Writes)
    (network : Network K) : second.Alike network (first.run network).state := by
  have data := stripped_run writes network
  have alike := apart.alike network.stripped
  rw [← data] at alike
  exact (by cases second with
    | constantTerm constant => trivial
    | update change => cases change <;> exact alike)

/-- In step, two revisions that are apart change places. -/
theorem Apart.run_run (apart : first.Apart second) (firstWrites : first.Writes)
    (secondWrites : second.Writes) (inStep : network.InStep)
    (kappa : network.kappa = [] ∨ network.kappa.length = network.lines)
    (demand : network.demand = [] ∨ network.demand.length = network.extent) :
    (second.run (first.run network).state).state =
      (first.run (second.run network).state).state := by
  refine (inStep_run secondWrites (inStep_run firstWrites inStep)).eq_of_stripped
    (inStep_run firstWrites (inStep_run secondWrites inStep)) ?_ ?_
  · rw [(kept_run _ _).1, (kept_run _ _).1, (kept_run _ _).1, (kept_run _ _).1]
  · rw [stripped_run secondWrites, stripped_run firstWrites, stripped_run firstWrites,
      stripped_run secondWrites]
    exact apart.revise_revise kappa demand

/-- The same whatever the variables hold. -/
theorem Apart.run_run_of_values (apart : first.Apart second) (firstWrites : first.Writes)
    (secondWrites : second.Writes) (inStep : network.InStepButValues)
    (kappa : network.kappa = [] ∨ network.kappa.length = network.lines)
    (demand : network.demand = [] ∨ network.demand.length = network.extent) :
    (second.run (first.run network).state).state =
      (first.run (second.run network).state).state := by
  obtain ⟨store, inStep⟩ := inStep
  refine eq_of_withStore store ?_ ?_
  · rw [← run_run_withStore, ← run_run_withStore]
    exact apart.run_run firstWrites secondWrites inStep kappa demand
  · rw [(kept_run _ _).2, (kept_run _ _).2, (kept_run _ _).2, (kept_run _ _).2]

end Revision

/-- Successful updates of different quantities, or of different entries, can be made in either
order: both answer the same, and the networks are equal. -/
theorem Reachable.commutes {network : Network Float} (reachable : network.Reachable)
    (inStep : network.InStepButValues) {first second : Revision Float}
    (apart : first.Apart second) (firstWrites : first.Writes) (secondWrites : second.Writes)
    {firstAnswer secondAnswer : Option Outcome}
    (firstTaken : (first.run network).result = .ok firstAnswer)
    (secondTaken : (second.run network).result = .ok secondAnswer) :
    (second.run (first.run network).state).result = .ok secondAnswer ∧
      (first.run (second.run network).state).result = .ok firstAnswer ∧
      (second.run (first.run network).state).state =
        (first.run (second.run network).state).state := by
  have shaped := reachable.sound.shaped
  refine ⟨?_, ?_, apart.run_run_of_values firstWrites secondWrites inStep shaped.kappa
    shaped.demand⟩
  · rw [(apart.alike_run firstWrites network).result_run, secondTaken]
  · rw [(apart.symm.alike_run secondWrites network).result_run, firstTaken]

/-- Three nodes in a ring of one direct line and two AC lines. -/
def mixedRing : Descriptor Float :=
  .dc
    { (DcData.bus : DcData Float) with
      nodes := 3
      start := [0, 1, 2]
      finish := [1, 2, 0]
      minFlow := [-1, -1, -1]
      maxFlow := [1, 1, 1]
      susceptance := [0, 1, 1]
      factors := some [0, 0, 0, 1, 0, 0, 0, 1, 0] }

def overMixedRing : Network Float :=
  (generateConstraints (generateVariables
    (setIntervals 2 ((bus ⟨0⟩).attach (.owned mixedRing))).state).state).state

theorem reachable_overMixedRing : overMixedRing.Reachable := by
  have attached : ((bus ⟨0⟩ : Network Float).attach (.owned mixedRing)).Reachable :=
    .start (.ofDescriptor (show ofDescriptor (.owned mixedRing) 0 =
      (.ok ((bus ⟨0⟩).attach (.owned mixedRing)), 1) from rfl))
  exact Reachable.play (attached.step (.setIntervals 2) trivial)
    [.generateVariables, .generateConstraints]

/-- Kappa and demand of one AC line are both new, and neither vector was written before. -/
theorem Reachable.commutes_overMixedRing :
    let first : Revision Float := .update (.kappa (.subset [1] true) [2] .quiet .quiet)
    let second : Revision Float := .update (.demand (.range 1 3) [5, 6] .quiet .quiet)
    overMixedRing.stage = .constraints ∧ overMixedRing.InStepButValues ∧
      (first.run overMixedRing).result = .ok (some .applied) ∧
      (second.run (first.run overMixedRing).state).state =
        (first.run (second.run overMixedRing).state).state := by
  intro first second
  have attached : ((bus ⟨0⟩ : Network Float).attach (.owned mixedRing)).Bare := rfl
  have inStep : overMixedRing.InStep :=
    (inStep_of_stripped (attached.setIntervals 2)).generateVariables.generateConstraints
  have applied : (first.run overMixedRing).result = .ok (some .applied) := by decide +kernel
  refine ⟨by decide +kernel, ⟨overMixedRing.store, inStep⟩, applied, ?_⟩
  exact (reachable_overMixedRing.commutes ⟨overMixedRing.store, inStep⟩
    (show first.Apart second from trivial) (show first.Writes from ⟨rfl, rfl⟩)
    (show second.Writes from ⟨rfl, rfl⟩) applied
    (show (second.run overMixedRing).result = .ok (some .applied) by decide +kernel)).2.2

end Network

end Dispatch
