import Dispatch.Proofs.Attempt.Network
import Dispatch.Proofs.Group.Runs
import Dispatch.Proofs.Network.Incremental
import Dispatch.Proofs.Reached

namespace Dispatch.Network

/-! Networks that a program can arrive at. All of them have their shape, so that every
update happens as a whole or not at all. -/

variable {K : Type}

inductive Update (K : Type)
  | kappa (address : Address) (values : List K) (physical abstract : Mode)
  | demand (address : Address) (values : List K) (physical abstract : Mode)
  | injectionBounds (minimum maximum : List K) (physical abstract : Mode)

namespace Update

variable [Scalar K]

def run : Update K → Change (Network K) Outcome
  | .kappa address values physical abstract => setKappa address values physical abstract
  | .demand address values physical abstract => setDemand address values physical abstract
  | .injectionBounds minimum maximum physical abstract =>
      setInjectionBounds minimum maximum physical abstract

def attempt : Update K → Attempt (Network K) Outcome
  | .kappa address values physical abstract => setKappa? address values physical abstract
  | .demand address values physical abstract => setDemand? address values physical abstract
  | .injectionBounds minimum maximum physical abstract =>
      setInjectionBounds? minimum maximum physical abstract

end Update

/-- Without constraints an update has no rows to look at. -/
structure Sound (network : Network K) : Prop where
  shaped : network.Shaped
  limits : network.stage.hasConstraints = false → network.rows.flowLimits.kind = .none
  acLines : network.stage.hasConstraints = false → network.rows.acLines = []
  bounds : network.stage.hasConstraints = false →
    network.rows.injectionBounds.items.length = 0

variable {network : Network K}

theorem Sound.congr {other : Network K} (sound : network.Sound)
    (same : network.SameFrame other)
    (kappa : other.kappa = [] ∨ other.kappa.length = other.lines)
    (demand : other.demand = [] ∨ other.demand.length = other.extent) : other.Sound where
  shaped := sound.shaped.congr same kappa demand
  limits early := by
    rw [same.kind]
    exact sound.limits (same.stage ▸ early)
  acLines early := by
    rw [same.acLines]
    exact sound.acLines (same.stage ▸ early)
  bounds early := by
    rw [same.bounds]
    exact sound.bounds (same.stage ▸ early)

/-- What has no rows only needs arrays of the right sizes. -/
theorem sound_of_early {other : Network K} (sound : network.Sound)
    (early : network.stage.hasConstraints = false) (rows : other.rows = network.rows)
    (kappa : other.kappa = [] ∨ other.kappa.length = other.lines)
    (demand : other.demand = [] ∨ other.demand.length = other.extent) : other.Sound := by
  have limits := rows ▸ sound.limits early
  have acLines := rows ▸ sound.acLines early
  have bounds := rows ▸ sound.bounds early
  refine ⟨⟨kappa, demand, fun present => absurd limits present, ?_, ?_⟩, fun _ => limits,
    fun _ => acLines, fun _ => bounds⟩
  · rw [acLines]
    simp
  · rw [bounds]
    exact Nat.zero_le _

variable [Scalar K]

theorem sound_bus (id : BlockId) : (bus id : Network K).Sound :=
  ⟨⟨.inl rfl, .inl rfl, fun present => absurd rfl present, by simp [bus, NetworkRows.none],
    Nat.zero_le _⟩, fun _ => rfl, fun _ => rfl, fun _ => rfl⟩

omit [Scalar K] in
theorem refuseIfGenerated_bind {α : Type} (part : Network K → FrozenPart)
    (next : PUnit → Change (Network K) α) (network : Network K) :
    (refuseIfGenerated part >>= next) network =
      if network.stage.hasVariables then ⟨network, [], .error (.frozen (part network))⟩
      else next ⟨⟩ network := by
  cases generated : network.stage.hasVariables with
  | true =>
      have refused : refuseIfGenerated part network =
          ⟨network, [], .error (.frozen (part network))⟩ := by
        unfold refuseIfGenerated
        rw [Change.current_bind, generated]
        rfl
      rw [Change.bind_error refused]
      rfl
  | false =>
      rw [Change.bind_ok (refuseIfGenerated_of_early generated part)]
      rfl

theorem Sound.attach (sound : network.Sound) (bare : network.stage.hasVariables = false)
    (descriptor : Holding (Descriptor K)) : (network.attach descriptor).Sound :=
  sound_of_early sound (Stage.hasConstraints_of_bare bare) rfl (.inl rfl) (.inl rfl)

theorem setDescriptor_cases (descriptor : Holding (Descriptor K)) (network : Network K) :
    (Network.setDescriptor descriptor network).state = network ∨
      network.stage.hasVariables = false ∧
        (Network.setDescriptor descriptor network).state = network.attach descriptor := by
  unfold Network.setDescriptor
  rw [refuseIfGenerated_bind]
  split
  · exact .inl rfl
  · rename_i bare
    exact .inr ⟨by simpa using bare, rfl⟩

omit [Scalar K] in
theorem editDescriptor_cases (edit : DcData.Edit K) (network : Network K) :
    (Network.editDescriptor edit network).state = network ∨
      network.stage.hasVariables = false ∧ ∃ data result,
        network.editableDescriptor = .ok (.dc data) ∧ data.edited edit = .ok result ∧
          (Network.editDescriptor edit network).state =
            { network with descriptor := some (.owned (.dc result)) } := by
  unfold Network.editDescriptor
  rw [refuseIfGenerated_bind]
  split
  · exact .inl rfl
  · rename_i bare
    rw [Change.current_bind]
    cases held : network.editableDescriptor with
    | error error => exact .inl rfl
    | ok descriptor =>
        rw [Change.require_ok_bind]
        cases descriptor with
        | extension outside => exact .inl rfl
        | dc data =>
            dsimp only
            cases edited : data.edited edit with
            | error error => exact .inl rfl
            | ok result => exact .inr ⟨by simpa using bare, data, result, rfl, edited, rfl⟩

/-- Whoever may edit a descriptor in place may as well write another one over it, which resets
no data of the network. -/
def overwriteDescriptor (descriptor : Descriptor K) : Change (Network K) PUnit := do
  refuseIfGenerated fun network => .representation network.id
  let network ← Change.current
  let _ ← Change.require network.editableDescriptor
  Change.write fun network => { network with descriptor := some (.owned descriptor) }

omit [Scalar K] in
theorem overwriteDescriptor_cases (descriptor : Descriptor K) (network : Network K) :
    (Network.overwriteDescriptor descriptor network).state = network ∨
      network.stage.hasVariables = false ∧
        (Network.overwriteDescriptor descriptor network).state =
          { network with descriptor := some (.owned descriptor) } := by
  unfold Network.overwriteDescriptor
  rw [refuseIfGenerated_bind]
  split
  · exact .inl rfl
  · rename_i bare
    rw [Change.current_bind]
    cases network.editableDescriptor with
    | error error => exact .inl rfl
    | ok earlier => exact .inr ⟨by simpa using bare, rfl⟩

theorem setIntervals_cases (intervals : Nat) (network : Network K) :
    (Network.setIntervals intervals network).state = network ∨
      network.stage.hasVariables = false ∧ intervals ≠ 0 ∧
        (Network.setIntervals intervals network).state =
          withFreeInjections { network with intervals, demand := [] } := by
  unfold Network.setIntervals
  rw [refuseIfGenerated_bind]
  split
  · exact .inl rfl
  · rename_i bare
    by_cases none : intervals = 0
    · rw [if_pos none]
      exact .inl rfl
    · rw [if_neg none]
      exact .inr ⟨by simpa using bare, none, rfl⟩

omit [Scalar K] in
/-- No edit touches the numbers of nodes and lines. -/
theorem edited_sizes {data result : DcData K} {edit : DcData.Edit K}
    (edited : data.edited edit = .ok result) :
    result.nodes = data.nodes ∧ result.lines = data.lines := by
  cases edit with
  | factors matrix =>
      cases matrix with
      | none =>
          cases edited
          exact ⟨rfl, rfl⟩
      | some matrix =>
          obtain ⟨-, -, equality⟩ := Except.bind_eq_ok.mp edited
          cases equality
          exact ⟨rfl, rfl⟩
  | flowLimits minFlow maxFlow =>
      obtain ⟨_, _, edited⟩ := Except.bind_eq_ok.mp edited
      obtain ⟨_, _, equality⟩ := Except.bind_eq_ok.mp edited
      cases equality
      exact ⟨rfl, rfl⟩
  | _ =>
      obtain ⟨-, -, equality⟩ := Except.bind_eq_ok.mp edited
      cases equality
      exact ⟨rfl, rfl⟩

omit [Scalar K] in
theorem topology_of_editable {data : DcData K}
    (held : network.editableDescriptor = .ok (.dc data)) :
    network.topology? = some data.topology := by
  unfold editableDescriptor at held
  unfold Network.topology?
  cases attached : network.descriptor with
  | none => simp [attached] at held
  | some holding =>
      obtain ⟨descriptor, isShared⟩ := holding
      rw [attached] at held
      cases isShared with
      | true => cases held
      | false =>
          cases held
          rfl

omit [Scalar K] in
/-- An edit keeps the numbers of nodes and lines. -/
theorem sizes_of_edited {data result : DcData K} {edit : DcData.Edit K}
    (held : network.editableDescriptor = .ok (.dc data)) (edited : data.edited edit = .ok result) :
    let after : Network K := { network with descriptor := some (.owned (.dc result)) }
    after.nodes = network.nodes ∧ after.lines = network.lines := by
  obtain ⟨nodes, lines⟩ := edited_sizes edited
  have topology := topology_of_editable held
  simp only [Network.nodes, Network.lines, topology]
  exact ⟨nodes, lines⟩

theorem Sound.setDescriptor (sound : network.Sound) (descriptor : Holding (Descriptor K)) :
    (Network.setDescriptor descriptor network).state.Sound := by
  rcases setDescriptor_cases descriptor network with still | ⟨bare, attached⟩
  · rwa [still]
  · rw [attached]
    exact sound.attach bare descriptor

omit [Scalar K] in
theorem Sound.editDescriptor (sound : network.Sound) (edit : DcData.Edit K) :
    (Network.editDescriptor edit network).state.Sound := by
  rcases editDescriptor_cases edit network with still | ⟨bare, data, result, held, edited, state⟩
  · rwa [still]
  · obtain ⟨nodes, lines⟩ := sizes_of_edited held edited
    rw [state]
    refine sound_of_early sound (Stage.hasConstraints_of_bare bare) rfl ?_ ?_
    · rw [lines]
      exact sound.shaped.kappa
    · rw [Network.extent, nodes]
      exact sound.shaped.demand

theorem Sound.setIntervals (sound : network.Sound) (intervals : Nat) :
    (Network.setIntervals intervals network).state.Sound := by
  rcases setIntervals_cases intervals network with still | ⟨bare, -, reset⟩
  · rwa [still]
  · rw [reset]
    exact sound_of_early sound (Stage.hasConstraints_of_bare bare) rfl sound.shaped.kappa
      (.inl rfl)

private theorem broadcastPresent_ok {values : Option (List Float)} {result : List Float}
    {size : Nat} {what : String} (filled : broadcastPresent values size what = .ok result) :
    result = [] ∨ result.length = size := by
  cases values with
  | none =>
      cases filled
      exact .inl rfl
  | some values => exact .inr (broadcast_ok filled)

theorem sound_filled {start result : Network Float} {group : Group} (sound : start.Sound)
    (bare : start.stage.hasVariables = false) (filled : start.filled group = .ok result) :
    result.Sound := by
  unfold Network.filled at filled
  dsimp only at filled
  split at filled
  · cases filled
  · obtain ⟨given, _, filled⟩ := Except.bind_eq_ok.mp filled
    obtain ⟨descriptor, _, filled⟩ := Except.bind_eq_ok.mp filled
    obtain ⟨demand, demands, filled⟩ := Except.bind_eq_ok.mp filled
    obtain ⟨levels, _, filled⟩ := Except.bind_eq_ok.mp filled
    obtain ⟨kappa, kappas, filled⟩ := Except.bind_eq_ok.mp filled
    obtain ⟨constantTerm, _, filled⟩ := Except.bind_eq_ok.mp filled
    cases filled
    refine sound_of_early sound ?_ ?_ (broadcastPresent_ok kappas) (broadcastPresent_ok demands)
    · exact Stage.hasConstraints_of_bare bare
    · cases descriptor with
      | none => cases given <;> rfl
      | some descriptor => rfl

theorem sound_ofGroup {result : Network Float} {group : Group} {before after : Nat}
    (created : Network.ofGroup group before = (.ok result, after)) : result.Sound := by
  obtain ⟨start, taken, fresh, created⟩ := Creation.bind_eq_ok created
  obtain ⟨id, _, _, fresh⟩ := Creation.bind_eq_ok fresh
  cases Creation.pure_eq_ok fresh
  exact sound_filled (sound_bus id) rfl (Creation.require_eq_ok created).1

theorem Sound.withVariables (sound : network.Sound)
    (entered : network.stage.enter .vars = .ok .run) : network.withVariables.Sound := by
  have early : network.stage.hasConstraints = false := by
    rw [Stage.enter_vars entered]
    rfl
  exact sound_of_early sound early rfl sound.shaped.kappa sound.shaped.demand

omit [Scalar K] in
theorem checkShape_ok {topology : Topology K} {answer : PUnit}
    (checked : topology.checkShape = (.ok answer : Except Error PUnit.{1})) :
    topology.minFlow.length = topology.lines ∧ topology.maxFlow.length = topology.lines := by
  obtain ⟨_, _, checked⟩ := Except.bind_eq_ok.mp checked
  obtain ⟨_, _, checked⟩ := Except.bind_eq_ok.mp checked
  obtain ⟨_, minFlow, checked⟩ := Except.bind_eq_ok.mp checked
  obtain ⟨_, maxFlow, _⟩ := Except.bind_eq_ok.mp checked
  exact ⟨checkLength_ok minFlow, checkLength_ok maxFlow⟩

theorem checkTopology_bounded {topology : Topology K} (several : 1 < network.nodes)
    (checked : network.checkTopology = .ok topology) : network.Bounded topology := by
  have attached := checkTopology_ok checked
  obtain ⟨_, _, shape⟩ := checkShape_of_checkTopology checked
  obtain ⟨minFlow, maxFlow⟩ := checkShape_ok shape
  refine ⟨attached, ?_, minFlow, maxFlow⟩
  rw [← nodes_of_topology attached]
  exact Nat.lt_trans Nat.zero_lt_one several

theorem Sound.withConstraints {result : Network K} (sound : network.Sound)
    (entered : network.stage.enter .constraints = .ok .run)
    (generated : network.withConstraints = .ok result) : result.Sound := by
  have early : network.stage.hasConstraints = false := by
    rw [Stage.enter_constraints entered]
    rfl
  rcases withConstraints_cases generated with ⟨-, rfl⟩ | ⟨topology, several, checked, attached, rfl⟩
  · exact sound_of_early sound early rfl sound.shaped.kappa sound.shaped.demand
  · have bounded := checkTopology_bounded several checked
    refine ⟨⟨sound.shaped.kappa, sound.shaped.demand, fun _ => ?_, ?_, ?_⟩, ?_, ?_, ?_⟩
    · exact ⟨topology, bounded.attached, bounded.nodes, bounded.minFlow, bounded.maxFlow⟩
    · intro line member
      have listed : line ∈ topology.acLines := by
        change line ∈ if hasAcLines topology then topology.acLines else [] at member
        by_cases present : hasAcLines topology = true
        · rwa [if_pos present] at member
        · rw [if_neg present] at member
          cases member
      change line < network.lines
      rw [lines_of_topology attached]
      exact List.mem_range.mp (List.mem_filter.mp listed).1
    · change (Family.table _ _ _).length ≤ network.extent
      exact Nat.le_of_eq
        (by rw [Family.length_table, Network.extent, nodes_of_topology attached])
    all_goals
      intro early
      cases early

omit [Scalar K] in
theorem Sound.withObjective (sound : network.Sound)
    (entered : network.stage.enter .objective = .ok .run) : network.withObjective.Sound := by
  have late : network.stage.hasConstraints = true := by
    rw [Stage.enter_objective entered]
    rfl
  have shaped := sound.shaped
  refine ⟨⟨shaped.kappa, shaped.demand, fun present => ?_, shaped.acLines, shaped.bounds⟩,
    ?_, ?_, ?_⟩
  · obtain ⟨topology, bounded⟩ := shaped.limits present
    exact ⟨topology, bounded.attached, bounded.nodes, bounded.minFlow, bounded.maxFlow⟩
  all_goals
    intro early
    cases early

omit [Scalar K] in
theorem Sound.step (sound : network.Sound) {target : Stage}
    {advance : Network K → Except Error (Network K)}
    (advances : network.stage.enter target = .ok .run → ∀ result,
      advance network = .ok result → result.Sound) :
    (Network.step target advance network).state.Sound :=
  step_preserves sound advances

theorem Sound.generateVariables (sound : network.Sound) :
    (Network.generateVariables network).state.Sound :=
  sound.step fun entered result advanced => by
    cases advanced
    exact sound.withVariables entered

theorem Sound.generateConstraints (sound : network.Sound) :
    (Network.generateConstraints network).state.Sound :=
  sound.step fun entered _ advanced => sound.withConstraints entered advanced

omit [Scalar K] in
theorem Sound.generateObjective (sound : network.Sound) :
    (Network.generateObjective network).state.Sound :=
  sound.step fun entered result advanced => by
    cases advanced
    exact sound.withObjective entered

theorem Sound.setKappa (sound : network.Sound) (address : Address) (values : List K)
    (physical abstract : Mode) :
    (Network.setKappa address values physical abstract network).state.Sound := by
  cases setKappa_state address values physical abstract network with
  | inl still => rwa [still]
  | inr moved =>
      obtain ⟨selection, moved⟩ := moved
      have same := SameFrame.withKappa network selection values abstract
      obtain ⟨kappa, demand⟩ := kappa_withKappa network selection values abstract
      rw [moved]
      refine sound.congr same (.inr ?_) ?_
      · rw [kappa, selection.length_write sound.shaped.kappa, same.lines]
      · rw [demand, same.extent]
        exact sound.shaped.demand

theorem Sound.setDemand (sound : network.Sound) (address : Address) (values : List K)
    (physical abstract : Mode) :
    (Network.setDemand address values physical abstract network).state.Sound := by
  cases setDemand_state address values physical abstract network with
  | inl still => rwa [still]
  | inr moved =>
      obtain ⟨selection, moved⟩ := moved
      have same := SameFrame.withDemand network selection values abstract
      obtain ⟨demand, kappa⟩ := demand_withDemand network selection values abstract
      rw [moved]
      refine sound.congr same ?_ (.inr ?_)
      · rw [kappa, same.lines]
        exact sound.shaped.kappa
      · rw [demand, selection.length_write sound.shaped.demand, same.extent]

theorem Sound.setInjectionBounds (sound : network.Sound) (minimum maximum : List K)
    (physical abstract : Mode) :
    (Network.setInjectionBounds minimum maximum physical abstract network).state.Sound := by
  cases setInjectionBounds_state minimum maximum physical abstract network with
  | inl still => rwa [still]
  | inr moved =>
      have same := SameFrame.withInjectionBounds network minimum maximum abstract
      have data : (network.withInjectionBounds minimum maximum abstract).kappa = network.kappa ∧
          (network.withInjectionBounds minimum maximum abstract).demand = network.demand := by
        unfold Network.withInjectionBounds
        dsimp only
        split <;> exact ⟨rfl, rfl⟩
      rw [moved]
      refine sound.congr same ?_ ?_
      · rw [data.1, same.lines]
        exact sound.shaped.kappa
      · rw [data.2, same.extent]
        exact sound.shaped.demand

theorem Sound.call (sound : network.Sound) (call : Call K) : (call.perform network).Sound := by
  cases call with
  | generateVariables => exact sound.generateVariables
  | generateConstraints => exact sound.generateConstraints
  | generateObjective => exact sound.generateObjective
  | setKappa address values physical abstract =>
      exact sound.setKappa address values physical abstract
  | setDemand address values physical abstract =>
      exact sound.setDemand address values physical abstract
  | setInjectionBounds minimum maximum physical abstract =>
      exact sound.setInjectionBounds minimum maximum physical abstract
  | setConstantTerm constant =>
      exact sound.congr ⟨rfl, rfl, rfl, rfl, rfl, rfl⟩ sound.shaped.kappa sound.shaped.demand

inductive Operation (K : Type)
  | setDescriptor (descriptor : Holding (Descriptor K))
  | editDescriptor (edit : DcData.Edit K)
  | overwriteDescriptor (descriptor : Descriptor K)
  | setIntervals (intervals : Nat)
  | withSettings (settings : Option (Settings K))
  | withNotifier (notifier : NotifierKey)
  | editStore (edit : Store K → Store K)
  | call (step : Call K)

/-- The network afterwards, whether the operation was refused or not. -/
def Operation.perform (network : Network K) : Operation K → Network K
  | .setDescriptor descriptor => (Network.setDescriptor descriptor network).state
  | .editDescriptor edit => (Network.editDescriptor edit network).state
  | .overwriteDescriptor descriptor => (Network.overwriteDescriptor descriptor network).state
  | .setIntervals intervals => (Network.setIntervals intervals network).state
  | .withSettings settings => { network with settings }
  | .withNotifier notifier => { network with notifier }
  | .editStore edit => { network with store := edit network.store }
  | .call step => step.perform network

/-- Only some edits of the store. -/
def Operation.Edits (edits : (Store K → Store K) → Prop) : Operation K → Prop
  | .editStore edit => edits edit
  | _ => True

/-- Whoever overwrites the descriptor resets no data, which may then be of other sizes. -/
def Operation.KeepsSizes : Operation K → Prop
  | .overwriteDescriptor _ => False
  | _ => True

/-- A network as a program gets it. -/
inductive Made : Network Float → Prop
  | new {network : Network Float} {before after : Nat}
      (created : Network.new before = (.ok network, after)) : Made network
  | ofDescriptor {descriptor : Holding (Descriptor Float)} {network : Network Float}
      {before after : Nat}
      (created : Network.ofDescriptor descriptor before = (.ok network, after)) : Made network
  | ofGroup {group : Group} {network : Network Float} {before after : Nat}
      (created : Network.ofGroup group before = (.ok network, after)) : Made network

/-- Every state that a program can arrive at whose edits of the descriptor are those of such
data. -/
def Reachable : Network Float → Prop :=
  Reached Made Operation.perform Operation.KeepsSizes

theorem Reachable.play {network : Network Float} (reachable : network.Reachable)
    (calls : List (Call Float)) :
    (network.play calls).Reachable := by
  have played : Reachable ((calls.map Operation.call).foldl Operation.perform network) :=
    Reached.play reachable fun operation member => by
      obtain ⟨call, -, rfl⟩ := List.mem_map.mp member
      trivial
  rwa [List.foldl_map] at played

theorem Made.sound {network : Network Float} (made : network.Made) : network.Sound := by
  cases made with
  | new created =>
      cases created
      exact sound_bus _
  | ofDescriptor created =>
      cases created
      exact (sound_bus _).attach rfl _
  | ofGroup created => exact sound_ofGroup created

theorem Sound.perform (sound : network.Sound) {operation : Operation K}
    (keeps : operation.KeepsSizes) : (operation.perform network).Sound := by
  have same (other : Network K) (frame : network.SameFrame other)
      (kappa : other.kappa = network.kappa) (demand : other.demand = network.demand) :
      other.Sound := by
    refine sound.congr frame ?_ ?_
    · rw [kappa, frame.lines]
      exact sound.shaped.kappa
    · rw [demand, frame.extent]
      exact sound.shaped.demand
  cases operation with
  | setDescriptor descriptor => exact sound.setDescriptor descriptor
  | editDescriptor edit => exact sound.editDescriptor edit
  | overwriteDescriptor descriptor => exact keeps.elim
  | setIntervals intervals => exact sound.setIntervals intervals
  | withSettings settings => exact same _ ⟨rfl, rfl, rfl, rfl, rfl, rfl⟩ rfl rfl
  | withNotifier notifier => exact same _ ⟨rfl, rfl, rfl, rfl, rfl, rfl⟩ rfl rfl
  | editStore edit => exact same _ ⟨rfl, rfl, rfl, rfl, rfl, rfl⟩ rfl rfl
  | call step => exact sound.call step

theorem Reachable.sound {network : Network Float} (reachable : network.Reachable) :
    network.Sound := by
  induction reachable with
  | start made => exact made.sound
  | step _ operation keeps sound => exact sound.perform keeps

theorem Shaped.allOrNothing (shaped : network.Shaped) (update : Update K) :
    AllOrNothing update.attempt update.run network := by
  cases update with
  | kappa address values physical abstract =>
      exact ⟨completes_setKappa shaped address values physical abstract,
        atomic_setKappa address values physical abstract network⟩
  | demand address values physical abstract =>
      exact ⟨completes_setDemand shaped address values physical abstract,
        atomic_setDemand address values physical abstract network⟩
  | injectionBounds minimum maximum physical abstract =>
      exact ⟨completes_setInjectionBounds shaped minimum maximum physical abstract,
        atomic_setInjectionBounds minimum maximum physical abstract network⟩

end Dispatch.Network
