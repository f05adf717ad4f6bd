import Dispatch.Proofs.Frame.Families
import Dispatch.Proofs.Reachable.Accounted

namespace Dispatch.Network

/-! What an update of a network leaves alone in its rows. Every patch computes the places that it
writes from the address; nothing here asks whether the rows were up to date before. -/

variable {K : Type}

/-- At most kappa is new, and the limits of addressed lines. -/
structure KappaPatched (addressed : Nat → Prop) (before after : Network K) : Prop where
  rest : after = { before with
    kappa := after.kappa
    rows := { before.rows with flowLimits := after.rows.flowLimits } }
  limits : before.rows.flowLimits.Patched (fun _ line => addressed line) after.rows.flowLimits

/-- At most the injection bounds are new, and the boxes on injections. -/
structure BoundsPatched (before after : Network K) : Prop where
  rest : after = { before with
    minInjection := after.minInjection
    maxInjection := after.maxInjection
    rows := { before.rows with injectionBounds := after.rows.injectionBounds } }
  boxes : before.rows.injectionBounds.Patched (fun _ _ => True) Box.Moved
    after.rows.injectionBounds

/-- Whether an interval has an addressed entry. -/
def Touched (network : Network K) (addressed : Nat → Prop) (interval : Nat) : Prop :=
  ∃ entry, addressed entry ∧ entry / network.nodes = interval

/-- Whether the rows are those of distribution factors. -/
def Distributes (network : Network K) : Prop :=
  network.rows.flowLimits.kind = .ac ∨ network.rows.flowLimits.kind = .hybrid

/-- At most the demand is new, and levels: over direct lines those of the balances of addressed
entries, over others those of the addressed intervals. -/
structure DemandPatched (addressed : Nat → Prop) (before after : Network K) : Prop where
  rest : after = { before with
    demand := after.demand
    rows := { before.rows with
      flowLimits := after.rows.flowLimits
      injectionBalance := after.rows.injectionBalance
      flowDefinition := after.rows.flowDefinition
      systemBalance := after.rows.systemBalance } }
  balances : before.rows.injectionBalance.Patched
    (fun interval node => before.rows.flowLimits.kind = .hvdc ∧ ∃ entry, addressed entry ∧
      entry / before.nodes = interval ∧ entry % before.nodes = node)
    Row.Moved after.rows.injectionBalance
  limits : before.rows.flowLimits.Patched
    (fun interval line => before.Distributes ∧ line ∈ before.rows.acLines ∧
      before.Touched addressed interval) after.rows.flowLimits
  definitions : before.rows.flowDefinition.Patched
    (fun interval _ => before.Distributes ∧ before.Touched addressed interval) Row.Moved
    after.rows.flowDefinition
  systems : before.rows.systemBalance.Patched
    (fun interval _ => before.Distributes ∧ before.Touched addressed interval) Row.Moved
    after.rows.systemBalance

theorem KappaPatched.refl (addressed : Nat → Prop) (network : Network K) :
    network.KappaPatched addressed network := ⟨rfl, .refl _⟩

theorem BoundsPatched.refl (network : Network K) : network.BoundsPatched network :=
  ⟨rfl, .refl _⟩

theorem DemandPatched.refl (addressed : Nat → Prop) (network : Network K) :
    network.DemandPatched addressed network :=
  ⟨rfl, .refl _, .refl _, .refl _, .refl _⟩

/-- One entry after the other. -/
theorem DemandPatched.trans {addressed : Nat → Prop} {first second third : Network K}
    (early : first.DemandPatched addressed second) (late : second.DemandPatched addressed third) :
    first.DemandPatched addressed third := by
  have kind : second.rows.flowLimits.kind = first.rows.flowLimits.kind := early.limits.kind
  have nodes : second.nodes = first.nodes := by rw [early.rest]; rfl
  have acLines : second.rows.acLines = first.rows.acLines := by rw [early.rest]
  obtain ⟨rest, balances, limits, definitions, systems⟩ := late
  unfold Distributes Touched at limits definitions systems
  rw [kind, nodes] at balances limits definitions systems
  rw [acLines] at limits
  refine ⟨?_, early.balances.trans Row.Moved.trans balances, early.limits.trans limits,
    early.definitions.trans Row.Moved.trans definitions,
    early.systems.trans Row.Moved.trans systems⟩
  have start := early.rest
  rw [rest, start]

theorem DemandPatched.imp {addressed wider : Nat → Prop} {before after : Network K}
    (implies : ∀ entry, addressed entry → wider entry)
    (patched : before.DemandPatched addressed after) : before.DemandPatched wider after := by
  have touched (interval : Nat) (here : before.Touched addressed interval) :
      before.Touched wider interval := here.imp fun entry => And.imp_left (implies entry)
  refine ⟨patched.rest, patched.balances.imp fun _ _ => And.imp_right fun ⟨entry, here, place⟩ =>
    ⟨entry, implies entry here, place⟩, patched.limits.imp fun interval _ ⟨kind, line, here⟩ =>
    ⟨kind, line, touched interval here⟩, ?_, ?_⟩
  · exact patched.definitions.imp fun interval _ => And.imp_right (touched interval)
  · exact patched.systems.imp fun interval _ => And.imp_right (touched interval)

variable [Scalar K]

theorem limits_patchFlowLimits (network : Network K) (lines : List Nat) :
    network.patchFlowLimits lines = { network with rows := { network.rows with
        flowLimits := (network.patchFlowLimits lines).rows.flowLimits } } ∧
      network.rows.flowLimits.Patched (fun _ line => line ∈ lines)
        (network.patchFlowLimits lines).rows.flowLimits := by
  unfold patchFlowLimits
  cases network.topology? with
  | none => exact ⟨rfl, .refl _⟩
  | some topology =>
      refine ⟨rfl, .foldl (fun interval _ limits => ?_) _⟩
      exact .foldl (fun line member limits => .setBounds limits member _ _) limits

theorem kappaPatched_setKappa (address : Address) (values : List K) (physical abstract : Mode)
    (network : Network K) :
    let after := (Network.setKappa address values physical abstract network).state
    network.KappaPatched (· ∈ address.entries) after ∧
      (abstract.writes = false → after.rows = network.rows) := by
  have still : network.KappaPatched (· ∈ address.entries) network ∧
      (abstract.writes = false → network.rows = network.rows) := ⟨.refl _ network, fun _ => rfl⟩
  dsimp only
  rw [setKappa_apply]
  split
  · exact still
  · exact still
  · rename_i selection selected
    rw [updateKappa_apply]
    split
    · exact still
    · split
      · exact still
      · dsimp only [withKappa]
        split
        · rename_i writes
          obtain ⟨rest, limits⟩ := limits_patchFlowLimits (network.reloaded network.demand
            (selection.write network.kappa network.lines 1 values)) selection.indices
          rw [(Address.select_shows selected).1] at rest limits ⊢
          refine ⟨⟨?_, limits⟩, fun dry => ?_⟩
          · rw [rest]
            rfl
          · rw [dry] at writes
            cases writes
        · exact ⟨⟨rfl, .refl _⟩, fun _ => rfl⟩

theorem boundsPatched_setInjectionBounds (minimum maximum : List K) (physical abstract : Mode)
    (network : Network K) :
    let after := (Network.setInjectionBounds minimum maximum physical abstract network).state
    network.BoundsPatched after ∧ (abstract.writes = false → after.rows = network.rows) := by
  dsimp only
  rcases setInjectionBounds_state minimum maximum physical abstract network with still | moved
  · rw [still]
    exact ⟨.refl network, fun _ => rfl⟩
  · rw [moved, withInjectionBounds]
    cases abstract.writes with
    | false => exact ⟨⟨rfl, .refl _⟩, fun _ => rfl⟩
    | true =>
        refine ⟨⟨rfl, ⟨rfl, rfl, List.length_mapIdx, fun index item other found last => ?_⟩⟩, nofun⟩
        refine .inr ⟨trivial, ?_⟩
        change (List.mapIdx _ network.rows.injectionBounds.items)[index]? = some other at last
        rw [List.getElem?_mapIdx] at last
        change Option.map _ (network.rows.injectionBounds.items[index]?) = some other at last
        rw [found] at last
        cases last
        rfl

theorem patched_patchBalances (network : Network K) (nodes : Nat) (entries : List Nat) :
    network.rows.injectionBalance.Patched
      (fun interval node => ∃ entry ∈ entries, entry / nodes = interval ∧ entry % nodes = node)
      Row.Moved (network.patchBalances nodes entries).rows.injectionBalance := by
  refine Family.Patched.foldl Row.Moved.trans (fun entry member family => ?_) _
  exact .modify family (fun _ => ⟨entry, member, rfl, rfl⟩) fun _ => rfl

/-- The rows of intervals, patched. -/
structure IntervalsPatched (touched : Nat → Prop) (before after : NetworkRows K) : Prop where
  rest : after = { before with
    flowLimits := after.flowLimits
    flowDefinition := after.flowDefinition
    systemBalance := after.systemBalance }
  limits : before.flowLimits.Patched
    (fun interval line => line ∈ before.acLines ∧ touched interval) after.flowLimits
  definitions : before.flowDefinition.Patched (fun interval _ => touched interval) Row.Moved
    after.flowDefinition
  systems : before.systemBalance.Patched (fun interval _ => touched interval) Row.Moved
    after.systemBalance

omit [Scalar K] in
theorem IntervalsPatched.trans {touched : Nat → Prop} (first second third : NetworkRows K)
    (early : IntervalsPatched touched first second)
    (late : IntervalsPatched touched second third) : IntervalsPatched touched first third := by
  have acLines : second.acLines = first.acLines := by rw [early.rest]
  obtain ⟨rest, limits, definitions, systems⟩ := late
  rw [acLines] at limits
  refine ⟨?_, early.limits.trans limits, early.definitions.trans Row.Moved.trans definitions,
    early.systems.trans Row.Moved.trans systems⟩
  have start := early.rest
  rw [rest, start]

theorem patched_patchInterval (network : Network K) (topology : Topology K)
    {touched : Nat → Prop} {interval : Nat} (here : touched interval) (rows : NetworkRows K) :
    IntervalsPatched touched rows (network.patchInterval topology rows interval) where
  rest := rfl
  limits := .foldl (fun line member limits => .setBounds limits ⟨member, here⟩ _ _) _
  definitions := by
    refine Family.Patched.foldl Row.Moved.trans (fun place _ family => ?_) _
    exact .modify family (fun _ => here) fun _ => rfl
  systems := .modify _ (fun _ => here) fun _ => rfl

theorem patched_patchIntervals (network : Network K) (topology : Topology K)
    (entries : List Nat) (rows : NetworkRows K) :
    IntervalsPatched (fun interval => ∃ entry ∈ entries, entry / topology.nodes = interval) rows
      ((touchedIntervals topology.nodes entries).foldl (network.patchInterval topology) rows) :=
  foldl_related (fun _ => ⟨rfl, .refl _, .refl _, .refl _⟩) IntervalsPatched.trans
    (fun _ member => patched_patchInterval network topology (mem_touchedIntervals.mp member)) rows

theorem demandPatched_patchDemand (network : Network K) (entries : List Nat) :
    network.DemandPatched (· ∈ entries) (network.patchDemand entries) := by
  unfold patchDemand
  cases attached : network.topology? with
  | none => exact .refl _ network
  | some topology =>
      have nodes := nodes_of_topology attached
      have distributed (distributes : network.Distributes) :
          network.DemandPatched (· ∈ entries) { network with
            rows := (touchedIntervals topology.nodes entries).foldl
              (network.patchInterval topology) network.rows } := by
        obtain ⟨rest, limits, definitions, systems⟩ :=
          patched_patchIntervals network topology entries network.rows
        rw [← nodes] at rest limits definitions systems ⊢
        refine ⟨?_, ?_, limits.imp fun _ _ ⟨member, touched⟩ => ⟨distributes, member, touched⟩,
          definitions.imp fun _ _ touched => ⟨distributes, touched⟩,
          systems.imp fun _ _ touched => ⟨distributes, touched⟩⟩
        · rw [rest]
        · rw [rest]
          exact .refl _
      dsimp only
      cases kind : network.rows.flowLimits.kind with
      | none => exact .refl _ network
      | hvdc =>
          refine ⟨rfl, ?_, .refl _, .refl _, .refl _⟩
          rw [← nodes]
          exact (patched_patchBalances network network.nodes entries).imp
            fun _ _ place => ⟨kind, place⟩
      | ac => exact distributed (.inl kind)
      | hybrid => exact distributed (.inr kind)

theorem demandPatched_setDemand (address : Address) (values : List K) (physical abstract : Mode)
    (network : Network K) :
    let after := (Network.setDemand address values physical abstract network).state
    network.DemandPatched (· ∈ address.entries) after ∧
      (abstract.writes = false → after.rows = network.rows) := by
  have still : network.DemandPatched (· ∈ address.entries) network ∧
      (abstract.writes = false → network.rows = network.rows) := ⟨.refl _ network, fun _ => rfl⟩
  dsimp only
  rw [setDemand_apply]
  split
  · exact still
  · exact still
  · rename_i selection selected
    rw [updateDemand_apply]
    split
    · exact still
    · split
      · exact still
      · dsimp only [withDemand]
        rw [(Address.select_shows selected).1]
        split
        · rename_i writes
          obtain ⟨rest, balances, limits, definitions, systems⟩ :=
            demandPatched_patchDemand (network.reloaded
              (selection.write network.demand network.extent 0 values) network.kappa)
              address.entries
          refine ⟨⟨?_, balances, limits, definitions, systems⟩, fun dry => ?_⟩
          · rw [rest]
            rfl
          · rw [dry] at writes
            cases writes
        · exact ⟨⟨rfl, .refl _, .refl _, .refl _, .refl _⟩, fun _ => rfl⟩

end Dispatch.Network
