import Dispatch.Proofs.Change.Readdressing
import Dispatch.Proofs.Network.Update

namespace Dispatch

/-! Patches of rows set bounds place by place. They can be made in any order, and a later patch
of the same places leaves nothing of an earlier one. -/

variable {K : Type}

/-- Changes of places that give up what was there before, after a run of changes that they
replace. -/
theorem foldl_overwritten {S ι κ : Type} (place : ι → κ) {early late : S → ι → S}
    {items : List ι}
    (wins : ∀ state one other, place one = place other →
      late (early state one) other = late state other)
    (comm : ∀ state one other, place one ≠ place other →
      late (early state one) other = early (late state other) one) (state : S) :
    items.foldl late (items.foldl early state) = items.foldl late state := by
  have single (items : List ι) (item : ι) (member : item ∈ items) (state : S) :
      items.foldl late (early state item) = items.foldl late state := by
    induction items generalizing state with
    | nil => cases member
    | cons first rest induction =>
        rw [List.foldl_cons, List.foldl_cons]
        by_cases here : place item = place first
        · rw [wins _ _ _ here]
        · rw [comm _ _ _ here]
          have later := (List.mem_cons.mp member).resolve_left fun same => here (by rw [same])
          exact induction later _
  have run (done : List ι) (within : ∀ item ∈ done, item ∈ items) (state : S) :
      items.foldl late (done.foldl early state) = items.foldl late state := by
    induction done generalizing state with
    | nil => rfl
    | cons first rest induction =>
        rw [List.foldl_cons, induction fun item member => within item (by simp [member])]
        exact single items first (within first (by simp)) state
  exact run items (fun _ member => member) state

theorem Family.modify_modify {α : Type} (family : Family α) {row col other place : Nat}
    (apart : (row, col) ≠ (other, place)) (change next : α → α) :
    (family.modify row col change).modify other place next =
      (family.modify other place next).modify row col change := by
  unfold Family.modify
  by_cases first : col < family.cols
  · by_cases second : place < family.cols
    · have different : row * family.cols + col ≠ other * family.cols + place := by
        intro equal
        obtain ⟨rows, cols⟩ := index_inj first second equal
        exact apart (Prod.ext rows cols)
      simp only [first, second, if_true]
      congr 1
      apply List.ext_getElem?
      intro index
      simp only [List.getElem?_modify]
      by_cases here : row * family.cols + col = index
      · have elsewhere : other * family.cols + place ≠ index := fun equal =>
          different (here.trans equal.symm)
        simp [here, elsewhere]
      · simp [here]
    · simp only [first, second, if_true, if_false]
  · by_cases second : place < family.cols
    · simp only [first, second, if_true, if_false]
    · simp only [first, second, if_false]

theorem Family.modify_same {α : Type} (family : Family α) (row col : Nat) {change next : α → α}
    (wins : ∀ item, next (change item) = next item) :
    (family.modify row col change).modify row col next = family.modify row col next := by
  unfold Family.modify
  by_cases within : col < family.cols
  · simp only [within, if_true]
    congr 1
    apply List.ext_getElem?
    intro index
    simp only [List.getElem?_modify]
    by_cases here : row * family.cols + col = index
    · simp [here, Function.comp_def, wins]
    · simp [here]
  · simp only [within, if_false]

namespace FlowLimits

theorem setBounds_setBounds (limits : FlowLimits K) {interval line other place : Nat}
    (apart : (interval, line) ≠ (other, place)) (lhs rhs low high : K) :
    (limits.setBounds interval line lhs rhs).setBounds other place low high =
      (limits.setBounds other place low high).setBounds interval line lhs rhs := by
  cases limits with
  | none => rfl
  | hvdc family => exact congrArg FlowLimits.hvdc (family.modify_modify apart _ _)
  | ac family => exact congrArg FlowLimits.ac (family.modify_modify apart _ _)
  | hybrid family => exact congrArg FlowLimits.hybrid (family.modify_modify apart _ _)

theorem setBounds_same (limits : FlowLimits K) (interval line : Nat) (lhs rhs low high : K) :
    (limits.setBounds interval line lhs rhs).setBounds interval line low high =
      limits.setBounds interval line low high := by
  cases limits with
  | none => rfl
  | hvdc family => exact congrArg FlowLimits.hvdc (family.modify_same _ _ fun _ => rfl)
  | ac family => exact congrArg FlowLimits.ac (family.modify_same _ _ fun _ => rfl)
  | hybrid family => exact congrArg FlowLimits.hybrid (family.modify_same _ _ fun _ => rfl)

end FlowLimits

namespace Network

variable [Scalar K]

theorem patchFlowLimits_perm (network : Network K) {lines others : List Nat}
    (same : lines.Perm others) :
    network.patchFlowLimits lines = network.patchFlowLimits others := by
  unfold patchFlowLimits
  cases network.topology? with
  | none => rfl
  | some topology =>
      have patched (limits : FlowLimits K) (interval : Nat) :
          lines.foldl (fun limits line =>
              limits.setBounds interval line
                (network.flowRange topology limits.kind interval line).1
                (network.flowRange topology limits.kind interval line).2) limits =
            others.foldl (fun limits line =>
              limits.setBounds interval line
                (network.flowRange topology limits.kind interval line).1
                (network.flowRange topology limits.kind interval line).2) limits := by
        refine same.foldl_eq' (fun one _ other _ limits => ?_) limits
        by_cases equal : one = other
        · rw [equal]
        · simp only [kind_setBounds]
          exact limits.setBounds_setBounds (fun pairs => equal (congrArg Prod.snd pairs)) _ _ _ _
      dsimp only
      simp only [patched]

theorem places_apart (nodes : Nat) {one other : Nat} (apart : one ≠ other) :
    (one / nodes, one % nodes) ≠ (other / nodes, other % nodes) := by
  intro same
  obtain ⟨quotient, rest⟩ := Prod.mk.inj same
  exact apart (by rw [← Nat.div_add_mod one nodes, quotient, rest, Nat.div_add_mod])

theorem patchBalances_perm (network : Network K) (nodes : Nat) {entries others : List Nat}
    (same : entries.Perm others) :
    network.patchBalances nodes entries = network.patchBalances nodes others := by
  unfold patchBalances
  rw [same.foldl_eq' fun one _ other _ balance => ?_]
  by_cases equal : one = other
  · rw [equal]
  · exact balance.modify_modify (places_apart nodes equal) _ _

theorem touchedIntervals_perm (nodes : Nat) {entries others : List Nat}
    (same : entries.Perm others) :
    touchedIntervals nodes entries = touchedIntervals nodes others := by
  unfold touchedIntervals
  rw [Address.mergeSort_eq_of_perm (same.map _)]

theorem patchDemand_perm (network : Network K) {entries others : List Nat}
    (same : entries.Perm others) : network.patchDemand entries = network.patchDemand others := by
  unfold patchDemand
  cases network.topology? with
  | none => rfl
  | some topology =>
      simp only [network.patchBalances_perm _ same, touchedIntervals_perm _ same]

variable {first second : Selection} {values others : List K}

theorem withKappa_rearranged (network : Network K)
    (rearranges : first.Rearranges second values others) (abstract : Mode) :
    network.withKappa first values abstract = network.withKappa second others abstract := by
  unfold Network.withKappa
  simp only [rearranges.write, patchFlowLimits_perm _ rearranges.same]

theorem withDemand_rearranged (network : Network K)
    (rearranges : first.Rearranges second values others) (abstract : Mode) :
    network.withDemand first values abstract = network.withDemand second others abstract := by
  unfold Network.withDemand
  simp only [rearranges.write, patchDemand_perm _ rearranges.same]

/-- The rows after a patch of the demand, which reads the data alone. -/
def demandRows (network : Network K) (rows : NetworkRows K) (entries : List Nat) :
    NetworkRows K :=
  match network.topology? with
  | none => rows
  | some topology =>
      match rows.flowLimits.kind with
      | .none => rows
      | .hvdc =>
          { rows with
            injectionBalance := entries.foldl
              (fun balance entry => balance.modify (entry / topology.nodes)
                (entry % topology.nodes) (Row.setBoth (-network.demand.getD entry 0)))
              rows.injectionBalance }
      | _ => (touchedIntervals topology.nodes entries).foldl (network.patchInterval topology) rows

theorem patchDemand_eq (network : Network K) (entries : List Nat) :
    network.patchDemand entries = network.withRows (network.demandRows network.rows entries) := by
  unfold patchDemand demandRows
  cases network.topology? with
  | none => rfl
  | some topology =>
      dsimp only
      cases network.rows.flowLimits.kind <;> rfl

theorem kind_patchInterval (network : Network K) (topology : Topology K) (rows : NetworkRows K)
    (interval : Nat) :
    (network.patchInterval topology rows interval).flowLimits.kind = rows.flowLimits.kind :=
  foldl_kept FlowLimits.kind (fun _ _ => kind_setBounds _ _ _ _ _) rows.acLines rows.flowLimits

/-- A patch of an interval leaves nothing of an earlier one. -/
theorem patchInterval_patchInterval (early late : Network K) (topology : Topology K)
    (rows : NetworkRows K) (interval : Nat) :
    late.patchInterval topology (early.patchInterval topology rows interval) interval =
      late.patchInterval topology rows interval := by
  have kind := kind_patchInterval early topology rows interval
  unfold patchInterval at kind ⊢
  simp only [kind]
  congr 1
  · refine foldl_overwritten (fun line => line) (fun limits one other same => ?_)
      (fun limits one other apart => ?_) rows.flowLimits
    · rw [show one = other from same]
      exact limits.setBounds_same interval other _ _ _ _
    · exact limits.setBounds_setBounds (fun pairs => apart (congrArg Prod.snd pairs)) _ _ _ _
  · refine foldl_overwritten Prod.snd (fun definitions one other same => ?_)
      (fun definitions one other apart => ?_) rows.flowDefinition
    · rw [same]
      exact definitions.modify_same interval other.2 fun _ => rfl
    · have places : (interval, one.2) ≠ (interval, other.2) := fun pairs =>
        apart (Prod.mk.inj pairs).2
      exact definitions.modify_modify places _ _
  · exact rows.systemBalance.modify_same interval 0 fun _ => rfl

theorem touchedIntervals_single (nodes entry : Nat) :
    touchedIntervals nodes [entry] = [entry / nodes] := by
  simp [touchedIntervals, List.eraseDups_cons]

/-- Two entries of one interval can be patched in either order. Each patch may read a demand in
which the other entry is still the old one. -/
theorem demandRows_demandRows {first second last : Network K} {rows : NetworkRows K}
    {one other : Nat} (firstTopology : first.topology? = last.topology?)
    (secondTopology : second.topology? = last.topology?)
    (firstDemand : first.demand.getD one 0 = last.demand.getD one 0)
    (secondDemand : second.demand.getD other 0 = last.demand.getD other 0) (apart : one ≠ other)
    (together : ∀ topology, last.topology? = some topology →
      one / topology.nodes = other / topology.nodes) :
    last.demandRows (first.demandRows rows [one]) [other] =
      last.demandRows (second.demandRows rows [other]) [one] := by
  unfold demandRows
  rw [firstTopology, secondTopology]
  cases attached : last.topology? with
  | none => rfl
  | some topology =>
      have interval := together topology attached
      dsimp only
      cases kind : rows.flowLimits.kind with
      | none => simp only [kind]
      | hvdc =>
          simp only [kind, List.foldl_cons, List.foldl_nil, firstDemand, secondDemand]
          congr 1
          exact rows.injectionBalance.modify_modify (places_apart topology.nodes apart) _ _
      | ac =>
          simp only [kind_patchInterval, kind, touchedIntervals_single, List.foldl_cons,
            List.foldl_nil, interval, patchInterval_patchInterval]
      | hybrid =>
          simp only [kind_patchInterval, kind, touchedIntervals_single, List.foldl_cons,
            List.foldl_nil, interval, patchInterval_patchInterval]

theorem withDemand_eq (selection : Selection) (values : List K) (abstract : Mode)
    (network : Network K) :
    let demand := selection.write network.demand network.extent 0 values
    network.withDemand selection values abstract =
      { network with
        demand
        rows :=
          if abstract.writes && network.stage.hasConstraints then
            (network.reloaded demand network.kappa).demandRows network.rows selection.indices
          else network.rows } := by
  unfold Network.withDemand
  dsimp only
  split
  · rw [patchDemand_eq]
    rfl
  · rfl

/-- Different entries of one interval can be written in either order. -/
theorem withDemand_withDemand {network : Network K} {first second : Selection} {one other : Nat}
    (firstIndices : first.indices = [one]) (secondIndices : second.indices = [other])
    (apart : one ≠ other) (together : one / network.nodes = other / network.nodes)
    (shaped : network.demand = [] ∨ network.demand.length = network.extent)
    (values others : List K) (abstract : Mode) :
    (network.withDemand first values abstract).withDemand second others abstract =
      (network.withDemand second others abstract).withDemand first values abstract := by
  have disjoint : first.indices.Disjoint second.indices := by
    rw [firstIndices, secondIndices]
    simpa using apart.symm
  have writes := first.write_write second shaped (0 : K) values others disjoint
  have kept (selection : Selection) (values : List K) {entry : Nat}
      (outside : entry ∉ selection.indices) (demand : List K) :
      (selection.write demand network.extent 0 values).getD entry 0 = demand.getD entry 0 :=
    selection.getD_write_of_not_mem demand network.extent 0 values outside
  -- The patches read the data alone, so that each side patches over the same last demand.
  have last (demand : List K) (earlier : Network K) (rows : NetworkRows K) (entry : Nat)
      (same : earlier = { network with demand := earlier.demand, rows := earlier.rows }) :
      (earlier.reloaded demand network.kappa).demandRows rows [entry] =
        (network.reloaded demand network.kappa).demandRows rows [entry] := by
    rw [same]
    rfl
  rw [withDemand_eq first, withDemand_eq second, withDemand_eq second, withDemand_eq first]
  dsimp only
  have extent (demand : List K) (rows : NetworkRows K) :
      ({ network with demand, rows } : Network K).extent = network.extent := rfl
  simp only [extent, writes, firstIndices, secondIndices]
  congr 1
  split
  · rw [last _ _ _ other rfl, last _ _ _ one rfl]
    refine demandRows_demandRows rfl rfl ?_ ?_ apart fun topology attached => ?_
    · exact (congrArg (fun demand => demand.getD one 0) writes.symm).trans
        (kept second others (by rw [secondIndices]; simpa using apart) _) |>.symm
    · exact (kept first values (by rw [firstIndices]; simpa using apart.symm) _).symm
    · rw [show network.nodes = topology.nodes from nodes_of_topology attached] at together
      exact together
  · rfl

end Network

end Dispatch
