import Dispatch.Proofs.Frame.Network
import Dispatch.Proofs.Network.Filing

namespace Dispatch.Network

/-! Networks that are saved and read back. Whether that works does not depend on what was
generated and updated, but on what was set up since the layouts were taken: a number of intervals
or a descriptor of another size makes arrays that repeat look as if they still had their form. -/

section Setup

variable {K : Type} {network : Network K}

/-- Set up the same way, with whatever values and rows. -/
structure SameSetup (before after : Network K) : Prop where
  descriptor : after.descriptor = before.descriptor
  looseNodes : after.looseNodes = before.looseNodes
  intervals : after.intervals = before.intervals
  layouts : after.layouts = before.layouts

theorem SameSetup.refl (network : Network K) : network.SameSetup network := ⟨rfl, rfl, rfl, rfl⟩

theorem SameSetup.trans {first second third : Network K} (early : first.SameSetup second)
    (late : second.SameSetup third) : first.SameSetup third :=
  ⟨late.descriptor.trans early.descriptor, late.looseNodes.trans early.looseNodes,
    late.intervals.trans early.intervals, late.layouts.trans early.layouts⟩

theorem SameSetup.nodes {before after : Network K} (same : before.SameSetup after) :
    after.nodes = before.nodes := by
  rw [Network.nodes, topology?, same.descriptor, same.looseNodes]
  rfl

theorem SameSetup.lines {before after : Network K} (same : before.SameSetup after) :
    after.lines = before.lines := by
  rw [Network.lines, topology?, same.descriptor]
  rfl

theorem SameSetup.extent {before after : Network K} (same : before.SameSetup after) :
    after.extent = before.extent := by
  rw [Network.extent, same.intervals, same.nodes, Network.extent]

theorem sameSetup_step {target : Stage} {advance : Network K → Except Error (Network K)}
    (advances : ∀ result, advance network = .ok result → network.SameSetup result) :
    network.SameSetup (step target advance network).state :=
  step_preserves (.refl network) fun _ => advances

variable [Scalar K]

theorem sameSetup_generateConstraints (network : Network K) :
    network.SameSetup (Network.generateConstraints network).state :=
  sameSetup_step fun result advanced => by
    rcases withConstraints_cases advanced with ⟨-, rfl⟩ | ⟨_, _, _, _, rfl⟩ <;>
      exact ⟨rfl, rfl, rfl, rfl⟩

theorem sameSetup_setKappa (address : Address) (values : List K) (physical abstract : Mode)
    (network : Network K) :
    network.SameSetup (Network.setKappa address values physical abstract network).state := by
  rw [(kappaPatched_setKappa address values physical abstract network).1.rest]
  exact ⟨rfl, rfl, rfl, rfl⟩

theorem sameSetup_setDemand (address : Address) (values : List K) (physical abstract : Mode)
    (network : Network K) :
    network.SameSetup (Network.setDemand address values physical abstract network).state := by
  rw [(demandPatched_setDemand address values physical abstract network).1.rest]
  exact ⟨rfl, rfl, rfl, rfl⟩

theorem sameSetup_setInjectionBounds (minimum maximum : List K) (physical abstract : Mode)
    (network : Network K) : network.SameSetup
      (Network.setInjectionBounds minimum maximum physical abstract network).state := by
  rw [(boundsPatched_setInjectionBounds minimum maximum physical abstract network).1.rest]
  exact ⟨rfl, rfl, rfl, rfl⟩

theorem sameSetup_perform (call : Call K) (network : Network K) :
    network.SameSetup (call.perform network) := by
  cases call with
  | generateVariables =>
      exact sameSetup_step fun _ advanced => by
        cases advanced
        exact ⟨rfl, rfl, rfl, rfl⟩
  | generateConstraints => exact sameSetup_generateConstraints network
  | generateObjective =>
      exact sameSetup_step fun _ advanced => by
        cases advanced
        exact ⟨rfl, rfl, rfl, rfl⟩
  | setKappa address values physical abstract => exact sameSetup_setKappa ..
  | setDemand address values physical abstract => exact sameSetup_setDemand ..
  | setInjectionBounds minimum maximum physical abstract => exact sameSetup_setInjectionBounds ..
  | setConstantTerm constant => exact ⟨rfl, rfl, rfl, rfl⟩

theorem sameSetup_play (calls : List (Call K)) (network : Network K) :
    network.SameSetup (network.play calls) := by
  induction calls generalizing network with
  | nil => exact .refl network
  | cons call rest induction =>
      exact (sameSetup_perform call network).trans (induction (call.perform network))

end Setup

variable {network : Network Float}

/-- There is an interval and a node, and several nodes without descriptor came with a demand. -/
structure Counted (network : Network Float) : Prop where
  timed : 0 < network.intervals
  occupied : 0 < network.looseNodes
  counted : network.descriptor = none → 1 < network.looseNodes →
    network.layouts.hasField "ActiveDemand" = true

theorem counted_bus (block : BlockId) : (bus block : Network Float).Counted :=
  ⟨Nat.one_pos, Nat.one_pos, fun _ several => absurd several (lt_irrefl 1)⟩

theorem Counted.congr {other : Network Float} (counted : network.Counted)
    (same : network.SameSetup other) : other.Counted := by
  obtain ⟨timed, occupied, listed⟩ := counted
  rw [← same.intervals] at timed
  rw [← same.looseNodes] at occupied
  rw [← same.descriptor, ← same.looseNodes, ← same.layouts] at listed
  exact ⟨timed, occupied, listed⟩

theorem counted_ofGroup {group : Group} {before after : Nat}
    (created : Network.ofGroup group before = (.ok network, after)) : network.Counted := by
  obtain ⟨timed, given, hasDemand, descriptor, -, -, -, -, -, -, -, -, -, rfl⟩ :=
    filled_eq_ok.mp (ofGroup_eq_ok.mp created).1
  refine ⟨?_, ?_, fun bare several => ?_⟩
  · change 0 < ((bus ⟨before⟩).located group descriptor given).intervals
    rw [intervals_located]
    exact Nat.pos_of_ne_zero timed
  · cases descriptor with
    | some descriptor => exact Nat.one_pos
    | none =>
        cases given with
        | none => exact Nat.one_pos
        | some values => exact Nat.lt_of_lt_of_le Nat.one_pos (Nat.le_max_right _ _)
  · cases descriptor with
    | some descriptor => cases bare
    | none =>
        cases given with
        | none => exact absurd several (lt_irrefl 1)
        | some values =>
            rw [Layouts.hasField_ofGroup]
            exact Group.isSome_field?_of_doubles? hasDemand

theorem Counted.setDescriptor (counted : network.Counted)
    (descriptor : Holding (Descriptor Float)) :
    (Network.setDescriptor descriptor network).state.Counted := by
  rcases setDescriptor_cases descriptor network with still | ⟨-, attached⟩
  · rwa [still]
  · rw [attached]
    exact ⟨counted.timed, counted.occupied, nofun⟩

theorem Counted.editDescriptor (counted : network.Counted) (edit : DcData.Edit Float) :
    (Network.editDescriptor edit network).state.Counted := by
  rcases editDescriptor_cases edit network with still | ⟨-, _, _, -, -, edited⟩
  · rwa [still]
  · rw [edited]
    exact ⟨counted.timed, counted.occupied, nofun⟩

theorem Counted.overwriteDescriptor (counted : network.Counted) (descriptor : Descriptor Float) :
    (Network.overwriteDescriptor descriptor network).state.Counted := by
  rcases overwriteDescriptor_cases descriptor network with still | ⟨-, overwritten⟩
  · rwa [still]
  · rw [overwritten]
    exact ⟨counted.timed, counted.occupied, nofun⟩

theorem Counted.setIntervals (counted : network.Counted) (intervals : Nat) :
    (Network.setIntervals intervals network).state.Counted := by
  rcases setIntervals_cases intervals network with still | ⟨-, some, reset⟩
  · rwa [still]
  · rw [reset]
    exact ⟨Nat.pos_of_ne_zero some, counted.occupied, counted.counted⟩

theorem counted_of_made (made : network.Made) : network.Counted := by
  cases made with
  | new created =>
      cases created
      exact counted_bus _
  | ofDescriptor created =>
      cases created
      exact ⟨Nat.one_pos, Nat.one_pos, nofun⟩
  | ofGroup created => exact counted_ofGroup created

theorem Counted.perform (counted : network.Counted) (operation : Operation Float) :
    (operation.perform network).Counted := by
  cases operation with
  | setDescriptor descriptor => exact counted.setDescriptor descriptor
  | editDescriptor edit => exact counted.editDescriptor edit
  | overwriteDescriptor descriptor => exact counted.overwriteDescriptor descriptor
  | setIntervals intervals => exact counted.setIntervals intervals
  | withSettings settings => exact counted.congr ⟨rfl, rfl, rfl, rfl⟩
  | withNotifier notifier => exact counted.congr ⟨rfl, rfl, rfl, rfl⟩
  | editStore edit => exact counted.congr ⟨rfl, rfl, rfl, rfl⟩
  | call step => exact counted.congr (sameSetup_perform step network)

theorem counted_of_reachable (reachable : network.Reachable) : network.Counted := by
  induction reachable with
  | start made => exact counted_of_made made
  | step _ operation _ counted => exact counted.perform operation

/-- The descriptor, if there is one, is no extension, and its data were made and edited as such
data can be. -/
def Described (network : Network Float) : Prop :=
  ∀ holding, network.descriptor = some holding → ∃ data, holding.value = .dc data ∧ data.Made

theorem Reachable.filable (reachable : network.Reachable) (described : network.Described) :
    network.Filable := by
  obtain ⟨timed, occupied, counted⟩ := counted_of_reachable reachable
  refine ⟨timed, fun holding held => ?_, occupied, counted⟩
  obtain ⟨data, same, made⟩ := described holding held
  exact ⟨data, same, made.filable⟩

/-- However a network was set up and updated, what is saved of it is read back as a network that
resembles it if and only if demand and kappa are written in forms that a reader can complete. -/
theorem ofGroup_write_iff_fits (reachable : network.Reachable) (described : network.Described)
    (moderate : network.Moderate) (before : Nat) :
    (∃ again, Network.ofGroup (network.write Group.empty) before = (.ok again, before + 1) ∧
      again.Resembles network) ↔ network.Fits := by
  have filable := reachable.filable described
  rw [filable.write_empty]
  constructor
  · rintro ⟨again, read, resembles⟩
    exact filable.fits_of_read moderate read resembles.nodes
  · intro fits
    exact filable.restored moderate fits before

/-- Three nodes in a row, with a demand for each. -/
def rowGroup : Group where
  dims := [("NumberLines", 2), ("NumberNodes", 3)]
  fields := [
    ("ActiveDemand", ⟨["NumberNodes"], .doubles [1, 2, 3]⟩),
    ("EndLine", ⟨["NumberLines"], .counts [1, 2]⟩),
    ("MaxPowerFlow", ⟨[], .doubles [10]⟩),
    ("MinPowerFlow", ⟨[], .doubles [-10]⟩),
    ("StartLine", ⟨["NumberLines"], .counts [0, 1]⟩)]
  groups := []

/-- The demand is reset with the number of intervals, and six zeros are three runs of two. -/
theorem ofGroup_write_refused : ∃ row twice, Network.ofGroup rowGroup 0 = (.ok row, 1) ∧
    setIntervals 2 row = ⟨twice, [], .ok ⟨⟩⟩ ∧ ¬twice.Fits ∧
    (Network.ofGroup (twice.write Group.empty) 1).1.map Network.nodes =
      .error (.shape "ActiveDemand" 6 3) := by
  refine ⟨_, _, rfl, rfl, ?_, ?_⟩
  · rintro ⟨demand, -⟩
    revert demand
    decide +kernel
  · decide +kernel

/-- Made without a group. -/
inductive Built : Network Float → Prop
  | new {network : Network Float} {before after : Nat}
      (created : Network.new before = (.ok network, after)) : Built network
  | ofDescriptor {data : DcData Float} {isShared : Bool} {network : Network Float}
      {before after : Nat} (made : data.Made)
      (created : Network.ofDescriptor ⟨.dc data, isShared⟩ before = (.ok network, after)) :
      Built network
  | setIntervals {network : Network Float} (built : Built network) (intervals : Nat) :
      Built (Network.setIntervals intervals network).state

/-- Made or read, and not set up again after it was read. -/
inductive Begun : Network Float → Prop
  | built {network : Network Float} (built : Built network) : Begun network
  | ofGroup {group : Group} {network : Network Float} {before after : Nat}
      (created : Network.ofGroup group before = (.ok network, after)) : Begun network

/-- The layouts were taken from arrays of the sizes that the network has. -/
structure Anchored (network : Network Float) : Prop where
  demand : ∀ layout, network.layouts.layout? "ActiveDemand" = some layout →
    layout.size = network.extent ∨
      layout.size = 1 ∧ (network.descriptor.isSome ∨ network.nodes = 1)
  kappa : ∀ layout, network.layouts.layout? "Kappa" = some layout →
    layout.size = 1 ∨ layout.size = network.lines

theorem Anchored.congr {other : Network Float} (anchored : network.Anchored)
    (same : network.SameSetup other) : other.Anchored := by
  obtain ⟨demand, kappa⟩ := anchored
  rw [← same.layouts, ← same.extent, ← same.descriptor, ← same.nodes] at demand
  rw [← same.layouts, ← same.lines] at kappa
  exact ⟨demand, kappa⟩

theorem Anchored.fits (anchored : network.Anchored) : network.Fits := by
  constructor
  · rcases network.layouts.shortened_cases "ActiveDemand" network.allDemands with
      same | ⟨layout, found, short⟩
    · exact .inl (same.symm ▸ network.length_allDemands)
    · rw [length_of_compact? short]
      exact anchored.demand layout found
  · rcases network.layouts.shortened_cases "Kappa" network.allKappas with
      same | ⟨layout, found, short⟩
    · exact .inr (same.symm ▸ network.length_allKappas)
    · rw [length_of_compact? short]
      exact anchored.kappa layout found

theorem Built.layouts (built : network.Built) : network.layouts = Layouts.none := by
  induction built with
  | new created =>
      cases created
      rfl
  | ofDescriptor _ created =>
      cases created
      rfl
  | @setIntervals network _ intervals layouts =>
      rcases setIntervals_cases intervals network with still | ⟨-, -, reset⟩
      · rwa [still]
      · rwa [reset]

theorem anchored_ofGroup {group : Group} {before after : Nat}
    (created : Network.ofGroup group before = (.ok network, after)) : network.Anchored := by
  obtain ⟨-, given, hasDemand, descriptor, -, demand, demandFilled, levels, hasKappa, kappa,
    kappaFilled, -, -, rfl⟩ := filled_eq_ok.mp (ofGroup_eq_ok.mp created).1
  constructor
  · intro layout found
    cases given with
    | none =>
        rw [Layouts.layout?_ofGroup, Group.doubles?_eq_none.mp hasDemand] at found
        cases found
    | some values =>
        rw [(Group.doubles?_layout hasDemand found).1]
        rcases broadcast_form demandFilled with single | all
        · refine .inr ⟨single, ?_⟩
          cases descriptor with
          | some descriptor => exact .inl rfl
          | none =>
              refine .inr ?_
              change max (values.length / _) 1 = 1
              rw [single]
              exact Nat.max_eq_right (Nat.div_le_self 1 _)
        · exact .inl all
  · intro layout found
    cases levels with
    | none =>
        rw [Layouts.layout?_ofGroup, Group.doubles?_eq_none.mp hasKappa] at found
        cases found
    | some values =>
        rw [(Group.doubles?_layout hasKappa found).1]
        exact broadcast_form kappaFilled

theorem Begun.anchored (begun : network.Begun) : network.Anchored := by
  cases begun with
  | ofGroup created => exact anchored_ofGroup created
  | built built =>
      have unlisted (name : String) (layout : Layout) :
          network.layouts.layout? name ≠ some layout := by
        rw [built.layouts]
        exact nofun
      exact ⟨fun layout found => absurd found (unlisted _ layout),
        fun layout found => absurd found (unlisted _ layout)⟩

theorem Built.reachable (built : network.Built) : network.Reachable := by
  induction built with
  | new created => exact .start (.new created)
  | ofDescriptor _ created => exact .start (.ofDescriptor created)
  | setIntervals _ intervals reachable => exact reachable.step (.setIntervals intervals) trivial

theorem Begun.reachable (begun : network.Begun) : network.Reachable := by
  cases begun with
  | built built => exact built.reachable
  | ofGroup created => exact .start (.ofGroup created)

theorem Built.described (built : network.Built) : network.Described := by
  induction built with
  | new created =>
      cases created
      exact nofun
  | @ofDescriptor data _ _ _ _ made created =>
      cases created
      rintro _ ⟨⟩
      exact ⟨data, rfl, made⟩
  | @setIntervals network _ intervals described =>
      rcases setIntervals_cases intervals network with still | ⟨-, -, reset⟩
      · rwa [still]
      · rw [reset]
        exact described

theorem Begun.described (begun : network.Begun) : network.Described := by
  cases begun with
  | built built => exact built.described
  | ofGroup created =>
      obtain ⟨-, given, -, descriptor, hasDescriptor, -, -, -, -, -, -, -, -, rfl⟩ :=
        filled_eq_ok.mp (ofGroup_eq_ok.mp created).1
      unfold descriptorOfGroup at hasDescriptor
      split at hasDescriptor
      · obtain ⟨data, read, rfl⟩ := Except.map_eq_ok.mp hasDescriptor
        rintro _ ⟨⟩
        exact ⟨data, rfl, .ofGroup read⟩
      · cases hasDescriptor
        cases given <;> exact nofun

/-- A network that was made or read, and then updated and generated in any order, is read back from
what is saved of it. -/
theorem ofGroup_write_of_play {start : Network Float} (begun : start.Begun)
    (calls : List (Call Float)) (moderate : (start.play calls).Moderate) (before : Nat) :
    ∃ again, Network.ofGroup ((start.play calls).write Group.empty) before =
        (.ok again, before + 1) ∧
      again.Resembles (start.play calls) := by
  have setup := sameSetup_play calls start
  have described : (start.play calls).Described := by
    rw [Described, setup.descriptor]
    exact begun.described
  have filable := (begun.reachable.play calls).filable described
  rw [filable.write_empty]
  exact filable.restored moderate (begun.anchored.congr setup).fits before

/-- Two nodes over two intervals, with a single demand for all of them. -/
def strandGroup : Group where
  dims := [("NumberIntervals", 2), ("NumberLines", 1), ("NumberNodes", 2)]
  fields := [
    ("ActiveDemand", ⟨[], .counts [3]⟩),
    ("EndLine", ⟨["NumberLines"], .counts [1]⟩),
    ("MaxPowerFlow", ⟨[], .doubles [10]⟩),
    ("MinPowerFlow", ⟨[], .doubles [-10]⟩),
    ("StartLine", ⟨["NumberLines"], .counts [0]⟩)]
  groups := []

def strandData : DcData Float :=
  { (DcData.bus : DcData Float) with
    nodes := 2
    start := [0]
    finish := [1]
    minFlow := [-10]
    maxFlow := [10]
    layouts := Layouts.ofGroup strandGroup }

def strand : Network Float :=
  { ((bus ⟨0⟩).located strandGroup (some (.dc strandData)) (some [3])) with
    demand := [3, 3, 3, 3]
    layouts := Layouts.ofGroup strandGroup }

theorem ofGroup_strandGroup : Network.ofGroup strandGroup 0 = (.ok strand, 1) := by
  rfl

/-- One demand moves away from the others, and kappa is new. -/
def strandCalls : List (Call Float) :=
  [.generateVariables, .setDemand (.range 0 1) [2.5] .quiet .quiet, .generateConstraints,
    .setKappa (.range 0 1) [2] .quiet .quiet, .setConstantTerm 7]

theorem moderate_strand : (strand.play strandCalls).Moderate where
  footing := {
    minFlow := by decide +kernel
    maxFlow := by decide +kernel
    susceptance := by decide +kernel
    cost := by decide +kernel
    factors := nofun }
  demand := by decide +kernel
  kappa := by decide +kernel
  constantTerm := by decide +kernel

theorem ofGroup_write_of_play_strand :
    (strand.play strandCalls).demand = [2.5, 3, 3, 3] ∧ (strand.play strandCalls).kappa = [2] ∧
    ∃ again, Network.ofGroup ((strand.play strandCalls).write Group.empty) 1 = (.ok again, 2) ∧
      again.Resembles (strand.play strandCalls) :=
  ⟨by rfl, by rfl,
    ofGroup_write_of_play (.ofGroup ofGroup_strandGroup) strandCalls moderate_strand 1⟩

/-- A single node that has a matrix, if an empty one. -/
def soleGroup : Group where
  dims := [("NumberNodes", 1)]
  fields := []
  groups := []

def soleData : DcData Float :=
  { (DcData.bus : DcData Float) with
    factors := some []
    layouts := Layouts.ofGroup soleGroup }

theorem made_soleData : soleData.Made :=
  have read : DcData.ofGroup soleGroup = .ok { soleData with factors := none } := rfl
  have edited : DcData.edited { soleData with factors := none } (.factors (some [])) =
    .ok soleData := rfl
  (DcData.Made.ofGroup read).edited edited

def sole : Network Float :=
  (bus ⟨0⟩).attach ⟨.dc soleData, false⟩

theorem begun_sole : sole.Begun :=
  have created : Network.ofDescriptor ⟨.dc soleData, false⟩ 0 = (.ok sole, 1) := rfl
  .built (.ofDescriptor made_soleData created)

theorem moderate_sole : sole.Moderate where
  footing := {
    minFlow := nofun
    maxFlow := nofun
    susceptance := nofun
    cost := nofun
    factors := by
      rintro _ ⟨⟩
      exact nofun }
  demand := nofun
  kappa := nofun
  constantTerm := by decide +kernel

/-- An empty matrix and none are not told apart on file. -/
theorem unkept_factors_sole : sole.Begun ∧ sole.Moderate ∧ sole.footing.factors = some [] ∧
    ∃ again, Network.ofGroup (sole.write Group.empty) 1 = (.ok again, 2) ∧
      again.footing.factors = none :=
  ⟨begun_sole, moderate_sole, rfl, _, rfl, rfl⟩

end Dispatch.Network
