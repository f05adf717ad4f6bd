import Dispatch.Proofs.Group.Forms
import Dispatch.Proofs.Reachable.Accounted
import Dispatch.Proofs.Topology.Resaving

namespace Dispatch

/-! What a schedule is read as, apart from the numbers that its members get. The reading of
the contents alone accepts the same groups, and finds in them what the schedule holds. -/

/-- A creation does what a computation without numbers does: it is refused where that one
is, and has a related result where that one has a result. -/
structure Creation.Follows {α β : Type} (creation : Creation α) (plain : Except Error β)
    (related : α → β → Prop) : Prop where
  refused : ∀ error, plain = .error error → ∀ before, (creation before).1 = .error error
  created : ∀ answer, plain = .ok answer → ∀ before, ∃ result after,
    creation before = (.ok result, after) ∧ related result answer

namespace Creation.Follows

variable {α β γ δ : Type} {creation : Creation α} {plain : Except Error β}
  {related : α → β → Prop}

theorem done {result : α} {answer : β} (holds : related result answer) :
    (pure result : Creation α).Follows (.ok answer) related where
  refused := nofun
  created := fun _ same before => ⟨result, before, rfl, Except.ok.inj same ▸ holds⟩

theorem require (plain : Except Error α) : (Creation.require plain).Follows plain Eq where
  refused := by
    rintro error rfl before
    rfl
  created := by
    rintro answer rfl before
    exact ⟨answer, before, rfl, rfl⟩

theorem bind (first : creation.Follows plain related) {next : α → Creation γ}
    {plainNext : β → Except Error δ} {relatedNext : γ → δ → Prop}
    (rest : ∀ result answer, plain = .ok answer → related result answer →
      (next result).Follows (plainNext answer) relatedNext) :
    (creation >>= next).Follows (plain >>= plainNext) relatedNext := by
  have run (before : Nat) : (creation >>= next) before = andThen creation next before := rfl
  constructor
  · intro error refused before
    rw [run]
    unfold andThen
    cases plain with
    | error other =>
        cases refused
        have stopped := first.refused error rfl before
        cases begun : creation before with
        | mk part middle =>
            rw [begun] at stopped
            cases stopped
            rfl
    | ok answer =>
        obtain ⟨result, middle, begun, holds⟩ := first.created answer rfl before
        rw [begun]
        exact (rest result answer rfl holds).refused error refused middle
  · intro last accepted before
    rw [run]
    unfold andThen
    obtain ⟨answer, same, accepted⟩ := Except.bind_eq_ok.mp accepted
    obtain ⟨result, middle, begun, holds⟩ := first.created answer same before
    rw [begun]
    exact (rest result answer same holds).created last accepted middle

/-- A step that is never refused has no counterpart. -/
theorem bind_ok {answer : β} (first : creation.Follows (.ok answer) related)
    {next : α → Creation γ} {plainNext : Except Error δ} {relatedNext : γ → δ → Prop}
    (rest : ∀ result, related result answer → (next result).Follows plainNext relatedNext) :
    (creation >>= next).Follows plainNext relatedNext := by
  change (creation >>= next).Follows ((.ok answer : Except Error β) >>= fun _ => plainNext) _
  refine first.bind fun result other same holds => rest result ?_
  cases same
  exact holds

/-- A plain step on both sides. -/
theorem bind_require (plain : Except Error β) {next : β → Creation γ}
    {plainNext : β → Except Error δ} {related : γ → δ → Prop}
    (rest : ∀ answer, plain = .ok answer → (next answer).Follows (plainNext answer) related) :
    (Creation.require plain >>= next).Follows (plain >>= plainNext) related := by
  cases plain with
  | error error =>
      exact ⟨fun _ same _ => congrArg Except.error (Except.error.inj same), fun _ same => by
        cases same⟩
  | ok answer => exact rest answer rfl

/-- The result was created from some numbering. -/
theorem withRun (follows : creation.Follows plain related) :
    creation.Follows plain fun result answer =>
      related result answer ∧ ∃ before after, creation before = (.ok result, after) where
  refused := follows.refused
  created := fun answer same before =>
    have ⟨result, after, run, holds⟩ := follows.created answer same before
    ⟨result, after, run, holds, before, after, run⟩

theorem eq_ok (follows : creation.Follows plain related) {before after : Nat} {result : α}
    (created : creation before = (.ok result, after)) :
    ∃ answer, plain = .ok answer ∧ related result answer := by
  cases plain with
  | error error =>
      have refused := follows.refused error rfl before
      rw [created] at refused
      cases refused
  | ok answer =>
      obtain ⟨_, _, same, holds⟩ := follows.created answer rfl before
      cases created.symm.trans same
      exact ⟨answer, rfl, holds⟩

end Creation.Follows

namespace Schedule

/-- The data of a schedule and of its members, without numbers, notifiers and layouts. -/
structure Contents where
  horizon : Nat
  nodes : Nat
  classname : String
  /-- The data and the scale of every plant. -/
  plants : List (PlantData Float × Float)
  /-- The topology of the network of every instant; a bus has no networks. -/
  topologies : List (Option (Topology Float))
  generatorNode : List Nat
  demand : List Float
  primary : Zoning Float
  secondary : Zoning Float
  inertia : Zoning Float
  emissions : Emissions Float
  constants : List Float

def contents (schedule : Schedule Float) : Contents where
  horizon := schedule.horizon
  nodes := schedule.nodes
  classname := schedule.classname
  plants := schedule.plants.map fun plant => (plant.data, plant.scale)
  topologies := schedule.networks.map Network.topology?
  generatorNode := schedule.generatorNode
  demand := schedule.demand
  primary := schedule.primary
  secondary := schedule.secondary
  inertia := schedule.inertia
  emissions := schedule.emissions
  constants := schedule.networkConstants

namespace Contents

def generators (contents : Contents) : Nat :=
  (contents.plants.map fun plant => plant.1.generators).foldr (· + ·) 0

def bus (horizon : Nat) : Contents where
  horizon := horizon
  nodes := 1
  classname := DcData.classname
  plants := []
  topologies := []
  generatorNode := []
  demand := []
  primary := Zoning.none
  secondary := Zoning.none
  inertia := Zoning.none
  emissions := Emissions.none
  constants := []

def plantOfGroup (group : Group) : Except Error (PlantData Float × Float) := do
  let data ← Plant.dataOfGroup group
  let scale ← Plant.scaleOfGroup group
  return (data, scale)

def addPlant (plant : PlantData Float × Float) (contents : Contents) :
    Except Error Contents := do
  checkSize "unit time horizon" contents.horizon plant.1.horizon
  return { contents with plants := contents.plants ++ [plant] }

def addPlants (group : Group) : Nat → Nat → Contents → Except Error Contents
  | 0, _, contents => return contents
  | remaining + 1, index, contents => do
      let member ← group.member (plantName index)
      let plant ← plantOfGroup member
      let contents ← contents.addPlant plant
      addPlants group remaining (index + 1) contents

def withNetwork (group : Group) (nodes : Nat) (contents : Contents) :
    Except Error Contents := do
  let generatorNode ← group.counts? "GeneratorNode"
  if 1 < nodes then
    let classname ← classnameOfGroup group
    let descriptor ← DescriptorFactory.plain.build classname group
    let generatorNode ← Group.orMissing "GeneratorNode" generatorNode
    let topology := descriptor.topology
    return { contents with
      classname := topology.classname
      nodes := topology.nodes
      topologies :=
        if 1 < topology.nodes then List.replicate contents.horizon (some topology) else []
      generatorNode
      demand := [] }
  else return { contents with generatorNode := generatorNode.getD [] }

/-- Demand of zeros only is that of a schedule without any. -/
def settled (extent : Nat) (given : List Float) : Except Error (List Float) := do
  let values ← broadcast given extent "ActivePowerDemand"
  return if values.any fun value => 0 != value then values else []

def withDemand (group : Group) (nodes : Nat) (contents : Contents) :
    Except Error Contents := do
  match ← group.doubles? "ActivePowerDemand" with
  | none => return contents
  | some given => return { contents with demand := ← settled (nodes * contents.horizon) given }

/-- A bus has any number of constants. -/
def constantsFor (topologies : List (Option (Topology Float))) (given : List Float) :
    Except Error (List Float) :=
  if topologies.isEmpty then .ok given
  else broadcast given topologies.length "NetworkConstantTerms"

def withConstants (group : Group) (contents : Contents) : Except Error Contents := do
  match ← group.doubles? "NetworkConstantTerms" with
  | none => return contents
  | some given => return { contents with constants := ← constantsFor contents.topologies given }

def ofGroup (group : Group) : Except Error Contents := do
  let horizon ← group.dim "TimeHorizon"
  let plants ← group.dim "NumberUnits"
  let nodes := (group.dim? "NumberNodes").getD 1
  let contents ← addPlants group plants 0 (bus horizon)
  let contents ← contents.withNetwork group nodes
  let contents ← contents.withDemand group nodes
  let primary ← Zoning.ofGroup group "Primary" horizon
  let secondary ← Zoning.ofGroup group "Secondary" horizon
  let inertia ← Zoning.ofGroup group "Inertia" horizon
  let emissions ← Emissions.ofGroup group horizon contents.generators
  { contents with primary, secondary, inertia, emissions }.withConstants group

end Contents

/-- A schedule on the way from a group to its contents. -/
structure Holds (group : Group) (schedule : Schedule Float) (contents : Contents) : Prop where
  contents : schedule.contents = contents
  assembled : schedule.Assembled Plant.Read
  stage : schedule.stage = .empty
  plants : ∀ index plant, schedule.plants[index]? = some plant →
    ∃ member, group.member? (plantName index) = some member ∧
      plant.layouts = Layouts.ofGroup member
  networks : ∀ holding ∈ schedule.networks.map Network.descriptor,
    ∃ data, DcData.ofGroup group = .ok data ∧ holding = some (.shared (.dc data))

variable {group : Group} {schedule : Schedule Float} {contents : Contents}

theorem holds_ofHorizon (group : Group) (id : BlockId) (horizon : Nat) :
    Holds group (ofHorizon id horizon) (Contents.bus horizon) where
  contents := rfl
  assembled := .start (.ofHorizon id horizon)
  stage := rfl
  plants := fun index plant found => by cases found
  networks := fun holding member => by cases member

theorem follows_plant (group : Group) :
    (Plant.ofGroup group).Follows (Contents.plantOfGroup group) fun plant contents =>
      plant.data = contents.1 ∧ plant.scale = contents.2 ∧
        plant.layouts = Layouts.ofGroup group := by
  refine .bind_require _ fun data _ => ?_
  have new : (Plant.new data).Follows (.ok ()) fun plant _ => plant.data = data :=
    ⟨nofun, fun _ _ before => ⟨_, _, rfl, rfl⟩⟩
  refine new.bind_ok fun plant same => ?_
  exact .bind_require _ fun scale _ => .done ⟨same, rfl, rfl⟩

/-- A change that is refused where the contents are, and leaves what they are otherwise. -/
theorem follows_changed {α : Type} {change : Change (Schedule Float) α}
    {plain : Except Error Contents}
    (refused : ∀ error, plain = .error error → (change schedule).result = .error error)
    (accepted : ∀ contents, plain = .ok contents →
      (∃ answer, (change schedule).result = .ok answer) ∧
        Holds group (change schedule).state contents) :
    (schedule.changed change).Follows plain (Holds group) := by
  constructor
  · intro error same before
    unfold changed
    rw [refused error same]
    rfl
  · intro contents same before
    obtain ⟨⟨answer, result⟩, holds⟩ := accepted contents same
    refine ⟨(change schedule).state, before, ?_, holds⟩
    unfold changed
    rw [result]
    rfl

theorem addPlant_apply (early : schedule.stage = .empty) (plant : Plant Float) :
    Schedule.addPlant plant schedule =
      if plant.horizon = schedule.horizon then
        ⟨{ schedule with
            plants := schedule.plants ++ [{ plant with notifier := schedule.notifier }] },
          [], .ok schedule.plants.length⟩
      else
        ⟨schedule, [],
          .error (.shape "unit time horizon" schedule.horizon plant.horizon)⟩ := by
  have opened : schedule.checkOpen "the units" = .ok () := by
    rw [checkOpen, early]
    rfl
  unfold Schedule.addPlant checkSize
  rw [Change.current_bind, opened, Change.require_ok_bind]
  split <;> rfl

theorem Holds.addPlant (holds : Holds group schedule contents) {member : Group}
    (found : group.member? (plantName schedule.plants.length) = some member)
    {plant : Plant Float} {read : PlantData Float × Float} (data : plant.data = read.1)
    (scale : plant.scale = read.2) (layouts : plant.layouts = Layouts.ofGroup member)
    {before after : Nat} (created : Plant.ofGroup member before = (.ok plant, after)) :
    (schedule.changed (Schedule.addPlant plant)).Follows (contents.addPlant read)
      (Holds group) := by
  have horizon : contents.horizon = schedule.horizon := holds.contents ▸ rfl
  have plain : contents.addPlant read =
      if plant.horizon = schedule.horizon then
        .ok { contents with plants := contents.plants ++ [read] }
      else .error (.shape "unit time horizon" schedule.horizon plant.horizon) := by
    unfold Contents.addPlant checkSize
    rw [horizon, ← data]
    change ((if plant.horizon = schedule.horizon then _ else _) >>= _) = _
    split <;> rfl
  have run := addPlant_apply holds.stage plant
  have assembled := holds.assembled.addPlant created
  rw [plain]
  by_cases fits : plant.horizon = schedule.horizon
  · rw [if_pos fits] at run ⊢
    refine follows_changed nofun fun _ same => ?_
    cases same
    rw [run] at assembled ⊢
    refine ⟨⟨_, rfl⟩, ?_, assembled, holds.stage, fun index other listed => ?_, holds.networks⟩
    · rw [← holds.contents]
      simp [Schedule.contents, data, scale]
    · rw [List.getElem?_append] at listed
      split at listed
      · exact holds.plants index other listed
      · rename_i beyond
        obtain ⟨last, same⟩ := List.getElem?_eq_some_iff.mp listed
        obtain rfl : index = schedule.plants.length := by simp at last; omega
        simp only [Nat.sub_self, List.getElem_cons_zero] at same
        subst same
        exact ⟨member, found, layouts⟩
  · rw [if_neg fits] at run ⊢
    refine follows_changed (fun _ same => ?_) nofun
    cases same
    rw [run]

theorem length_addPlant {read : PlantData Float × Float} {result : Contents}
    (added : contents.addPlant read = .ok result) :
    result.plants.length = contents.plants.length + 1 := by
  obtain ⟨_, -, added⟩ := Except.bind_eq_ok.mp added
  cases added
  exact List.length_append

theorem Holds.addPlants (holds : Holds group schedule contents) (remaining index : Nat)
    (next : index = contents.plants.length) :
    (Schedule.addPlants group remaining index schedule).Follows
      (contents.addPlants group remaining index) (Holds group) := by
  induction remaining generalizing index schedule contents with
  | zero => exact .done holds
  | succ remaining induction =>
      have place : index = schedule.plants.length := by
        rw [next, ← holds.contents]
        exact List.length_map ..
      refine .bind_require _ fun member found => ?_
      refine (follows_plant member).withRun.bind ?_
      rintro plant read - ⟨⟨data, scale, layouts⟩, before, after, created⟩
      have listed := Group.member_eq_ok.mp (place ▸ found)
      refine (holds.addPlant listed data scale layouts created).bind ?_
      intro result answer added holds
      exact induction holds _ (next ▸ (length_addPlant added).symm)

theorem follows_networksFor (descriptor : Descriptor Float) (notifier : NotifierKey)
    (count : Nat) : (networksFor descriptor notifier count).Follows (.ok ()) fun _ _ => True := by
  have new : (Network.ofDescriptor (.shared descriptor)).Follows (.ok ()) fun _ _ => True :=
    ⟨nofun, fun _ _ before => ⟨_, _, rfl, trivial⟩⟩
  induction count with
  | zero => exact .done trivial
  | succ count induction =>
      exact new.bind_ok fun network _ => induction.bind_ok fun networks _ => .done trivial

theorem build_plain {classname : String} {descriptor : Descriptor Float}
    (built : DescriptorFactory.plain.build classname group = .ok descriptor) :
    classname = DcData.classname ∧
      ∃ data, DcData.ofGroup group = .ok data ∧ descriptor = .dc data := by
  unfold DescriptorFactory.build at built
  split at built
  · rename_i known
    obtain ⟨data, read, same⟩ := Except.map_eq_ok.mp built
    exact ⟨known, data, read, same.symm⟩
  · cases built

theorem Holds.setNetwork (holds : Holds group schedule contents) {data : DcData Float}
    (read : DcData.ofGroup group = .ok data) (generatorNode : List Nat) :
    (schedule.setNetwork (.dc data) generatorNode).Follows
      (.ok { contents with
        classname := data.topology.classname
        nodes := data.topology.nodes
        topologies :=
          if 1 < data.topology.nodes then
            List.replicate contents.horizon (some data.topology)
          else []
        generatorNode
        demand := [] })
      (Holds group) := by
  have created : (schedule.setNetwork (.dc data) generatorNode).Follows (.ok ())
      fun _ _ => True := by
    have opened : schedule.checkOpen "the network" = .ok () := by
      rw [checkOpen, holds.stage]
      rfl
    unfold Schedule.setNetwork
    rw [opened]
    refine Creation.Follows.bind_ok (.require (.ok ())) fun _ _ => ?_
    dsimp only
    split
    · exact (follows_networksFor _ _ _).bind_ok fun _ _ => .done trivial
    · exact .done trivial
  refine ⟨fun _ refused => (by cases refused), fun answer same before => ?_⟩
  cases same
  obtain ⟨result, after, run, -⟩ := created.created () rfl before
  refine ⟨result, after, run, ?_⟩
  have assembled := holds.assembled.setNetwork run
  obtain ⟨-, networks, rfl, attached⟩ := setNetwork_eq_ok run
  have new : ∀ network ∈ networks, network.descriptor = some (.shared (.dc data)) := by
    rcases attached with ⟨-, attached⟩ | ⟨-, rfl, -⟩
    · intro network member
      obtain ⟨id, rfl⟩ := (networksFor_new attached).2 network member
      rfl
    · exact fun network member => absurd member List.not_mem_nil
  refine ⟨?_, assembled, holds.stage, holds.plants, fun holding member => ?_⟩
  rotate_left
  · obtain ⟨network, listed, rfl⟩ := List.mem_map.mp member
    exact ⟨data, read, new network listed⟩
  have topologies : networks.map Network.topology? =
      if 1 < data.topology.nodes then List.replicate schedule.horizon (some data.topology)
      else [] := by
    rcases attached with ⟨several, attached⟩ | ⟨single, rfl, -⟩
    · have several : 1 < data.topology.nodes := several
      obtain ⟨length, -⟩ := networksFor_new attached
      rw [if_pos several]
      refine List.eq_replicate_iff.mpr ⟨by rw [List.length_map, length], fun topology member => ?_⟩
      obtain ⟨network, listed, rfl⟩ := List.mem_map.mp member
      rw [Network.topology?, new network listed]
      rfl
    · exact (if_neg single).symm
  rw [← holds.contents]
  simp only [Schedule.contents, topologies]
  rfl

theorem Holds.networkOfGroup (holds : Holds group schedule contents) (nodes : Nat) :
    (Schedule.networkOfGroup .plain group nodes schedule).Follows
      (contents.withNetwork group nodes) (Holds group) := by
  refine .bind_require _ fun given _ => ?_
  by_cases several : 1 < nodes
  · simp only [if_pos several]
    refine .bind_require _ fun classname _ => .bind_require _ fun descriptor built =>
      .bind_require _ fun generatorNode _ => ?_
    obtain ⟨-, data, read, rfl⟩ := build_plain built
    exact holds.setNetwork read generatorNode
  · simp only [if_neg several]
    refine .done ⟨?_, holds.assembled.withData _ _ _ _ _ _, holds.stage, holds.plants,
      holds.networks⟩
    rw [← holds.contents]
    rfl

/-- Every entry of a list is replaced in turn. -/
theorem foldl_set_range' {α : Type} (written rest values : List α)
    (length : values.length = rest.length) :
    ((List.range' written.length values.length).zip values).foldl
        (fun written pair => written.set pair.1 pair.2) (written ++ rest) =
      written ++ values := by
  induction values generalizing written rest with
  | nil => rw [List.eq_nil_of_length_eq_zero length.symm]; rfl
  | cons value values induction =>
      cases rest with
      | nil => cases length
      | cons other rest =>
          have shifted := induction (written ++ [value]) rest (Nat.succ.inj length)
          rw [List.length_append, List.append_assoc, List.append_assoc] at shifted
          rw [List.length_cons, List.range'_succ, List.zip_cons_cons, List.foldl_cons,
            List.set_append_right _ _ (le_refl _), Nat.sub_self]
          exact shifted

/-- Written over all entries of a vector that was never written, values take its place. -/
theorem write_whole (addressing : Addressing) (values : List Float) :
    Selection.write ⟨List.range' 0 values.length, addressing⟩ [] values.length 0 values =
      values := by
  have written := foldl_set_range' [] (List.replicate values.length (0 : Float)) values
    List.length_replicate.symm
  simpa [Selection.write, Selection.materialise] using written

theorem differs_whole (addressing : Addressing) (values : List Float) :
    Selection.differs ⟨List.range' 0 values.length, addressing⟩ [] 0 values =
      values.any fun value => 0 != value := by
  have second : ((List.range' 0 values.length).zip values).map Prod.snd = values :=
    List.map_snd_zip (by simp)
  calc
    _ = ((List.range' 0 values.length).zip values).any fun pair => 0 != pair.2 := by
      simp [Selection.differs, Selection.stored]
    _ = (((List.range' 0 values.length).zip values).map Prod.snd).any fun value => 0 != value := by
      rw [List.any_map]
      rfl
    _ = _ := by rw [second]

/-- A whole demand is accepted by a schedule that had none. -/
theorem setDemand_whole (sound : schedule.Sound) (early : schedule.stage = .empty)
    (fresh : schedule.demand = []) {values : List Float} {stop : Nat}
    (length : values.length = stop) (whole : stop = schedule.extent ∨ stop = 0) :
    (∃ answer, (setDemand (.range 0 stop) values .quiet .quiet schedule).result = .ok answer) ∧
      ∃ networks, (setDemand (.range 0 stop) values .quiet .quiet schedule).state =
        { schedule with
          demand := if values.any fun value => 0 != value then values else []
          networks } ∧
        networks.map Network.descriptor = schedule.networks.map Network.descriptor := by
  have unchanged : schedule =
      { schedule with demand := [], networks := schedule.networks } := by
    rw [← fresh]
  rw [setDemand_apply]
  rcases Nat.eq_zero_or_pos stop with none | positive
  · have nothing : values = [] := List.eq_nil_of_length_eq_zero (length.trans none)
    rw [none]
    exact ⟨⟨_, rfl⟩, schedule.networks, by rw [nothing]; exact unchanged, rfl⟩
  obtain rfl : stop = schedule.extent := whole.resolve_right (Nat.ne_of_gt positive)
  have selected : (Address.range 0 schedule.extent).select schedule.extent values.length
      "demand" = .ok (some ⟨List.range' 0 values.length, .range 0 schedule.extent⟩) := by
    simp [Address.select, checkRange, checkCount, length, Nat.not_le.mpr positive]
  have within := (Address.select_sound selected).1
  obtain ⟨after, notices, outcome, accepted, -⟩ :=
    sound.updateDemand_accepted within values .quiet .quiet
  rw [selected]
  dsimp only
  refine ⟨⟨outcome, by rw [accepted]⟩, ?_⟩
  rw [updateDemand_apply, fresh, differs_whole, ← length, write_whole]
  dsimp only
  cases changes : values.any fun value => 0 != value with
  | false => exact ⟨schedule.networks, unchanged, rfl⟩
  | true =>
      rw [if_neg (by simp), if_neg (by decide)]
      split
      · have unlinked : (Mode.quiet.writes && schedule.stage.hasConstraints) = false := by
          rw [early]
          rfl
        refine ⟨schedule.networks, ?_, rfl⟩
        rw [withBusLevels, unlinked]
        rfl
      · obtain ⟨rest, moved⟩ := forwardDemand_forall₂
          (fun before after : Network Float => before.descriptor = after.descriptor)
          (fun _ => rfl) (fun _ _ _ first second => first.trans second)
          (fun address values network => by
            rcases Network.setDemand_state address values .quiet Mode.quiet.silent network with
              same | ⟨selection, same⟩
            · rw [same]
            · rw [same, Network.withDemand_rest])
          (List.range' 0 values.length) (schedule.withDemand values)
        refine ⟨_, ?_, (Change.forall₂_map_eq moved).symm⟩
        split <;> exact rest

theorem topologies_congr {first second : List (Network Float)}
    (same : first.map Network.descriptor = second.map Network.descriptor) :
    first.map Network.topology? = second.map Network.topology? := by
  have view (networks : List (Network Float)) : networks.map Network.topology? =
      (networks.map Network.descriptor).map fun descriptor =>
        descriptor.map fun holding => holding.value.topology := by
    rw [List.map_map]
    rfl
  rw [view, view, same]

theorem Holds.demandOfGroup (holds : Holds group schedule contents) {nodes : Nat}
    (fresh : contents.demand = []) (fits : contents.nodes = nodes ∨ nodes = 0) :
    (Schedule.demandOfGroup group nodes schedule).Follows
      (contents.withDemand group nodes) (Holds group) := by
  have horizon : schedule.horizon = contents.horizon := holds.contents ▸ rfl
  refine .bind_require _ fun given _ => ?_
  cases given with
  | none => exact .done holds
  | some demand =>
      simp only [← horizon, Contents.settled, bind_assoc]
      refine .bind_require _ fun values full => ?_
      have unset : schedule.demand = [] := by rw [← fresh, ← holds.contents]; rfl
      have whole : nodes * schedule.horizon = schedule.extent ∨ nodes * schedule.horizon = 0 := by
        rcases fits with rfl | rfl
        · exact .inl (by rw [← holds.contents]; rfl)
        · exact .inr (Nat.zero_mul _)
      refine follows_changed nofun fun _ same => ?_
      cases same
      have assembled := holds.assembled.call
        (.setDemand (.range 0 (nodes * schedule.horizon)) values .quiet .quiet) trivial
      rw [Call.perform] at assembled
      obtain ⟨accepted, networks, moved, kept⟩ :=
        setDemand_whole holds.assembled.sound holds.stage unset (broadcast_ok full) whole
      rw [moved] at assembled ⊢
      refine ⟨accepted, ?_, assembled, holds.stage, holds.plants, kept ▸ holds.networks⟩
      rw [← holds.contents]
      simp only [Schedule.contents, topologies_congr kept]

theorem Holds.constantsOfGroup (holds : Holds group schedule contents) :
    (Schedule.constantsOfGroup group schedule).Follows
      (contents.withConstants group) (Holds group) := by
  have isBus : contents.topologies.isEmpty = schedule.isBus := by
    rw [← holds.contents]
    exact List.isEmpty_map
  have count : contents.topologies.length = schedule.networks.length := by
    rw [← holds.contents]
    exact List.length_map ..
  have accepted (constants : List Float)
      (fits : schedule.isBus = true ∨ constants.length = schedule.networks.length) :
      (schedule.changed (setNetworkConstants constants)).Follows
        (.ok { contents with constants }) (Holds group) := by
    refine follows_changed nofun fun _ same => ?_
    cases same
    have assembled := holds.assembled.call (.setNetworkConstants constants) trivial
    rw [Call.perform, setNetworkConstants_apply] at assembled
    rw [setNetworkConstants_apply]
    split at assembled
    · rename_i bus
      rw [if_pos bus]
      exact ⟨⟨_, rfl⟩, holds.contents ▸ rfl, assembled, holds.stage, holds.plants,
        holds.networks⟩
    · rename_i several
      rw [if_neg (not_not.mpr (fits.resolve_left several))] at assembled
      rw [if_neg several, if_neg (not_not.mpr (fits.resolve_left several))]
      have kept : (schedule.networks.mapIdx fun instant network =>
            network.withConstant (constants.getD instant 0)).map Network.descriptor =
          schedule.networks.map Network.descriptor := by
        refine (Change.forall₂_map_eq ?_).symm
        exact Change.mapIdx_forall₂ fun _ _ => rfl
      refine ⟨⟨_, rfl⟩, ?_, assembled, holds.stage, holds.plants, kept ▸ holds.networks⟩
      rw [← holds.contents]
      simp only [Schedule.contents, withConstants, withNetworks, topologies_congr kept]
  refine .bind_require _ fun given _ => ?_
  cases given with
  | none => exact .done holds
  | some constants =>
      simp only [Contents.constantsFor, isBus, count]
      by_cases bus : schedule.isBus = true
      · simp only [bus, if_true]
        exact accepted constants (.inl bus)
      · simp only [bus]
        exact .bind_require _ fun values full => accepted values (.inr (broadcast_ok full))

namespace Contents

theorem addPlant_eq_ok {plant : PlantData Float × Float} {result : Contents} :
    contents.addPlant plant = .ok result ↔ plant.1.horizon = contents.horizon ∧
      result = { contents with plants := contents.plants ++ [plant] } := by
  rw [addPlant, Except.bind_eq_ok]
  unfold checkSize
  split <;> simp_all [eq_comm]

/-- The members that are read are those of consecutive names, and none of them spans another
horizon. -/
theorem addPlants_eq_ok {remaining index : Nat} {result : Contents} :
    contents.addPlants group remaining index = .ok result ↔
      ∃ plants, plants.length = remaining ∧
        (∀ place plant, plants[place]? = some plant →
          ∃ member, group.member? (plantName (index + place)) = some member ∧
            plantOfGroup member = .ok plant ∧ plant.1.horizon = contents.horizon) ∧
        result = { contents with plants := contents.plants ++ plants } := by
  induction remaining generalizing index contents with
  | zero =>
      constructor
      · intro same
        cases same
        exact ⟨[], rfl, nofun, by rw [List.append_nil]⟩
      · rintro ⟨plants, none, -, rfl⟩
        rw [List.eq_nil_of_length_eq_zero none, List.append_nil]
        rfl
  | succ remaining induction =>
      constructor
      · intro added
        obtain ⟨member, found, added⟩ := Except.bind_eq_ok.mp added
        obtain ⟨plant, read, added⟩ := Except.bind_eq_ok.mp added
        obtain ⟨next, first, added⟩ := Except.bind_eq_ok.mp added
        obtain ⟨horizon, rfl⟩ := addPlant_eq_ok.mp first
        obtain ⟨plants, length, listed, rfl⟩ := induction.mp added
        refine ⟨plant :: plants, congrArg Nat.succ length, fun place other there => ?_, by simp⟩
        cases place with
        | zero =>
            cases there
            exact ⟨member, Group.member_eq_ok.mp found, read, horizon⟩
        | succ place =>
            obtain ⟨kept, found, rest⟩ := listed place other there
            exact ⟨kept, by rwa [← Nat.add_assoc, Nat.add_right_comm], rest⟩
      · rintro ⟨plants, length, listed, rfl⟩
        cases plants with
        | nil => cases length
        | cons plant plants =>
            obtain ⟨member, found, read, horizon⟩ := listed 0 plant rfl
            refine Except.bind_eq_ok.mpr ⟨member, Group.member_eq_ok.mpr found, ?_⟩
            refine Except.bind_eq_ok.mpr ⟨plant, read, ?_⟩
            refine Except.bind_eq_ok.mpr ⟨_, addPlant_eq_ok.mpr ⟨horizon, rfl⟩, ?_⟩
            refine induction.mpr ⟨plants, Nat.succ.inj length, fun place other there => ?_, by simp⟩
            obtain ⟨kept, found, rest⟩ := listed (place + 1) other there
            exact ⟨kept, by rwa [Nat.add_right_comm, Nat.add_assoc], rest⟩

def attach (contents : Contents) (topology : Topology Float) (generatorNode : List Nat) :
    Contents :=
  { contents with
    classname := topology.classname
    nodes := topology.nodes
    topologies :=
      if 1 < topology.nodes then List.replicate contents.horizon (some topology) else []
    generatorNode
    demand := [] }

/-- A bus has whatever generator nodes were given; several nodes need them, and lines. -/
theorem withNetwork_eq_ok {nodes : Nat} {result : Contents} :
    contents.withNetwork group nodes = .ok result ↔
      ¬1 < nodes ∧ (∃ given, group.counts? "GeneratorNode" = .ok given ∧
        result = { contents with generatorNode := given.getD [] }) ∨
      1 < nodes ∧ ∃ data generatorNode, classnameOfGroup group = .ok DcData.classname ∧
        DcData.ofGroup group = .ok data ∧
        group.counts? "GeneratorNode" = .ok (some generatorNode) ∧
        result = contents.attach data.topology generatorNode := by
  constructor
  · intro placed
    obtain ⟨given, read, placed⟩ := Except.bind_eq_ok.mp placed
    split at placed
    · rename_i several
      obtain ⟨classname, named, placed⟩ := Except.bind_eq_ok.mp placed
      obtain ⟨descriptor, built, placed⟩ := Except.bind_eq_ok.mp placed
      obtain ⟨generatorNode, present, placed⟩ := Except.bind_eq_ok.mp placed
      cases Group.orMissing_eq_ok.mp present
      obtain ⟨rfl, data, lines, rfl⟩ := build_plain built
      cases placed
      exact .inr ⟨several, data, generatorNode, named, lines, read, rfl⟩
    · rename_i single
      cases placed
      exact .inl ⟨single, given, read, rfl⟩
  · unfold withNetwork
    rintro (⟨single, given, read, rfl⟩ | ⟨several, data, generatorNode, named, lines, read, rfl⟩)
    · refine Except.bind_eq_ok.mpr ⟨_, read, ?_⟩
      rw [if_neg single]
      rfl
    · refine Except.bind_eq_ok.mpr ⟨_, read, ?_⟩
      rw [if_pos several]
      refine Except.bind_eq_ok.mpr ⟨_, named, Except.bind_eq_ok.mpr ⟨.dc data, ?_, rfl⟩⟩
      exact Except.map_eq_ok.mpr ⟨data, lines, rfl⟩

/-- Nothing but the place of the generators is new, and the demand is still to come. -/
theorem withNetwork_fresh {placed : Contents} (bus : contents.nodes = 1)
    (fresh : contents.demand = [])
    (located : contents.withNetwork group ((group.dim? "NumberNodes").getD 1) = .ok placed) :
    placed.demand = [] ∧ placed.constants = contents.constants ∧
      (placed.nodes = (group.dim? "NumberNodes").getD 1 ∨
        (group.dim? "NumberNodes").getD 1 = 0) := by
  rcases withNetwork_eq_ok.mp located with
    ⟨single, given, -, rfl⟩ | ⟨several, data, generatorNode, -, lines, -, rfl⟩
  · refine ⟨fresh, rfl, ?_⟩
    change contents.nodes = _ ∨ _
    omega
  · exact ⟨rfl, rfl, .inl ((DcData.ofGroup_eq_ok several).mp lines).nodes.symm⟩

end Contents

theorem follows_ofGroup (group : Group) :
    (ofGroup group).Follows (Contents.ofGroup group) fun schedule contents =>
      Holds group schedule contents ∧ schedule.layouts = Layouts.ofGroup group := by
  refine .bind_require _ fun horizon _ => .bind_require _ fun plants _ => ?_
  have new : (Schedule.new horizon).Follows (.ok ()) fun schedule _ =>
      Holds group schedule (Contents.bus horizon) :=
    ⟨nofun, fun _ _ before => ⟨_, _, rfl, holds_ofHorizon group _ horizon⟩⟩
  refine new.bind_ok fun schedule opened => ?_
  refine (opened.addPlants plants 0 rfl).bind fun schedule filled added holds => ?_
  obtain ⟨_, -, -, rfl⟩ := Contents.addPlants_eq_ok.mp added
  refine (holds.networkOfGroup _).bind fun schedule placed network holds => ?_
  obtain ⟨fresh, -, fits⟩ := Contents.withNetwork_fresh rfl rfl network
  refine (holds.demandOfGroup fresh fits).bind fun schedule filled _ holds => ?_
  refine .bind_require _ fun primary _ => .bind_require _ fun secondary _ =>
    .bind_require _ fun inertia _ => ?_
  have generators : filled.generators = schedule.generators := by
    rw [← holds.contents, Contents.generators, contents, List.map_map]
    rfl
  rw [generators]
  refine .bind_require _ fun emissions _ => ?_
  have zoned : Holds group { schedule with primary, secondary, inertia, emissions }
      { filled with primary, secondary, inertia, emissions } := by
    refine ⟨?_, holds.assembled.withData _ _ _ _ _ _, holds.stage, holds.plants,
      holds.networks⟩
    rw [← holds.contents]
    rfl
  rw [← bind_pure (Contents.withConstants group _)]
  refine zoned.constantsOfGroup.bind fun schedule contents _ holds => .done ⟨?_, rfl⟩
  refine ⟨?_, holds.assembled.withData _ _ _ _ _ _, holds.stage, holds.plants, holds.networks⟩
  exact holds.contents

end Schedule

end Dispatch
