import Dispatch.Proofs.Attempt.Generation
import Dispatch.Proofs.Closure.Numbering

namespace Dispatch

/-! Reading of a schedule with all of its lookups. A single value that stands for all is
looked up as the first one, and a demand on file is set as a program would. -/

def broadcast? {α : Type} (values : List α) (size : Nat) (what : String) :
    Trial (List α) :=
  if values.length = size then pure values
  else if values.length = 1 then do
    let value ← Trial.look values[0]?
    return List.replicate size value
  else Trial.refuse (.shape what size values.length)

theorem completes_broadcast {α : Type} (values : List α) (size : Nat) (what : String) :
    (broadcast? values size what).Completes (broadcast values size what) := by
  unfold broadcast? broadcast
  refine Trial.Completes.ite (fun _ => rfl) fun _ => ?_
  match values with
  | [] => rfl
  | [_] => rfl
  | _ :: _ :: _ => rfl

def expand? {α : Type} (values : List α) (members horizon : Nat) (what : String) :
    Trial (List α) :=
  let full := members * horizon
  if values.length = 1 then do
    let value ← Trial.look values[0]?
    return List.replicate full value
  else if values.length = full then pure values
  else if values.length = members then pure (stretch horizon values)
  else Trial.refuse (.shape what full values.length)

theorem completes_expand {α : Type} (values : List α) (members horizon : Nat)
    (what : String) :
    (expand? values members horizon what).Completes (expand values members horizon what) := by
  have several : Trial.Completes
      (if values.length = members * horizon then pure values
        else if values.length = members then pure (stretch horizon values)
        else Trial.refuse (.shape what (members * horizon) values.length))
      (if values.length = members * horizon then .ok values
        else if values.length = members then .ok (stretch horizon values)
        else .error (.shape what (members * horizon) values.length)) :=
    .ite (fun _ => rfl) fun _ => .ite (fun _ => rfl) fun _ => rfl
  match values with
  | [_] => rfl
  | [] => exact several
  | _ :: _ :: _ => exact several

namespace PlantData

variable {K : Type}

def expanded? (data : PlantData K) (values : List K) (what : String) : Trial (List K) :=
  expand? values data.generators data.horizon what

def new? (generators horizon : Nat) (minPower maxPower : List K) : Trial (PlantData K) := do
  let minPower ← expand? minPower generators horizon "MinPower"
  let maxPower ← expand? maxPower generators horizon "MaxPower"
  return {
    generators, horizon, minPower, maxPower
    linearCost := []
    commitment := false
    primaryReserve := false
    secondaryReserve := false
    fixedConsumption := []
    inertiaPower := []
    inertiaCommitment := [] }

def withLinearCost? (data : PlantData K) (values : List K) : Trial (PlantData K) := do
  return { data with linearCost := ← data.expanded? values "LinearCost" }

def withFixedConsumption? (data : PlantData K) (values : List K) : Trial (PlantData K) := do
  return { data with fixedConsumption := ← data.expanded? values "FixedConsumption" }

def withInertiaPower? (data : PlantData K) (values : List K) : Trial (PlantData K) := do
  return { data with inertiaPower := ← data.expanded? values "InertiaPower" }

def withInertiaCommitment? (data : PlantData K) (values : List K) : Trial (PlantData K) := do
  return { data with inertiaCommitment := ← data.expanded? values "InertiaCommitment" }

theorem completes_new (generators horizon : Nat) (minPower maxPower : List K) :
    (new? generators horizon minPower maxPower).Completes
      (new generators horizon minPower maxPower) :=
  Trial.Completes.bind (completes_expand ..) fun _ _ =>
    Trial.Completes.bind (completes_expand ..) fun _ _ => rfl

/-- A profile that is expanded into its place. -/
theorem completes_expanded (data : PlantData K) (values : List K) (what : String)
    (place : List K → PlantData K) :
    Trial.Completes (do return place (← data.expanded? values what))
      (do return place (← data.expanded values what)) :=
  Trial.Completes.bind (completes_expand ..) fun _ _ => rfl

end PlantData

namespace Plant

def ifPresent? (group : Group) (name : String) (data : PlantData Float)
    (extend? : PlantData Float → List Float → Trial (PlantData Float)) :
    Trial (PlantData Float) := do
  match ← Trial.require (group.doubles? name) with
  | none => return data
  | some values => extend? data values

def dataOfGroup? (group : Group) : Trial (PlantData Float) := do
  let generators := (group.dim? "NumberGenerators").getD 1
  let horizon ← Trial.require (group.dim "TimeHorizon")
  let minPower ← Trial.require (group.doubles "MinPower")
  let maxPower ← Trial.require (group.doubles "MaxPower")
  let data ← PlantData.new? generators horizon minPower maxPower
  let data ← ifPresent? group "LinearCost" data PlantData.withLinearCost?
  let commitment ← Trial.require (flag group "Commitment")
  let primaryReserve ← Trial.require (flag group "PrimaryReserve")
  let secondaryReserve ← Trial.require (flag group "SecondaryReserve")
  let data := { data with commitment, primaryReserve, secondaryReserve }
  let data ← ifPresent? group "FixedConsumption" data PlantData.withFixedConsumption?
  let data ← ifPresent? group "InertiaPower" data PlantData.withInertiaPower?
  ifPresent? group "InertiaCommitment" data PlantData.withInertiaCommitment?

def ofGroup? (group : Group) : Making (Plant Float) := do
  let data ← Making.demand (dataOfGroup? group)
  let plant ← Making.ofCreation (new data)
  let scale ← Making.ofCreation (Creation.require (scaleOfGroup group))
  return { plant with scale, layouts := Layouts.ofGroup group }

theorem completes_ifPresent (group : Group) (name : String) (data : PlantData Float)
    {extend? : PlantData Float → List Float → Trial (PlantData Float)}
    {extend : PlantData Float → List Float → Except Error (PlantData Float)}
    (extension : ∀ values, (extend? data values).Completes (extend data values)) :
    (ifPresent? group name data extend?).Completes (ifPresent group name data extend) := by
  refine Trial.Completes.bind (.require _) fun given _ => ?_
  cases given with
  | none => rfl
  | some values => exact extension values

theorem completes_dataOfGroup (group : Group) :
    (dataOfGroup? group).Completes (dataOfGroup group) := by
  unfold dataOfGroup? dataOfGroup
  refine Trial.Completes.bind (.require _) fun horizon _ => ?_
  refine Trial.Completes.bind (.require _) fun minPower _ => ?_
  refine Trial.Completes.bind (.require _) fun maxPower _ => ?_
  refine Trial.Completes.bind (PlantData.completes_new ..) fun data _ => ?_
  refine Trial.Completes.bind (completes_ifPresent _ _ data fun values =>
    data.completes_expanded values _ _) fun data _ => ?_
  refine Trial.Completes.bind (.require _) fun commitment _ => ?_
  refine Trial.Completes.bind (.require _) fun primaryReserve _ => ?_
  refine Trial.Completes.bind (.require _) fun secondaryReserve _ => ?_
  refine Trial.Completes.bind (completes_ifPresent _ _ _ fun values =>
    PlantData.completes_expanded _ values _ _) fun data _ => ?_
  refine Trial.Completes.bind (completes_ifPresent _ _ data fun values =>
    data.completes_expanded values _ _) fun data _ => ?_
  exact completes_ifPresent _ _ data fun values => data.completes_expanded values _ _

theorem completes_ofGroup (group : Group) (taken : Nat) :
    Making.Completes (ofGroup? group) (ofGroup group) taken := by
  refine Making.Completes.bind (.demand (completes_dataOfGroup group)) fun data _ _ => ?_
  refine Making.Completes.bind (.lift ..) fun plant _ _ => ?_
  exact Making.Completes.bind (.lift ..) fun scale _ _ => rfl

end Plant

namespace DcData

def optional? (group : Group) (name : String) (lines : Nat) : Trial (List Float) := do
  match ← Trial.require (group.doubles? name) with
  | none => return []
  | some values => broadcast? values lines name

def linesOfGroup? (group : Group) (nodes : Nat) : Trial (DcData Float) := do
  if nodes ≤ 1 then return { (bus : DcData Float) with nodes }
  let lines ← Trial.require (group.dim "NumberLines")
  let start ← Trial.require (group.counts "StartLine")
  let finish ← Trial.require (group.counts "EndLine")
  let minFlow ← Trial.require (group.doubles "MinPowerFlow")
  let minFlow ← broadcast? minFlow lines "MinPowerFlow"
  let maxFlow ← Trial.require (group.doubles "MaxPowerFlow")
  let maxFlow ← broadcast? maxFlow lines "MaxPowerFlow"
  Trial.require (Topology.checkLength "StartLine" lines start.length)
  let susceptance ← optional? group "Susceptance" lines
  let cost ← optional? group "NetworkCost" lines
  let factors ← Trial.require (group.doubles? "PTDF")
  return { (bus : DcData Float) with
    nodes, start, finish, minFlow, maxFlow, susceptance, cost, factors }

def ofGroup? (group : Group) : Trial (DcData Float) := do
  let data ← linesOfGroup? group ((group.dim? "NumberNodes").getD 1)
  Trial.require data.validate
  let data ← Trial.require (data.edited (.factors data.factors))
  let data := { data with layouts := Layouts.ofGroup group }
  let nodeNames ← Trial.require (group.texts? "NodeName")
  let data ← Trial.require (data.edited (.nodeNames (nodeNames.getD [])))
  let lineNames ← Trial.require (group.texts? "LineName")
  Trial.require (data.edited (.lineNames (lineNames.getD [])))

theorem completes_optional (group : Group) (name : String) (lines : Nat) :
    (optional? group name lines).Completes (optional group name lines) := by
  refine Trial.Completes.bind (.require _) fun given _ => ?_
  cases given with
  | none => rfl
  | some values => exact completes_broadcast values lines name

theorem completes_linesOfGroup (group : Group) (nodes : Nat) :
    (linesOfGroup? group nodes).Completes (linesOfGroup group nodes) := by
  refine Trial.Completes.ite (fun _ => rfl) fun _ => ?_
  refine Trial.Completes.bind (.require _) fun lines _ => ?_
  refine Trial.Completes.bind (.require _) fun start _ => ?_
  refine Trial.Completes.bind (.require _) fun finish _ => ?_
  refine Trial.Completes.bind (.require _) fun minFlow _ => ?_
  refine Trial.Completes.bind (completes_broadcast ..) fun minFlow _ => ?_
  refine Trial.Completes.bind (.require _) fun maxFlow _ => ?_
  refine Trial.Completes.bind (completes_broadcast ..) fun maxFlow _ => ?_
  refine Trial.Completes.bind (.require _) fun _ _ => ?_
  refine Trial.Completes.bind (completes_optional ..) fun susceptance _ => ?_
  refine Trial.Completes.bind (completes_optional ..) fun cost _ => ?_
  exact Trial.Completes.bind (.require _) fun factors _ => rfl

theorem completes_ofGroup (group : Group) : (ofGroup? group).Completes (ofGroup group) := by
  refine Trial.Completes.bind (completes_linesOfGroup ..) fun data _ => ?_
  refine Trial.Completes.bind (.require _) fun _ _ => ?_
  refine Trial.Completes.bind (.require _) fun data _ => ?_
  refine Trial.Completes.bind (.require _) fun nodeNames _ => ?_
  refine Trial.Completes.bind (.require _) fun data _ => ?_
  exact Trial.Completes.bind (.require _) fun lineNames _ => .require _

end DcData

namespace DescriptorFactory

/-- What an extension looks up is its own affair. -/
def build? (factory : DescriptorFactory) (classname : String) (group : Group) :
    Trial (Descriptor Float) :=
  if classname = DcData.classname then do
    return .dc (← DcData.ofGroup? group)
  else
    match factory.extensions.lookup classname with
    | some read => Trial.require ((read group).map .extension)
    | none => Trial.refuse (.unknownClass classname)

theorem completes_build (factory : DescriptorFactory) (classname : String) (group : Group) :
    (factory.build? classname group).Completes (factory.build classname group) := by
  refine Trial.Completes.ite (fun _ => ?_) fun _ => ?_
  · have read := DcData.completes_ofGroup group
    unfold Trial.Completes at read ⊢
    change Trial.andThen (DcData.ofGroup? group) _ = _
    rw [read]
    cases DcData.ofGroup group <;> rfl
  · cases factory.extensions.lookup classname <;> rfl

end DescriptorFactory

def Zoning.ofGroup? (group : Group) (label : String) (horizon : Nat) :
    Trial (Zoning Float) := do
  let name := label ++ "Demand"
  let demand ← Trial.require (group.doubles? name)
  let demand := demand.getD []
  let count := (group.dim? (countName label)).getD (if demand.isEmpty then 0 else 1)
  let demand ← if demand.isEmpty then pure [] else broadcast? demand (count * horizon) name
  let zones ← Trial.require (group.counts? (label ++ "Zones"))
  return ⟨count, zones.getD [], demand⟩

theorem Zoning.completes_ofGroup (group : Group) (label : String) (horizon : Nat) :
    (ofGroup? group label horizon).Completes (ofGroup group label horizon) := by
  refine Trial.Completes.bind (.require _) fun demand _ => ?_
  dsimp only
  split
  · refine Trial.Completes.bind (.pure []) fun demand _ => ?_
    exact Trial.Completes.bind (.require _) fun zones _ => rfl
  · refine Trial.Completes.bind (completes_broadcast ..) fun demand _ => ?_
    exact Trial.Completes.bind (.require _) fun zones _ => rfl

def Emissions.ofGroup? (group : Group) (horizon generators : Nat) :
    Trial (Emissions Float) := do
  let pollutants := (group.dim? "NumberPollutants").getD 0
  if pollutants = 0 then return none
  let zoneCounts ← Trial.require (group.counts? "NumberPollutantZones")
  let zoneCounts := zoneCounts.getD (List.replicate pollutants 1)
  Trial.require (checkSize "NumberPollutantZones" pollutants zoneCounts.length)
  let budget ← Trial.require (group.doubles "PollutantBudget")
  let zones ← Trial.require (group.counts? "PollutantZones")
  let budget ← broadcast? budget (zoneCounts.foldr (· + ·) 0) "PollutantBudget"
  let rates ← Trial.require (group.doubles "PollutantRho")
  let rates ← broadcast? rates (horizon * pollutants * generators) "PollutantRho"
  return { zoneCounts, zones := zones.getD [], budget, rates }

theorem Emissions.completes_ofGroup (group : Group) (horizon generators : Nat) :
    (ofGroup? group horizon generators).Completes (ofGroup group horizon generators) := by
  refine Trial.Completes.ite (fun _ => rfl) fun _ => ?_
  refine Trial.Completes.bind (.require _) fun zoneCounts _ => ?_
  refine Trial.Completes.bind (.require _) fun _ _ => ?_
  refine Trial.Completes.bind (.require _) fun budget _ => ?_
  refine Trial.Completes.bind (.require _) fun zones _ => ?_
  refine Trial.Completes.bind (completes_broadcast ..) fun budget _ => ?_
  refine Trial.Completes.bind (.require _) fun rates _ => ?_
  exact Trial.Completes.bind (completes_broadcast ..) fun rates _ => rfl

namespace Schedule

def changed? {α : Type} (schedule : Schedule Float) (attempt : Attempt (Schedule Float) α) :
    Making (Schedule Float) := fun taken =>
  (attempt schedule).map fun effect =>
    Creation.require (effect.result.map fun _ => effect.state) taken

def addPlants? (group : Group) : Nat → Nat → Schedule Float → Making (Schedule Float)
  | 0, _, schedule => return schedule
  | remaining + 1, index, schedule => do
      let member ← Making.ofCreation (Creation.require (group.member (plantName index)))
      let plant ← Plant.ofGroup? member
      let schedule ← Making.ofCreation (schedule.changed (addPlant plant))
      addPlants? group remaining (index + 1) schedule

def networkOfGroup? (factory : DescriptorFactory) (group : Group) (nodes : Nat)
    (schedule : Schedule Float) : Making (Schedule Float) := do
  let generatorNode ← Making.ofCreation (Creation.require (group.counts? "GeneratorNode"))
  if 1 < nodes then
    let classname ← Making.ofCreation (Creation.require (classnameOfGroup group))
    let descriptor ← Making.demand (factory.build? classname group)
    let generatorNode ←
      Making.ofCreation (Creation.require (Group.orMissing "GeneratorNode" generatorNode))
    Making.ofCreation (schedule.setNetwork descriptor generatorNode)
  else return { schedule with generatorNode := generatorNode.getD [] }

def demandOfGroup? (group : Group) (nodes : Nat) (schedule : Schedule Float) :
    Making (Schedule Float) := do
  match ← Making.ofCreation (Creation.require (group.doubles? "ActivePowerDemand")) with
  | none => return schedule
  | some demand =>
      let extent := nodes * schedule.horizon
      let demand ← Making.demand (broadcast? demand extent "ActivePowerDemand")
      schedule.changed? (setDemand? (.range 0 extent) demand .quiet .quiet)

def constantsOfGroup? (group : Group) (schedule : Schedule Float) :
    Making (Schedule Float) := do
  match ← Making.ofCreation (Creation.require (group.doubles? "NetworkConstantTerms")) with
  | none => return schedule
  | some constants =>
      let networks := schedule.networks.length
      let constants ←
        if schedule.isBus then pure constants
        else Making.demand (broadcast? constants networks "NetworkConstantTerms")
      Making.ofCreation (schedule.changed (setNetworkConstants constants))

def ofGroupWith? (factory : DescriptorFactory) (group : Group) :
    Making (Schedule Float) := do
  let horizon ← Making.ofCreation (Creation.require (group.dim "TimeHorizon"))
  let plants ← Making.ofCreation (Creation.require (group.dim "NumberUnits"))
  let nodes := (group.dim? "NumberNodes").getD 1
  let schedule ← Making.ofCreation (new horizon)
  let schedule ← addPlants? group plants 0 schedule
  let schedule ← networkOfGroup? factory group nodes schedule
  let schedule ← demandOfGroup? group nodes schedule
  let primary ← Making.demand (Zoning.ofGroup? group "Primary" horizon)
  let secondary ← Making.demand (Zoning.ofGroup? group "Secondary" horizon)
  let inertia ← Making.demand (Zoning.ofGroup? group "Inertia" horizon)
  let emissions ← Making.demand (Emissions.ofGroup? group horizon schedule.generators)
  let schedule := { schedule with primary, secondary, inertia, emissions }
  let schedule ← constantsOfGroup? group schedule
  return { schedule with layouts := Layouts.ofGroup group }

def ofGroup? (group : Group) : Making (Schedule Float) :=
  ofGroupWith? .plain group

theorem completes_changed {α : Type} {schedule : Schedule Float}
    {attempt : Attempt (Schedule Float) α} {change : Change (Schedule Float) α}
    (completes : Attempt.Completes attempt change schedule) (taken : Nat) :
    Making.Completes (schedule.changed? attempt) (schedule.changed change) taken := by
  unfold Attempt.Completes at completes
  unfold Making.Completes changed?
  rw [completes]
  rfl

theorem completes_addPlants (group : Group) (remaining index : Nat)
    (schedule : Schedule Float) (taken : Nat) :
    Making.Completes (addPlants? group remaining index schedule)
      (addPlants group remaining index schedule) taken := by
  induction remaining generalizing index schedule taken with
  | zero => rfl
  | succ remaining induction =>
      refine Making.Completes.bind (.lift ..) fun member _ _ => ?_
      refine Making.Completes.bind (Plant.completes_ofGroup ..) fun plant _ _ => ?_
      refine Making.Completes.bind (.lift ..) fun schedule _ _ => ?_
      exact induction (index + 1) schedule _

theorem completes_networkOfGroup (factory : DescriptorFactory) (group : Group) (nodes : Nat)
    (schedule : Schedule Float) (taken : Nat) :
    Making.Completes (networkOfGroup? factory group nodes schedule)
      (networkOfGroup factory group nodes schedule) taken := by
  refine Making.Completes.bind (.lift ..) fun generatorNode _ _ => ?_
  split
  · refine Making.Completes.bind (.lift ..) fun classname _ _ => ?_
    refine Making.Completes.bind (.demand (factory.completes_build ..)) fun descriptor _ _ => ?_
    exact Making.Completes.bind (.lift ..) fun generatorNode _ _ => .lift ..
  · rfl

/-- A demand is set while the term index and the networks fit the schedule. -/
theorem Sound.completes_demandOfGroup {schedule : Schedule Float} (sound : schedule.Sound)
    (group : Group) (nodes : Nat) (taken : Nat) :
    Making.Completes (demandOfGroup? group nodes schedule)
      (demandOfGroup group nodes schedule) taken := by
  refine Making.Completes.bind (.lift ..) fun given _ _ => ?_
  cases given with
  | none => rfl
  | some demand =>
      refine Making.Completes.bind (.demand (completes_broadcast ..)) fun demand _ _ => ?_
      exact completes_changed (sound.completes_setDemand ..) _

theorem completes_constantsOfGroup (group : Group) (schedule : Schedule Float) (taken : Nat) :
    Making.Completes (constantsOfGroup? group schedule) (constantsOfGroup group schedule)
      taken := by
  refine Making.Completes.bind (.lift ..) fun given _ _ => ?_
  cases given with
  | none => rfl
  | some constants =>
      dsimp only
      split
      · rfl
      · exact Making.Completes.bind (.demand (completes_broadcast ..)) fun constants _ _ =>
          .lift ..

theorem completes_ofGroupWith (factory : DescriptorFactory) (group : Group) (taken : Nat) :
    Making.Completes (ofGroupWith? factory group) (ofGroupWith factory group) taken := by
  refine Making.Completes.bind (.lift ..) fun horizon _ _ => ?_
  refine Making.Completes.bind (.lift ..) fun plants _ _ => ?_
  refine Making.Completes.bind (.lift ..) fun opened _ fresh => ?_
  obtain ⟨id, _, _, fresh⟩ := Creation.bind_eq_ok fresh
  cases Creation.pure_eq_ok fresh
  refine Making.Completes.bind (completes_addPlants ..) fun filled _ adds => ?_
  refine Making.Completes.bind (completes_networkOfGroup ..) fun attached _ network => ?_
  have start : (ofHorizon id horizon : Schedule Float).Assembled Plant.Read :=
    .start (.ofHorizon id horizon)
  have placed := (start.addPlants adds).networkOfGroup network
  refine Making.Completes.bind (placed.sound.completes_demandOfGroup ..) fun demanded _ _ => ?_
  refine Making.Completes.bind (.demand (Zoning.completes_ofGroup ..)) fun primary _ _ => ?_
  refine Making.Completes.bind (.demand (Zoning.completes_ofGroup ..)) fun secondary _ _ => ?_
  refine Making.Completes.bind (.demand (Zoning.completes_ofGroup ..)) fun inertia _ _ => ?_
  refine Making.Completes.bind (.demand (Emissions.completes_ofGroup ..)) fun emissions _ _ => ?_
  exact Making.Completes.bind (completes_constantsOfGroup ..) fun priced _ _ => rfl

theorem Arises.fenced {schedule : Schedule Float} {allowed : Mode → Prop}
    (arises : schedule.Arises allowed) : schedule.EachNetwork Network.Fenced := by
  refine arises.eachNetwork Network.Fenced.lasting (fun _ _ => trivial)
    fun id descriptor notifier => ?_
  have free := Network.fenced_withFreeInjections { (Network.bus id : Network Float) with
    descriptor := some (.shared descriptor), demand := [], kappa := [] }
  exact ⟨free.minimum, free.maximum⟩

theorem Assembled.ready {schedule : Schedule Float} (assembled : schedule.Assembled Plant.Read) :
    schedule.Ready := by
  have arises := assembled.arises fun _ read => read.arises
  exact ⟨arises.sound, assembled.grounded, arises.fenced⟩

end Schedule

end Dispatch
