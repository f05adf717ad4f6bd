import Dispatch.Block

namespace Dispatch

/-! Causes of refusal, each with the one place that words it. None is transient:
all of them describe inconsistent data or a step taken out of turn. -/

inductive TopologyFault
  | noNodes
  | linesOnSingleNode
  | selfLoop (line node : Nat)
  | nothingAttached
  | noIntervals
  | noIntervalsOnFile
  | nothingToGenerateFrom
  | noLines (nodes : Nat)
  | noDistributionFactors
  | networkCount (networks horizon : Nat)
  | noInjectionVariables (instant : Nat)
deriving DecidableEq, Repr

def TopologyFault.message : TopologyFault → String
  | .noNodes => "a network needs at least one node"
  | .linesOnSingleNode => "a single-node network cannot have lines"
  | .selfLoop line node =>
      "line " ++ toString line ++ " is a self loop on node " ++ toString node
  | .nothingAttached => "no network data attached"
  | .noIntervals => "a network needs at least one interval"
  | .noIntervalsOnFile => "NumberIntervals must be positive"
  | .nothingToGenerateFrom => "a multi-node network needs network data"
  | .noLines nodes => "network with " ++ toString nodes ++ " nodes has no lines"
  | .noDistributionFactors => "AC lines need a PTDF matrix"
  | .networkCount networks horizon =>
      toString networks ++ " network blocks for a horizon of " ++ toString horizon
  | .noInjectionVariables instant =>
      "network at instant " ++ toString instant ++ " has no node injection variables"

inductive UnsupportedUse
  | textForNumbers (name : String)
  | notUnsigned (name : String)
  | notText (name : String)
  | plainStream
deriving DecidableEq, Repr

def UnsupportedUse.message : UnsupportedUse → String
  | .textForNumbers name => "'" ++ name ++ "' holds text, expected numbers"
  | .notUnsigned name => "'" ++ name ++ "' does not hold unsigned integers"
  | .notText name => "'" ++ name ++ "' does not hold text"
  | .plainStream => "DCNetworkBlock cannot be loaded from a plain stream"

inductive FrozenPart
  | representation (block : BlockId)
  | intervals
  | sharedData
  | member (part : String) (block : BlockId)
deriving DecidableEq, Repr

def FrozenPart.message : FrozenPart → String
  | .representation block =>
      "block " ++ block.text ++ " already has an abstract representation"
  | .intervals => "the number of intervals is fixed once variables exist"
  | .sharedData => "network data is shared"
  | .member part block =>
      "cannot change " ++ part ++ " of block " ++ block.text ++ " once variables exist"

inductive Error
  | invalidTopology (fault : TopologyFault)
  | outOfRange (what : String) (index extent : Nat)
  | missingField (name : String)
  | unsupported (use : UnsupportedUse)
  | outOfOrder (target current : Stage)
  | shape (what : String) (expected found : Nat)
  | unknownClass (name : String)
  | unknownVariable (var : VarRef)
  | frozen (part : FrozenPart)
  /-- A file that cannot be read or written. -/
  | file
  /-- A text that is not in the expected format. -/
  | format
  /-- A summary table that cannot be written. -/
  | table
deriving DecidableEq, Repr

def Error.message : Error → String
  | .invalidTopology fault => "invalid topology: " ++ fault.message
  | .outOfRange what index extent =>
      what ++ " index " ++ toString index ++ " out of range (extent " ++
        toString extent ++ ")"
  | .missingField name => "missing mandatory field '" ++ name ++ "'"
  | .unsupported use => "unsupported operation: " ++ use.message
  | .outOfOrder target current =>
      "cannot generate " ++ target.product ++ " while block is " ++ current.name
  | .shape what expected found =>
      what ++ ": expected " ++ toString expected ++ " values, found " ++ toString found
  | .unknownClass name => "'" ++ name ++ "' is not a known classname"
  | .unknownVariable var =>
      "variable " ++ var.text ++ " does not belong to this block tree"
  | .frozen part => "topology is frozen: " ++ part.message
  | .file => "I/O error"
  | .format => "codec error"
  | .table => "csv error"

/-! Generation steps are taken in order. A step that was already taken has nothing
left to do, and a step whose predecessor is missing is refused. -/

inductive StepAction
  | run
  | skip
deriving DecidableEq, Repr

def Stage.enter (current target : Stage) : Except Error StepAction :=
  if current.reached target then .ok .skip
  else if current = target.predecessor then .ok .run
  else .error (.outOfOrder target current)

end Dispatch
