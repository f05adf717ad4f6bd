import Dispatch.Mps.Text
import Dispatch.Schedule.File
import Dispatch.SettingsFile
import Dispatch.Group.Codec
import Dispatch.Summary.Csv

namespace Dispatch

/-! From a group file to a solver model and two tables. Files are given and answered as
their texts; a file that cannot be read has none. -/

structure Outputs where
  model : String
  constraintTable : String
  variableTable : String

namespace Pipeline

def fileText : Option String → Except Error String
  | some text => .ok text
  | none => .error .file

def readSettings (text : Option String) : Except Error (Settings Float) := do
  Settings.read (← fileText text)

def scheduleOf (groupText : Option String) : Creation (Schedule Float) := do
  let text ← Creation.require (fileText groupText)
  let group ← Creation.require (Group.read text)
  Schedule.ofGroup group

/-- Settings are read only where they are asked for. -/
def configured (schedule : Schedule Float) (settings : Option (Option String)) :
    Except Error (Schedule Float) :=
  match settings with
  | none => .ok schedule
  | some text => do
      return { schedule with settings := some (← readSettings text) }

def run (groupText : Option String) (settings : Option (Option String)) :
    Creation Outputs := do
  let schedule ← scheduleOf groupText
  let schedule ← Creation.require (configured schedule settings)
  let schedule ← schedule.changed Schedule.generateAll
  let model := schedule.model
  let text ← Creation.require (model.mps "uc")
  return ⟨text, model.constraintTable, model.variableTable⟩

end Pipeline

/-- The paths given on the command line. -/
structure Arguments where
  input : String
  output : String
  settings : Option String
deriving DecidableEq, Repr

namespace Arguments

def usage : String := "Not enough arguments [INPUT] [OUTPUT_DIR] (CONFIG)"

/-- The first word names the program. -/
def parse : List String → Except String Arguments
  | _ :: input :: output :: rest => .ok ⟨input, output, rest.head?⟩
  | _ => .error usage

end Arguments

end Dispatch
