import Dispatch.Network.Setup
import Dispatch.Pipeline

namespace Dispatch.CommandLine

/-! The command line: a group file goes in, a solver model and two tables come out. All
that is decided here is which files are read and written. -/

def readText? (path : String) : IO (Option String) := do
  try
    return some (← IO.FS.readFile path)
  catch _ =>
    return none

def inDirectory (directory name : String) : String :=
  if directory.isEmpty || directory.endsWith "/" then directory ++ name
  else directory ++ "/" ++ name

def complain (message : String) : IO UInt32 := do
  IO.eprintln message
  return 1

def fail (error : Error) : IO UInt32 :=
  complain ("Application error: " ++ error.message)

/-- Writes one file after the other until one cannot be written. -/
def writeAll (directory : String) : List (String × String × Error) → IO UInt32
  | [] => return 0
  | (name, text, error) :: rest => do
      try
        IO.FS.writeFile (inDirectory directory name) text
      catch _ =>
        return ← fail error
      writeAll directory rest

def files (outputs : Outputs) : List (String × String × Error) :=
  [("model.mps", outputs.model, .file), ("constraints.csv", outputs.constraintTable, .table),
    ("variables.csv", outputs.variableTable, .table)]

def run (arguments : Arguments) : IO UInt32 := do
  let text ← readText? arguments.input
  let settings ← arguments.settings.mapM readText?
  match ((Pipeline.run text settings) 0).1 with
  | .error error => fail error
  | .ok outputs => writeAll arguments.output (files outputs)

end Dispatch.CommandLine

/-- The words after the name of the program are its arguments. -/
def main (words : List String) : IO UInt32 := do
  match Dispatch.Arguments.parse ("dispatch" :: words) with
  | .error message =>
      Dispatch.CommandLine.complain ("Problem parsing arguments: " ++ message)
  | .ok arguments => Dispatch.CommandLine.run arguments
