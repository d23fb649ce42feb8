import Polyglot.CommandLine.Session
import Polyglot.Sandbox.Workshop

/-!
# The program

Reads the files and variables that an invocation asks for, lets the session run, and writes what
comes out of it. Snippets run on a machine in memory, and no connection is made.
-/

namespace Polyglot.CommandLine

/-- The error number of a failed operation; failures without one count as input or output
errors. -/
def systemError : IO.Error → SystemError
  | .alreadyExists _ code _ => .errno code.toNat
  | .otherError code _ => .errno code.toNat
  | .resourceBusy code _ => .errno code.toNat
  | .resourceVanished code _ => .errno code.toNat
  | .unsupportedOperation code _ => .errno code.toNat
  | .hardwareFault code _ => .errno code.toNat
  | .unsatisfiedConstraints code _ => .errno code.toNat
  | .illegalOperation code _ => .errno code.toNat
  | .protocolError code _ => .errno code.toNat
  | .timeExpired code _ => .errno code.toNat
  | .interrupted _ code _ => .errno code.toNat
  | .noFileOrDirectory _ code _ => .errno code.toNat
  | .invalidArgument _ code _ => .errno code.toNat
  | .permissionDenied _ code _ => .errno code.toNat
  | .resourceExhausted _ code _ => .errno code.toNat
  | .inappropriateType _ code _ => .errno code.toNat
  | .noSuchThing _ code _ => .errno code.toNat
  | _ => .errno 5

def attempt {α : Type} (action : IO α) : IO (Except SystemError α) :=
  try
    return .ok (← action)
  catch error =>
    return .error (systemError error)

def loadFile (path : String) : IO (String × Except SystemError (List UInt8)) := do
  return (path, (← attempt (IO.FS.readBinFile path)).map (·.toList))

/-- The variables that may hold keys. -/
def keyVariables (config : Except ConfigError ConverterConfig) : List String :=
  match config with
  | .ok config => config.models.map (·.apiKeyVariable)
  | .error _ => []

def loadVariable (name : String) : IO (Option (String × List UInt8)) := do
  return (← IO.getEnv name).map fun value => (name, Text.Utf8.encode value.toList)

def loadSurroundings (invocation : Invocation) : IO (Surroundings Machine) := do
  let files ← invocation.paths.mapM loadFile
  let file (path : String) := (files.lookup path).getD (.error .noSuchFile)
  let standardInput ← match invocation.task.input? with
    | some .standardInput => pure (← (← IO.getStdin).readBinToEnd).toList
    | _ => pure []
  let bindings ← (keyVariables (loadConfig file invocation.config)).mapM loadVariable
  return {
    standardInput
    file
    environment := bindings.filterMap id
    workshop := Machine.workshop [] }

/-- Write the file that a report asks for. -/
def finish (report : Report) : IO Report := do
  match report.pending with
  | none => return report
  | some (path, content) =>
    return report.saved path (← attempt (IO.FS.writeBinFile path ⟨content.toArray⟩))

def perform (invocation : Except Refusal Invocation) : IO Report := do
  match invocation with
  | .error refusal => return .ofRefusal refusal
  | .ok invocation =>
    let around ← loadSurroundings invocation
    finish (invocation.carryOut around (Machine.withTools [])).report

end Polyglot.CommandLine

open Polyglot CommandLine in
def main (arguments : List String) : IO UInt32 := do
  let report ← perform (Invocation.ofArguments arguments)
  (← IO.getStdout).putStr report.stdout
  (← IO.getStderr).putStr report.stderr
  return UInt32.ofNat report.code
