import Polyglot.Duration
import Polyglot.Execution.Workshop
import Polyglot.System.Error
import Polyglot.Text.Blank
import Polyglot.Text.Utf8

/-!
# Recipes

A recipe is a list of steps that are taken in order in a workshop. The first step that fails ends
it, and so does the clock. The output of a recipe is that of the program that it launches, never
that of a compiler.
-/

namespace Polyglot

/-! ## Errors -/

inductive ExecutionError where
  /-- A compiler or an interpreter could not be started. -/
  | notStarted (program : String) (cause : SystemError)
  /-- A process ended without success; the complaint is what the user is told. -/
  | failed (program complaint : String)
  /-- Building and running took longer than they were given. -/
  | timeout (limit : Duration)
  /-- Java code without a public class. -/
  | missingClassName
  /-- The compiler succeeded and left no file. -/
  | missingArtifact (path : String)
  | io (cause : SystemError)
deriving DecidableEq, Repr

namespace ExecutionError

def message : ExecutionError → String
  | notStarted program cause => "Failed to start " ++ program ++ ": " ++ cause.message
  | failed _ complaint => complaint
  | timeout limit => "Execution timed out after " ++ limit.text
  | missingClassName => "Could not find public class name"
  | missingArtifact path => "Compilation failed to produce " ++ path
  | io cause => "IO error: " ++ cause.message

end ExecutionError

/-! ## Steps -/

inductive RecipeStep where
  /-- Write a file. -/
  | save (name : String) (content : List UInt8)
  /-- Run a compiler for its effect. -/
  | build (command : Command)
  /-- Run the program for its output. -/
  | launch (command : Command)
  /-- Read the file that the compiler made. -/
  | collect (name : String)
deriving DecidableEq, Repr

abbrev Recipe := List RecipeStep

/-- What a recipe has brought forth so far. -/
structure Product where
  stdout : String := ""
  /-- The file that the compiler made. -/
  artifact : Option (List UInt8) := none
deriving DecidableEq, Repr

/-- What the user is told when a process fails: what it wrote to the error stream, or how it
ended if that is blank. -/
def complaint (program : String) (status : ExitStatus) (stderr : List UInt8) : String :=
  let text := String.ofList (Text.Utf8.decodeLossy stderr)
  if Text.allBlank text then program ++ " exited with " ++ status.text else text

/-- The output of a process that ended well. -/
def ProcessOutcome.output (outcome : ProcessOutcome) (program : String) (limit : Duration) :
    Except ExecutionError String :=
  match outcome with
  | refused cause => .error (.notStarted program cause)
  | endless => .error (.timeout limit)
  | ended status stdout stderr =>
    if status.isSuccess then .ok (String.ofList (Text.Utf8.decodeLossy stdout))
    else .error (.failed program (complaint program status stderr))

namespace RecipeStep

variable {σ : Type}

/-- The command that a step starts. -/
def command? : RecipeStep → Option Command
  | build command => some command
  | launch command => some command
  | _ => none

/-- Take one step. -/
def take (workshop : Workshop σ) (limit : Duration) (product : Product) (state : σ) :
    RecipeStep → Except ExecutionError Product × σ
  | save name content =>
    let (result, state) := workshop.save name content state
    match result with
    | .error cause => (.error (.io cause), state)
    | .ok () => (.ok product, state)
  | build command =>
    let (outcome, state) := workshop.start command state
    ((outcome.output command.program limit).map fun _ => product, state)
  | launch command =>
    let (outcome, state) := workshop.start command state
    ((outcome.output command.program limit).map fun stdout => { product with stdout }, state)
  | collect name =>
    match workshop.load name state with
    | .ok bytes => (.ok { product with artifact := some bytes }, state)
    | .error cause =>
      if cause = .noSuchFile then (.error (.missingArtifact (workshop.path name)), state)
      else (.error (.io cause), state)

end RecipeStep

/-- A recipe that was carried out: its product or the error that ended it, the workshop's state
afterwards, and the commands that were given, in order. -/
structure RecipeRun (σ : Type) where
  result : Except ExecutionError Product
  state : σ
  started : List Command := []

namespace Recipe

variable {σ : Type}

/-- Carry out steps up to the first failure; `deadline` is when time is up. -/
def carryOut (workshop : Workshop σ) (limit deadline : Duration) (product : Product) (state : σ) :
    Recipe → RecipeRun σ
  | [] => { result := .ok product, state }
  | step :: steps =>
    let (result, state) := step.take workshop limit product state
    let started := step.command?.toList
    if deadline.nanoseconds < (workshop.clock state).nanoseconds then
      { result := .error (.timeout limit), state, started }
    else match result with
      | .error error => { result := .error error, state, started }
      | .ok product =>
        let rest := carryOut workshop limit deadline product state steps
        { rest with started := started ++ rest.started }

/-- Carry out a recipe from the current time on. -/
def run (recipe : Recipe) (workshop : Workshop σ) (limit : Duration) (state : σ) : RecipeRun σ :=
  recipe.carryOut workshop limit (workshop.clock state + limit) {} state

end Recipe

end Polyglot
