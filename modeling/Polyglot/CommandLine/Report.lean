import Polyglot.CommandLine.Help
import Polyglot.Config.Error

/-!
# Reports

What an invocation leaves behind: text on the two outputs, an exit code, and perhaps a file still
to be written.
-/

namespace Polyglot.CommandLine

/-- Why a task was not carried out. -/
structure Failure where
  message : String
  cause : Option String := none
deriving DecidableEq, Repr

namespace Failure

def text (failure : Failure) : String :=
  let cause := match failure.cause with
    | some cause => "\n\nCaused by:\n    " ++ cause
    | none => ""
  "Error: " ++ failure.message ++ cause ++ "\n"

def ofSystem (message : String) (cause : SystemError) : Failure :=
  ⟨message, some cause.message⟩

/-- Of configuration errors only an unreadable file has a cause outside the program. -/
def ofConfig (error : ConfigError) : Failure :=
  match error with
  | .unreadable _ cause => .ofSystem error.message cause
  | _ => ⟨error.message, none⟩

end Failure

structure Report where
  code : Nat := 0
  stdout : String := ""
  stderr : String := ""
  /-- A file that is still to be written, and its content. -/
  pending : Option (String × List UInt8) := none
deriving DecidableEq, Repr

namespace Report

/-- Nothing but the line that says what a task found. -/
def ofLine (line : String) : Report :=
  { stdout := line ++ "\n" }

/-- End with a failure, after everything that was written. -/
def fail (report : Report) (failure : Failure) : Report :=
  { report with code := 1, stderr := report.stderr ++ failure.text }

def ofFailure (failure : Failure) : Report :=
  ({} : Report).fail failure

def ofRefusal : Refusal → Report
  | .usage => {
      code := 2
      stderr := "error: the arguments were not understood\n\n" ++ usageLine ++
        "\nFor more information, try '--help'.\n" }
  | .help topic => { stdout := helpText topic }
  | .version => { stdout := versionText }

/-- The report after an attempt to write the file at a path. -/
def saved (report : Report) (path : String) (attempt : Except SystemError Unit) : Report :=
  let report := { report with pending := none }
  match attempt with
  | .ok () => { report with stderr := report.stderr ++ "Artifact written to " ++ path ++ "\n" }
  | .error cause => report.fail (.ofSystem ("Failed to write " ++ path) cause)

end Report

end Polyglot.CommandLine
