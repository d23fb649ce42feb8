import Polyglot.Sandbox.Shell.Arguments
import Polyglot.Sandbox.Shell.Directory
import Polyglot.Sandbox.Shell.Fields
import Polyglot.Sandbox.Shell.Jobs
import Polyglot.Sandbox.Shell.Lookup
import Polyglot.Sandbox.Shell.Printing
import Polyglot.Sandbox.Shell.Settings
import Polyglot.Sandbox.Shell.Testing
import Polyglot.Sandbox.Shell.Variables

/-!
# Commands of the shell itself

The command that reads a line, and the table of all commands that the shell has itself.
-/

/-!
## Reading lines

The command that reads a line of input into variables.
-/

namespace Polyglot.Shell

/-- A line of input as pieces, whether it was ended, and how many octets it takes. Unless it is
raw, a backslash protects the next character and continues lines. -/
def inputLine (raw : Bool) : List Char → List Piece × Bool × Nat
  | [] => ([], false, 0)
  | '\n' :: _ => ([], true, 1)
  | '\x00' :: rest =>
    let (pieces, ended, n) := inputLine raw rest
    (pieces, ended, n + 1)
  | '\\' :: c :: rest =>
    if raw then
      let (pieces, ended, n) := inputLine raw (c :: rest)
      (.text [('\\', false)] .atSeparators :: pieces, ended, n + 1)
    else
      let (pieces, ended, n) := inputLine raw rest
      let piece : Piece := .text (if c == '\n' then [] else [(c, true)]) .never
      (piece :: pieces, ended, n + 2)
  | c :: rest =>
    let (pieces, ended, n) := inputLine raw rest
    (if c == '\\' && !raw then pieces else .text [(c, false)] .atSeparators :: pieces, ended, n + 1)

/-- Put pieces together that stand side by side and are split alike. -/
def mergePieces : List Piece → List Piece
  | .text a s :: rest =>
    match mergePieces rest with
    | .text b t :: more =>
      if s == t then .text (a ++ b) s :: more else .text a s :: .text b t :: more
    | more => .text a s :: more
  | piece :: rest => piece :: mergePieces rest
  | [] => []

def readCommand (arguments : List String) : Act Nat := do
  let (given, names) ← options "p:r" arguments
  if names.isEmpty then giveUp "arg count"
  let session ← get
  let isRaw := given.any (·.1 == 'r')
  let supply (most? : Option Nat) : Supply :=
    match session.machine.supply session.shell.channels 0 most? with
    | .ok supply => supply
    | .error _ => { rest := [] }
  -- most lines are short, so that little of a file is needed
  let start := supply (some 1000)
  let line := inputLine isRaw start.rest
  let (supply, line) := if line.2.1 then (start, line)
    else let supply := supply none; (supply, inputLine isRaw supply.rest)
  let (pieces, ended, n) := line
  if !ended && supply.isEndless then throw .endless
  modifyMachine (·.consume session.shell.channels 0 (if ended then n else n + 1))
  let found := fields session.shell.separators (some names.length) (mergePieces pieces)
  let values := found.map plainText
  (names.zipIdx).forM fun (name, i) => setNamed name (some ((values[i]?).getD ""))
  return if ended then 0 else 1

end Polyglot.Shell

/-!
## Commands inside the shell

The table of what a shell does itself without running other commands. Each command gives its code.
-/

namespace Polyglot.Shell

/-! ### Control -/

/-- Leave loops or go on with them. -/
def breakLoops (flow : Nat → Flow) (arguments : List String) : Act Nat := do
  let levels ← match arguments with
    | [] => pure 1
    | text :: _ => do
      let n ← count text
      if n = 0 then giveUp ("Illegal number: " ++ text)
      pure n
  let levels := min levels (← getShell).loops
  if levels = 0 then return 0
  setStatus 0
  throw (flow levels)

def returnCommand (arguments : List String) : Act Nat := do
  match arguments with
  | [] => pure ()
  | text :: _ => setStatus (← count text)
  throw .back

/-- End the shell. What is done on a signal ends it with the status before, if it does not say
another. -/
def exitCommand (arguments : List String) : Act Nat := do
  match arguments with
  | [] => do
    let shell ← getShell
    setStatus (shell.savedStatus?.getD shell.status)
  | text :: _ => setStatus (← count text)
  throw .stop

/-! ### Testing -/

def testCommand (name : String) (arguments : List String) : Act Nat := do
  let words ← if name == "[" then
      if (arguments.getLast?.any (·.startsWith "]")) then pure arguments.dropLast
      else giveUp "missing ]"
    else pure arguments
  let session ← get
  match Testing.evaluate session.machine.tree session.shell.directory words with
  | .ok success => return if success then 0 else 1
  | .error message => giveUp message

/-! ### The table -/

/-- What a command does, for all that run no other commands. -/
def builtin (name : String) (arguments : List String) : Act Nat :=
  match name with
  | "true" => return 0
  | ":" => return 0
  | "false" => return 1
  | "echo" => do
    echo arguments
    return 0
  | "printf" => do
    match ← operands arguments with
    | [] => giveUp "usage: printf format [arg ...]"
    | format :: rest => printFormat format rest
  | "test" => testCommand name arguments
  | "[" => testCommand name arguments
  | "break" => breakLoops .leave arguments
  | "continue" => breakLoops .again arguments
  | "return" => returnCommand arguments
  | "exit" => exitCommand arguments
  | "alias" => aliasCommand arguments
  | "unalias" => unaliasCommand arguments
  | "export" => markVariables name arguments
  | "readonly" => markVariables name arguments
  | "unset" => unsetCommand arguments
  | "local" => localCommand arguments
  | "set" => setCommand arguments
  | "shift" => shiftCommand arguments
  | "getopts" => getoptsCommand arguments
  | "read" => readCommand arguments
  | "cd" => changeDirectory arguments
  | "chdir" => changeDirectory arguments
  | "pwd" => printDirectory arguments
  | "umask" => umaskCommand arguments
  | "ulimit" => ulimitCommand arguments
  | "type" => typeCommand arguments
  | "command" => describingCommand arguments
  | "hash" => hashCommand arguments
  | "trap" => trapCommand arguments
  | "kill" => killCommand arguments
  | "wait" => waitCommand arguments
  | "jobs" => jobsCommand arguments
  | "fg" => resumeCommand arguments
  | "bg" => resumeCommand arguments
  | "times" => do
    let times := "0m0.000000s 0m0.000000s\n"
    say (times ++ times)
    return 0
  | _ => return 0

end Polyglot.Shell
