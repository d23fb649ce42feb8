import Polyglot.Sandbox.Machine
import Polyglot.Sandbox.Script.Basic

/-!
# Sessions of the shell

The state of one shell and the machine that it runs on, the ways in which a command can break out
of the commands around it, and what is told of problems.
-/

namespace Polyglot.Shell

/-- A variable. One without a value is known, but not set. -/
structure Variable where
  value? : Option String
  exported : Bool := false
  readOnly : Bool := false
  /-- Known to the shell, or to a function under way: it keeps its place when it is unset. -/
  isFixed : Bool := false
deriving DecidableEq, Repr

/-- Why control does not pass to the next command. -/
inductive Flow where
  /-- Leave loops. -/
  | leave (levels : Nat)
  /-- Go on with the next round of a loop. -/
  | again (levels : Nat)
  /-- Return from a function. -/
  | back
  /-- Something went wrong that ends the shell, unless a command that is no part of the language was
  to do it. -/
  | failure
  /-- The shell ends with its status. -/
  | stop
  /-- The process has ended, and the shell can do no more. -/
  | gone (status : ExitStatus)
  | endless
deriving DecidableEq, Repr

structure Function where
  body : Script

/-- What a variable or the options were before a function changed them. -/
inductive Saved where
  | variable (name : String) (before? : Option Variable)
  | options (letters : List Char)

/-- A process that was started in the background. -/
structure Job where
  number : Nat
  process : Nat
  /-- Somebody has waited for it. -/
  waited : Bool := false

/-- One shell. -/
structure ShellState where
  /-- The name of the script. -/
  name : String
  /-- The command inside the shell that is under way. -/
  commandName? : Option String := none
  line : Nat := 0
  /-- The line up to which the script is read. -/
  readLine : Nat := 1
  parameters : List String := []
  bindings : List (String × Variable) := []
  functions : List (String × Function) := []
  aliases : List (String × String) := []
  /-- The letters of the options that are on. -/
  options : List Char := []
  channels : Channels := []
  /-- Where the shell is. -/
  directory : Path
  /-- The path by which it came there. -/
  workingPath : String
  /-- Programs that were searched, with where they were found and whether that still counts. -/
  hashed : List (String × String × Bool) := []
  /-- The bits that new files do not get. -/
  mask : Nat := 0o022
  /-- The code of the last command. -/
  status : Nat := 0
  process : Nat
  /-- The process itself; it differs from the above in copies of the shell. -/
  self : Nat
  /-- The processes that wait for this one, the nearest first. -/
  ancestors : List Nat := []
  /-- Another shell runs on beside this one. -/
  inBackground : Bool := false
  /-- Texts in the scripts, by number. -/
  documents : List (Nat × Word) := []
  nextDocument : Nat := 0
  /-- What to do on signals; 0 is the end of the shell. -/
  traps : List (Nat × String) := []
  /-- Signals that the shell ignored from the start. -/
  ignored : List Nat := []
  /-- The status before what is done on a signal, while that is under way. -/
  savedStatus? : Option Nat := none
  /-- Variables of commands and functions under way, as they were before. -/
  saved : List (List Saved) := []
  /-- How many functions and texts are under way. -/
  depth : Nat := 0
  /-- How many functions are under way. -/
  calls : Nat := 0
  /-- How many loops are under way. -/
  loops : Nat := 0
  /-- The code of the last command whose output was put into a word of this command. -/
  captured : Nat := 0
  /-- Processes in the background, latest first. -/
  jobs : List Job := []
  /-- The last process in the background. -/
  background? : Option Nat := none
  /-- Where `getopts` goes on: the parameter, and the place in it. -/
  optionIndex : Nat := 1
  optionOffset? : Option Nat := none
  /-- What the command under way has written, latest first. -/
  said : List String := []
  /-- The trace of commands is being written. -/
  isTracing : Bool := false

structure Session where
  shell : ShellState
  machine : Machine

/-- What a command does: it changes the session and may break out. -/
abbrev Act := ExceptT Flow (StateM Session)

/-- Do something and see whether it breaks out. -/
def attempt {α : Type} (act : Act α) : Act (Except Flow α) :=
  fun session =>
    let (result, session) := act.run session
    (.ok result, session)

/-- Break out as something did that was attempted. -/
def conclude {α : Type} : Except Flow α → Act α
  | .ok value => pure value
  | .error flow => throw flow

def getShell : Act ShellState := do
  return (← get).shell

def getMachine : Act Machine := do
  return (← get).machine

def modifyShell (f : ShellState → ShellState) : Act Unit :=
  modify fun session => { session with shell := f session.shell }

def modifyMachine (f : Machine → Machine) : Act Unit :=
  modify fun session => { session with machine := f session.machine }

def setStatus (status : Nat) : Act Unit :=
  modifyShell fun shell => { shell with status }

/-! ## Options -/

/-- The names of the options with their letters. -/
def optionNames : List (String × Option Char) := [
  ("errexit", some 'e'), ("noglob", some 'f'), ("ignoreeof", some 'I'), ("interactive", some 'i'),
  ("monitor", some 'm'), ("noexec", some 'n'), ("stdin", some 's'), ("xtrace", some 'x'),
  ("verbose", some 'v'), ("vi", some 'V'), ("emacs", some 'E'), ("noclobber", some 'C'),
  ("allexport", some 'a'), ("notify", some 'b'), ("nounset", some 'u'), ("privileged", some 'p'),
  ("nolog", none), ("debug", none)]

namespace ShellState

def has (shell : ShellState) (letter : Char) : Bool :=
  shell.options.contains letter

def setOption (shell : ShellState) (letter : Char) (value : Bool) : ShellState :=
  let others := shell.options.filter (· != letter)
  { shell with options := if value then letter :: others else others }

/-- The letters of the options that are on, in the order in which they are shown. -/
def optionLetters (shell : ShellState) : String :=
  String.ofList ((optionNames.reverse.filterMap (·.2)).filter shell.has)

end ShellState

/-! ## Writing -/

/-- Write to the error output. -/
def tellError (text : String) : Act Unit :=
  modify fun session =>
    { session with machine := session.machine.tell session.shell.channels 2 text }

/-- What comes before a complaint: the script, the line and the command. -/
def ShellState.place (shell : ShellState) : String :=
  shell.name ++ ": " ++ toString shell.line ++ ": " ++ (match shell.commandName? with
    | some name => name ++ ": "
    | none => "")

/-- Tell of a problem. -/
def complain (message : String) : Act Unit := do
  tellError ((← getShell).place ++ message ++ "\n")

/-- Write to the output of the command under way. -/
def say (text : String) : Act Unit :=
  modifyShell fun shell => { shell with said := text :: shell.said }

/-- Write out what was said; tell whether that was possible. -/
def flush : Act Bool := do
  let session ← get
  let text := String.join session.shell.said.reverse
  modifyShell fun shell => { shell with said := [] }
  if text.isEmpty then return true
  match session.machine.write session.shell.channels 1 text with
  | .ok machine => do
    modifyMachine fun _ => machine
    return true
  | .error _ => return false

/-- Tell of a problem that goes beyond the command. -/
def giveUp {α : Type} (message : String) (status : Nat := 2) : Act α := do
  complain message
  discard flush
  setStatus status
  throw .failure

/-! ## Channels -/

def setChannel (number : Nat) (place? : Option Nat) : Act Unit :=
  modifyShell fun shell =>
    let others := shell.channels.filter (·.1 != number)
    { shell with channels := match place? with
      | some place => (number, place) :: others
      | none => others }

/-- Something opened for this shell: its place in the machine. -/
def opened (opening : Opening) : Act Nat := do
  let (place, machine) := (← getMachine).withOpening opening
  modifyMachine fun _ => machine
  return place

/-! ## Signals -/

/-- The codes of commands that signals ended. -/
def codeOf : ExitStatus → Nat
  | .exited code => code % 256
  | .killed signal _ => 128 + signal

/-- The words for a signal that ended a process. -/
def signalWords : Nat → String
  | 1 => "Hangup"
  | 3 => "Quit"
  | 4 => "Illegal instruction"
  | 5 => "Trace/breakpoint trap"
  | 6 => "Aborted"
  | 7 => "Bus error"
  | 8 => "Floating point exception"
  | 9 => "Killed"
  | 10 => "User defined signal 1"
  | 11 => "Segmentation fault"
  | 12 => "User defined signal 2"
  | 14 => "Alarm clock"
  | 15 => "Terminated"
  | 16 => "Stack fault"
  | 24 => "CPU time limit exceeded"
  | 25 => "File size limit exceeded"
  | 26 => "Virtual timer expired"
  | 27 => "Profiling timer expired"
  | 29 => "I/O possible"
  | 30 => "Power failure"
  | 31 => "Bad system call"
  | n => if 34 ≤ n && n ≤ 64 then "Real-time signal " ++ toString (n - 34)
      else "Unknown signal " ++ toString n

/-- Signals that do nothing to a process that does not wait for them. -/
def isHarmless (signal : Nat) : Bool :=
  [0, 17, 18, 23, 28].contains signal

/-- Signals that halt a process. -/
def isHalting (signal : Nat) : Bool :=
  [19, 20, 21, 22].contains signal

/-- Does a signal make a difference to a shell? -/
def ShellState.heeds (shell : ShellState) (signal : Nat) : Bool :=
  !shell.ignored.contains signal && (match shell.traps.lookup signal with
    | some action => !action.isEmpty
    | none => !isHarmless signal)

/-- Tell of a signal that ended a process. -/
def tellSignal : ExitStatus → Act Unit
  | .killed signal _ =>
    if signal == 2 || signal == 13 then pure () else tellError (signalWords signal ++ "\n")
  | .exited _ => pure ()

/-- Do something one level deeper; too deep a shell dies of it. -/
def deeper {α : Type} (body : Act α) : Act α := do
  let before ← getShell
  if 2000 ≤ before.depth then throw (.gone (.killed 11))
  modifyShell fun shell => { shell with depth := before.depth + 1 }
  let outcome ← attempt body
  modifyShell fun shell => { shell with depth := before.depth, readLine := before.readLine }
  conclude outcome

end Polyglot.Shell
