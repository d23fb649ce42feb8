import Polyglot.Sandbox.Launch
import Polyglot.Sandbox.Shell.Redirection

/-!
# Processes of the shell

Copies of the shell that run parts of a script, what a shell that starts knows, and how one ends.
-/

namespace Polyglot.Shell

/-- How a command stands in its script. -/
structure Standing where
  /-- Somebody looks at whether it fails. -/
  tested : Bool := false
  /-- Nothing follows it in its shell. -/
  final : Bool := false

/-- Processes that wait for one another in so long a row are taken to start others forever. -/
def longestRow : Nat := 1000

/-- A shell that has so many jobs is taken to start others forever, and so is a script with so many
processes. -/
def mostJobs : Nat := 2000

def mostProcesses : Nat := 10000

/-- A number for a process to come. -/
def newProcess : Act Nat := do
  let shell ← getShell
  if longestRow < shell.ancestors.length || mostJobs < shell.jobs.length then throw .endless
  if mostProcesses < (← getMachine).nextProcess then throw .endless
  let process := (← getMachine).nextProcess
  modifyMachine fun machine => { machine with nextProcess := process + 1 }
  return process

/-- The time of the machine. -/
def now : Act Nat := do
  return (← getMachine).clock

namespace ShellState

/-- What a process of its own takes over from the shell. -/
def copy (shell : ShellState) (process : Nat) (inBackground : Bool) : ShellState :=
  { shell with
    self := process
    ancestors := shell.self :: shell.ancestors
    traps := shell.traps.filter (·.2.isEmpty)
    ignored := if inBackground then 2 :: 3 :: shell.ignored else shell.ignored
    jobs := []
    said := []
    savedStatus? := none
    inBackground := inBackground || shell.inBackground }

/-- The signals that processes started from here ignore. -/
def ignoredSignals (shell : ShellState) : List Nat :=
  shell.ignored ++ (shell.traps.filter (·.2.isEmpty)).map (·.1)

/-- Is something to be done on any signal? -/
def hasTraps (shell : ShellState) : Bool :=
  shell.traps.any (!·.2.isEmpty)

/-- The variables that a shell finds in its environment. -/
def imported (environment : List (String × String)) : List (String × Variable) :=
  environment.foldl
    (fun bindings (name, value) =>
      if isName name then
        let isFixed := (knownVariables.lookup name).isSome
        let value? := match name with
          | "IFS" => some " \t\n"
          | "OPTIND" => some "1"
          | _ => some value
        putBinding name { value?, exported := true, isFixed } bindings
      else bindings)
    knownVariables

/-- A shell that starts. It trusts the path of its directory if that leads there. -/
def ofCall (call : Call) (tree : FileTree) : ShellState :=
  let bindings := imported call.environment
  let claimed := ((bindings.lookup "PWD").bind (·.value?)).getD ""
  let isTrue := FileTree.isAbsolute claimed && (match tree.find call.directory claimed with
    | .ok (path, _, _) => path == call.directory
    | .error _ => false)
  let working := if isTrue then claimed else call.directory.text
  let parent := toString (call.ancestors.headD 1)
  let exportsParent := ((bindings.lookup "PPID").map (·.exported)).getD false
  let bindings := putBinding "PPID" { value? := some parent, exported := exportsParent } bindings
  { name := call.name
    bindings := putBinding "PWD" { value? := some working, exported := true } bindings
    channels := call.channels
    directory := call.directory
    workingPath := working
    mask := call.mask
    process := call.process
    self := call.process
    ancestors := call.ancestors
    ignored := call.ignored
    inBackground := call.inBackground }

end ShellState

/-! ## The ends of processes -/

/-- End a shell after what became of its script. What is to be done at the end is done by `run`; it
does not change the code unless it says another. -/
def finish (run : String → Act Unit) (outcome : Except Flow Unit) : Act ExitStatus := do
  match outcome with
  | .error (.gone status) => return status
  | .error .endless => throw .endless
  | _ => do
    discard flush
    let shell ← getShell
    match shell.traps.lookup 0 with
    | some action => do
      modifyShell fun shell => { shell with
        traps := shell.traps.filter (·.1 != 0)
        savedStatus? := some shell.status }
      match ← attempt (run action) with
      | .error (.gone status) => return status
      | .error .endless => throw .endless
      | .error .failure => pure ()
      | .error .stop => pure ()
      | _ => setStatus shell.status
    | none => pure ()
    discard flush
    return .exited ((← getShell).status % 256)

/-- Do something in a copy of the shell: how that ends, or nothing if it never does. -/
def inCopy (process : Nat) (inBackground : Bool) (run : String → Act Unit) (body : Act Unit) :
    Act (Option ExitStatus) := do
  let shell ← getShell
  modifyShell (·.copy process inBackground)
  let outcome ← attempt body
  let status ← attempt (finish run outcome)
  let channels := (← getShell).channels
  modifyShell fun _ => shell
  match status with
  | .ok status => do
    modifyMachine (·.leavePipes channels false)
    return some status
  | .error _ => return none

/-- Take note of the end of a process that was waited for. -/
def concludeProcess (status? : Option ExitStatus) : Act Unit := do
  match status? with
  | none => throw .endless
  | some status => do
    tellSignal status
    setStatus (codeOf status)

/-! ## Side by side -/

/-- A process of a pipeline that has been carried out. -/
structure Stage where
  process : Nat
  /-- How it ended if it did. -/
  status? : Option ExitStatus
  /-- When it ended, or where its time was left. -/
  finish : Nat
  /-- Where its output can be read. -/
  output : Nat

/-- Does a process go on forever although nobody reads what it writes after some time? One that still
wants to write then is ended by that. -/
def Stage.isStuck (machine : Machine) (stage : Stage) (time : Nat) : Bool :=
  stage.status?.isNone && !((machine.pipeBehind? stage.output).any (·.writesAfter time))

/-- Wait for all processes of a pipeline, which are given latest first. -/
def joinStages (stages : List Stage) : Act Unit := do
  let machine ← getMachine
  let last := stages.take 1
  let isStuck := (stages.zip stages.tail).any fun (reader, writer) =>
    writer.isStuck machine reader.finish
  if last.any (·.status?.isNone) || isStuck then throw .endless
  let ended := stages.reverse.mergeSort fun a b => a.finish ≤ b.finish
  ended.forM fun stage => do
    if stage.status?.isSome then modifyMachine (·.waitUntil stage.finish)
    stage.status?.forM tellSignal
  last.forM fun stage => setStatus ((stage.status?.map codeOf).getD 0)

/-- The processes of a pipeline in the background, latest first. The last one stands for all. -/
def backgroundStages (stages : List Stage) : List BackgroundProcess :=
  let finish? := if stages.any (·.status?.isNone) then none
    else (stages.map (·.finish)).max?
  stages.zipIdx.map fun (stage, i) => {
    process := stage.process
    finish? := if i = 0 then finish? else some stage.finish
    status := stage.status?.getD (.exited 0)
    ignored := [2, 3] }

/-! ## Loops -/

/-- How a round of a loop ended. -/
inductive Progress where
  | done
  | again
  | leave
deriving DecidableEq, Repr

/-- Do a part of a round. Whoever leaves more loops than this one leaves it too. -/
def round (body : Act Unit) : Act Progress := do
  match ← attempt body with
  | .ok () => return .done
  | .error (.leave levels) => if 1 < levels then throw (.leave (levels - 1)) else return .leave
  | .error (.again levels) => if 1 < levels then throw (.again (levels - 1)) else return .again
  | .error flow => throw flow

def inLoop (body : Act Nat) : Act Unit := do
  let loops := (← getShell).loops
  modifyShell fun shell => { shell with loops := loops + 1 }
  let outcome ← attempt body
  modifyShell fun shell => { shell with loops }
  setStatus (← conclude outcome)

/-- Does one of the patterns cover a text? -/
def anyCovers (substitute : Script → Act String) (text : String) : List Word → Act Bool
  | [] => return false
  | word :: words => do
    if Wildcard.covers (← expandPattern substitute word) text.toList then return true
    else anyCovers substitute text words

/-- A shell that has run for so many nanoseconds is taken to go on forever. -/
def longestRun : Nat := 3600 * 1000000000

end Polyglot.Shell
