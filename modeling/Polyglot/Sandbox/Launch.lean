import Polyglot.Sandbox.Tool.Basic

/-!
# Launching programs

Finding a program by its name, seeing what its file asks for, and running the tools of the system.
-/

namespace Polyglot

/-- What became of an attempt to start a program. -/
inductive Launch where
  | refused (cause : SystemError)
  | ended (status : ExitStatus)
  | endless
deriving DecidableEq, Repr

/-- A program about to be started. -/
structure Call where
  /-- The path of the program, as it was written or found. -/
  path : String
  /-- The name under which it is called. -/
  name : String
  arguments : List String
  environment : List (String × String)
  channels : Channels
  directory : Path
  /-- The bits that new files do not get. -/
  mask : Nat := 0o022
  /-- The signals that it ignores. -/
  ignored : List Nat := []
  /-- The process that it becomes. -/
  process : Nat
  /-- The processes that wait for it, the nearest first. -/
  ancestors : List Nat := []
  inBackground : Bool := false
  /-- How many scripts have asked for one another to be run. -/
  scripts : Nat := 0

namespace Launch

/-- The directories that are searched for programs. -/
def searched (path : String) : List String :=
  ((path.toList.splitOn ':').map String.ofList).map fun dir => if dir.isEmpty then "." else dir

/-- Where a name may be found in a directory. -/
def candidate (dir name : String) : String :=
  dir ++ "/" ++ name

/-- Search directories for a program. One that is there but must not be executed is remembered. -/
def searchIn (tree : FileTree) (directory : Path) (name : String) (barred : Bool) :
    List String → Except SystemError String
  | [] => .error (if barred then .permissionDenied else .noSuchFile)
  | dir :: dirs =>
    match tree.look? directory (candidate dir name) with
    | none => searchIn tree directory name barred dirs
    | some node =>
      if node.isExecutable then .ok (candidate dir name)
      else searchIn tree directory name true dirs

/-- The path of the program that a name means. Names with a slash are paths. -/
def locate (tree : FileTree) (directory : Path) (path name : String) : Except SystemError String :=
  if name.isEmpty then .error .noSuchFile
  else if name.toList.contains '/' then .ok name
  else if FileTree.longestName < name.length then .error .fileNameTooLong
  else searchIn tree directory name false (searched path)

/-- The program that a script names in its first line, and its argument if it names one. -/
def interpreter? (content : String) : Option (String × List String) :=
  match content.toList with
  | '#' :: '!' :: rest =>
    let isGap (c : Char) := c == ' ' || c == '\t'
    let line := ((rest.take 253).takeWhile (· != '\n')).dropWhile isGap
    let program := line.takeWhile (!isGap ·)
    let argument := (line.dropWhile (!isGap ·)).dropWhile isGap
    let argument := (argument.reverse.dropWhile isGap).reverse
    if program.isEmpty then none
    else some (String.ofList program, if argument.isEmpty then [] else [String.ofList argument])
  | _ => none

/-- What starting a process takes, in nanoseconds. -/
def startingTime : Nat := 1000000

/-- The file that a channel leads to, and the place in it. -/
def file? (machine : Machine) (channels : Channels) (number : Nat) : Option (Nat × Nat) :=
  match machine.opening? channels number with
  | some { place := .node node, offset, .. } => some (node, offset)
  | _ => none

/-- Where writing through a channel goes on in its file. -/
def writingOffset (machine : Machine) (channels : Channels) (number : Nat) : Nat :=
  match machine.opening? channels number with
  | some { place := .node node, offset, appends := true, .. } =>
    ((machine.tree.nodeAt? node).map Node.size).getD offset
  | some opening => opening.offset
  | none => 0

/-- How much of a pipe is taken by who needs some octets of it and reads what there is: everything
that has come up to then. -/
def blocks (machine : Machine) (pipe count : Nat) : Nat :=
  let queue := (machine.pipe pipe).settle.queue
  let (time, _) := Pipe.skip machine.clock count queue
  let there := (queue.filter (·.1 ≤ time)).map (·.2.length)
  max count (there.foldl (· + ·) 0)

/-- Why nothing can be written to a channel. -/
def fault? (machine : Machine) (channels : Channels) (number : Nat) : Option SystemError :=
  match machine.write channels number "" with
  | .error e => some e
  | .ok _ =>
    match (file? machine channels number).bind fun (node, _) => machine.tree.kindAt? node with
    | some (.device .full) => some .noSpace
    | _ => none

/-- Write what a tool says, in order, up to the first thing that cannot be written. -/
def utter (channels : Channels) :
    List Utterance → Machine → Machine × Option SystemError
  | [], machine => (machine, none)
  | .complaint text :: rest, machine => utter channels rest (machine.tell channels 2 text)
  | .output text :: rest, machine =>
    match machine.write channels 1 text with
    | .ok machine => utter channels rest machine
    | .error e => ((utter channels rest machine).1, some e)

/-- What a tool finds when it is called. -/
def toolCall (call : Call) (machine : Machine) : ToolCall :=
  let input := file? machine call.channels 0
  { name := call.name
    arguments := call.arguments
    directory := call.directory
    environment := call.environment
    mask := call.mask
    input := machine.supply call.channels 0
    inputNode? := input.map (·.1)
    inputOffset := (input.map (·.2)).getD 0
    outputNode? := (file? machine call.channels 1).map (·.1)
    outputOffset := writingOffset machine call.channels 1
    outputFault? := fault? machine call.channels 1
    process := call.process }

/-- Run a tool on its channels: how it ended, and its code. -/
def runTool (tool : Tool) (call : Call) (machine : Machine) : Ending × Nat × Machine :=
  let (outcome, desk) := (tool.run (toolCall call machine)).run.run { tree := machine.tree }
  let available := match machine.supply call.channels 0 with
    | .ok supply => supply.rest.length
    | .error _ => 0
  let taken := match machine.opening? call.channels 0 with
    | some { place := .pipe pipe, .. } =>
      if desk.readsBlocks && desk.taken != 0 then blocks machine pipe desk.taken else desk.taken
    | _ => min desk.taken available
  let machine := { machine with tree := desk.tree }
  let machine := if taken = 0 then machine else machine.consume call.channels 0 taken
  let (machine, fault?) := utter call.channels desk.said.reverse (machine.advance desk.pause)
  let ending : Ending := match outcome with
    | .ok () => if desk.isEndless then .endless else .done
    | .error ending => ending
  match fault?, ending with
  | some e, .done =>
    (ending, max 1 desk.code,
      machine.tell call.channels 2 (call.name ++ ": write error: " ++ e.reason ++ "\n"))
  | _, _ => (ending, desk.code, machine)

/-- What becomes of a tool whose place a program took that was started at some time. -/
def conclude (launch : Launch) (successor : Successor) (channels : Channels) (start : Nat)
    (machine : Machine) : Launch × Machine :=
  match launch, successor.limit? with
  | refused cause, _ =>
    let code := if cause = .noSuchFile then successor.missingCode else successor.refusedCode
    (ended (.exited code), machine.tell channels 2 (successor.lament cause))
  | launch, none => (launch, machine)
  | launch, some limit =>
    let latest := start + limit.time
    if launch = endless || latest < machine.clock then
      let machine := machine.turnBack latest
      let machine : Machine :=
        { machine with pipes := machine.pipes.map fun pipe => pipe.withoutFuture latest }
      (ended limit.status, machine.tell channels 2 limit.notice)
    else (launch, machine)

end Launch

end Polyglot
