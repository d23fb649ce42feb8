import Polyglot.Sandbox.Machine

/-!
# Tools

Programs of the system. A tool works at a desk: it finds its arguments and the files there, says
things to its output and its error output, and may end at any moment with a code. Problems are
told under the name by which the tool was called.
-/

namespace Polyglot

/-- What a tool is given. -/
structure ToolCall where
  /-- The name under which it was called. -/
  name : String
  arguments : List String
  directory : Path
  environment : List (String × String)
  /-- The bits that new files do not get. -/
  mask : Nat := 0o022
  /-- The standard input. -/
  input : Except SystemError Supply
  /-- The file that the standard input is. -/
  inputNode? : Option Nat := none
  /-- Where reading goes on in that file. -/
  inputOffset : Nat := 0
  /-- The file that the standard output is. -/
  outputNode? : Option Nat := none
  /-- Where writing goes on in that file. -/
  outputOffset : Nat := 0
  /-- Can anything be written to the standard output? -/
  outputFault? : Option SystemError := none
  process : Nat := 0

/-- What a tool writes at one moment. -/
inductive Utterance where
  | output (text : String)
  | complaint (text : String)
deriving DecidableEq, Repr

/-- A limit to how long a program may run. -/
structure TimeLimit where
  /-- In nanoseconds. -/
  time : Nat
  signal : Nat
  /-- How the tool ends if the program is stopped. -/
  status : ExitStatus
  /-- What is told when that happens. -/
  notice : String := ""

/-- A program that takes the place of a tool. -/
structure Successor where
  arguments : List String
  environment : List (String × String)
  directory : Path
  /-- Signals that it ignores. -/
  ignored : List Nat := []
  limit? : Option TimeLimit := none
  /-- The codes for a program that is not found and for one that cannot be started. -/
  missingCode : Nat := 127
  refusedCode : Nat := 126
  /-- The complaint if it cannot be started. -/
  lament : SystemError → String

/-- Why a tool stops. -/
inductive Ending where
  | done
  /-- It goes on and on. -/
  | endless
  | become (successor : Successor)

structure Desk where
  tree : FileTree
  /-- Input comes in blocks, so that more is taken than is needed. -/
  readsBlocks : Bool := false
  /-- Some input never ends, so that the tool never does. -/
  isEndless : Bool := false
  /-- What it said, latest first. -/
  said : List Utterance := []
  code : Nat := 0
  /-- How much of the standard input it has read. -/
  taken : Nat := 0
  /-- How long it took, in nanoseconds. -/
  pause : Nat := 0

/-- What a tool does. -/
abbrev Work := ReaderT ToolCall (ExceptT Ending (StateM Desk))

abbrev Tool := Work Unit

namespace Work

def getTree : Work FileTree := do
  return (← get).tree

def setTree (tree : FileTree) : Work Unit :=
  modify fun desk => { desk with tree }

def setCode (code : Nat) : Work Unit :=
  modify fun desk => { desk with code }

/-- End with a code. -/
def exit {α : Type} (code : Nat) : Work α := do
  setCode code
  throw .done

def say (text : String) : Work Unit := do
  if !text.isEmpty then modify fun desk => { desk with said := .output text :: desk.said }

def sayLine (text : String) : Work Unit :=
  say (text ++ "\n")

/-- Write to the error output as it is. -/
def murmur (text : String) : Work Unit :=
  modify fun desk => { desk with said := .complaint text :: desk.said }

/-- Tell of a problem. -/
def complain (text : String) : Work Unit := do
  murmur ((← read).name ++ ": " ++ text ++ "\n")

/-- Tell of a problem that makes the code 1, and go on. -/
def fault (text : String) (code : Nat := 1) : Work Unit := do
  complain text
  setCode code

/-- Tell of a problem and end. -/
def die {α : Type} (text : String) (code : Nat := 1) : Work α := do
  complain text
  exit code

def hint : Work Unit := do
  murmur ("Try '" ++ (← read).name ++ " --help' for more information.\n")

/-- Tell of a mistake in the call and end. -/
def misuse {α : Type} (text : String) (code : Nat := 1) : Work α := do
  complain text
  hint
  exit code

/-- The greatest amount that anybody waits for. -/
def greatestAmount : Nat := 0x1000000

/-- What is to be done so often, or is to be so long, never ends if that is too much. -/
def insistOnBound (amount : Nat) : Work Unit := do
  if greatestAmount < amount then throw .endless

/-! ## Reading -/

/-- Read the standard input to its end, of which there may be none. -/
def streamInput : Work (Except SystemError (List Char)) := do
  match (← read).input with
  | .error e => return .error e
  | .ok supply => do
    let rest := supply.rest.drop (← get).taken
    modify fun desk => { desk with
      taken := supply.rest.length + 1
      isEndless := desk.isEndless || supply.isEndless }
    return .ok rest

/-- Wait for the end of an input whose end is needed. -/
def insistOnEnd {α : Type} (value : α) : Work α := do
  if (← get).isEndless then throw .endless
  return value

/-- Read the standard input to its end. -/
def readInput : Work (Except SystemError (List Char)) := do
  insistOnEnd (← streamInput)

/-- Look at what the standard input holds without reading it. -/
def peekInput : Work (Except SystemError Supply) := do
  match (← read).input with
  | .error e => return .error e
  | .ok supply => return .ok { supply with rest := supply.rest.drop (← get).taken }

/-- Read some octets of the standard input. -/
def takeInput (count : Nat) : Work Unit :=
  modify fun desk => { desk with taken := desk.taken + count }

/-- Take note that the standard input is read in blocks. -/
def readBlocks : Work Unit :=
  modify fun desk => { desk with readsBlocks := true }

/-- The content of a file, or of the standard input for a hyphen, which may never end. -/
def streamFile (operand : String) : Work (Except SystemError (List Char)) := do
  if operand == "-" || operand == "/dev/stdin" then streamInput
  else
    match (← getTree).find (← read).directory operand with
    | .error e => return .error e
    | .ok (_, _, node) =>
      if node.kind == .device .zeros || node.kind == .device .full then
        modify fun desk => { desk with isEndless := true }
        return .ok (List.replicate Supply.window '\x00')
      else return node.content.map String.toList

/-- The content of a file whose end is needed. -/
def readFile (operand : String) : Work (Except SystemError (List Char)) := do
  insistOnEnd (← streamFile operand)

/-- So many octets at the start of a file or of the standard input, or all if there are fewer. No
more of the input is read than that, so that it need not end. -/
def readSome (count : Nat) (operand : String) : Work (Except SystemError (List Char)) := do
  if operand == "-" || operand == "/dev/stdin" then
    match ← peekInput with
    | .error e => return .error e
    | .ok supply =>
      if count ≤ supply.rest.length then
        takeInput count
        return .ok (supply.rest.take count)
      else readInput
  else
    let before := (← get).isEndless
    match ← streamFile operand with
    | .error e => return .error e
    | .ok cs =>
      if count ≤ cs.length then
        modify fun desk => { desk with isEndless := before }
        return .ok (cs.take count)
      else insistOnEnd (.ok cs)

/-- The error that looking at a path gives. -/
def find (operand : String) (last : Bool := true) :
    Work (Except SystemError (Path × Nat × Node)) := do
  return (← getTree).find (← read).directory operand last

def look? (operand : String) (last : Bool := true) : Work (Option Node) := do
  return (← getTree).look? (← read).directory operand last

/-- The node of a file, or of the standard input for a hyphen, and where reading it begins. -/
def source? (operand : String) : Work (Option (Nat × Nat)) := do
  let call ← read
  if operand == "-" then return call.inputNode?.map (·, call.inputOffset)
  match ← find operand with
  | .ok (_, number, _) => return some (number, 0)
  | .error _ => return none

/-! ## Writing -/

/-- The node of the standard output, and where the next octet goes. -/
def sink? : Work (Option (Nat × Nat)) := do
  let call ← read
  let said := (← get).said.map fun
    | .output text => text.length
    | .complaint _ => 0
  return call.outputNode?.map (·, said.foldl (· + ·) call.outputOffset)

/-- Change the files, or see why that cannot be. -/
def attempt (change : FileTree → Path → Except SystemError FileTree) :
    Work (Except SystemError Unit) := do
  match change (← getTree) (← read).directory with
  | .ok tree => do
    setTree tree
    return .ok ()
  | .error e => return .error e

/-- The mode of a new file, or of a new directory. -/
def newMode (bits : Nat) : Work Nat := do
  return bits - (bits &&& (← read).mask)

/-- Write a whole file. -/
def writeFile (operand content : String) : Work (Except SystemError Unit) := do
  let mode ← newMode 0o666
  attempt fun tree directory => tree.write directory operand content mode

/-- Let time pass. -/
def wait (nanoseconds : Nat) : Work Unit :=
  modify fun desk => { desk with pause := desk.pause + nanoseconds }

def environmentValue? (name : String) : Work (Option String) := do
  return (← read).environment.lookup name

end Work

/-! ## Lines -/

/-- The lines of a text without their line feeds; a text without one at its end has a last line
all the same. -/
def textLines (cs : List Char) : List (List Char) :=
  let (ended, last) := Text.terminatedLines cs
  if last.isEmpty then ended else ended ++ [last]

/-- Pieces that are ended by a mark, like lines by a line feed. -/
def textPieces (mark : Char) (cs : List Char) : List (List Char) :=
  let pieces := cs.splitOn mark
  let last := pieces.getLastD []
  if last.isEmpty then pieces.dropLast else pieces

/-- Lines with their line feeds. -/
def unlines (lines : List (List Char)) : String :=
  String.ofList (lines.flatMap (· ++ ['\n']))

end Polyglot
