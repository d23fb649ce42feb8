import Polyglot.Execution.Workshop
import Polyglot.Sandbox.FileTree.Change
import Polyglot.Sandbox.Pipe

/-!
# Machines

What processes share: the files, the pipes, what is open, the clock and the signals under way.
Processes know what is open by numbers of their own, which lead to openings of the machine; two
numbers may lead to the same opening and then share its place in the file.
-/

namespace Polyglot

/-- Where an opening leads. -/
inductive Place where
  /-- A node of the tree. -/
  | node (number : Nat)
  | pipe (number : Nat)
deriving DecidableEq, Repr

/-- Something that is open. -/
structure Opening where
  place : Place
  /-- How many octets come before the next one. -/
  offset : Nat := 0
  reads : Bool := false
  writes : Bool := false
  /-- Everything is written at the end. -/
  appends : Bool := false
deriving Repr

/-- What can be read, and whether it never ends. -/
structure Supply where
  rest : List Char
  isEndless : Bool := false

/-- How much is looked at of what never ends. -/
def Supply.window : Nat := 0x100000

/-- A signal on its way to a process. -/
structure Signal where
  process : Nat
  number : Nat
  time : Nat
deriving DecidableEq, Repr

/-- A process in the background. -/
structure BackgroundProcess where
  process : Nat
  /-- When it ends if it ever does. -/
  finish? : Option Nat
  /-- How it ends. -/
  status : ExitStatus
  /-- The signals that it ignores. -/
  ignored : List Nat := []
deriving DecidableEq, Repr

structure Machine where
  tree : FileTree
  /-- Nanoseconds since the machine was started. -/
  clock : Nat := 0
  openings : Array Opening := #[]
  pipes : Array Pipe := #[]
  /-- The number of the next process. -/
  nextProcess : Nat := 100
  /-- How many octets have ever been put into variables. -/
  effort : Nat := 0
  background : List BackgroundProcess := []
  /-- Signals that processes have not noticed yet, latest first. -/
  signals : List Signal := []

/-- The channels of a process: its own numbers and those of the machine's openings. -/
abbrev Channels := List (Nat × Nat)

namespace Machine

/-- The time at which the machine was started, in nanoseconds since 1970. -/
def epoch : Int := 1750000000 * 1000000000

def advance (machine : Machine) (nanoseconds : Nat) : Machine :=
  let clock := machine.clock + nanoseconds
  { machine with clock, tree := { machine.tree with now := epoch + clock } }

/-- Wait until a time, unless it is past. -/
def waitUntil (machine : Machine) (time : Nat) : Machine :=
  machine.advance (time - machine.clock)

/-- Set the clock back to where a process left it that runs on beside another. -/
def turnBack (machine : Machine) (time : Nat) : Machine :=
  { machine with clock := time, tree := { machine.tree with now := epoch + time } }

/-! ## Opening -/

def withOpening (machine : Machine) (opening : Opening) : Nat × Machine :=
  (machine.openings.size, { machine with openings := machine.openings.push opening })

/-- A new pipe: the openings of its end for reading and of that for writing. -/
def withPipe (machine : Machine) : Nat × Nat × Machine :=
  let number := machine.pipes.size
  let machine := { machine with pipes := machine.pipes.push {} }
  let (reading, machine) := machine.withOpening { place := .pipe number, reads := true }
  let (writing, machine) := machine.withOpening { place := .pipe number, writes := true }
  (reading, writing, machine)

/-- A pipe that holds a text. -/
def withText (machine : Machine) (text : String) : Nat × Machine :=
  let (reading, _, machine) := machine.withPipe
  let pipe : Pipe := { queue := [(machine.clock, text.toList)], closed := machine.clock }
  (reading, { machine with pipes := machine.pipes.set! (machine.pipes.size - 1) pipe })

/-- An opening of the device from which nothing can be read. -/
def withNothing (machine : Machine) : Nat × Machine :=
  match machine.tree.number? ["dev", "null"] with
  | some number => machine.withOpening { place := .node number, reads := true }
  | none => machine.withText ""

def opening? (machine : Machine) (channels : Channels) (number : Nat) : Option Opening :=
  (channels.lookup number).bind fun place => machine.openings[place]?

def modifyPipe (machine : Machine) (number : Nat) (f : Pipe → Pipe) : Machine :=
  { machine with pipes := machine.pipes.modify number f }

def pipe (machine : Machine) (number : Nat) : Pipe :=
  (machine.pipes[number]?).getD {}

/-- The pipe that an opening leads to. -/
def pipeBehind? (machine : Machine) (place : Nat) : Option Pipe :=
  match machine.openings[place]? with
  | some { place := .pipe number, .. } => some (machine.pipe number)
  | _ => none

/-- Everything that was written to an opening of a pipe. -/
def written (machine : Machine) (place : Nat) : String :=
  ((machine.pipeBehind? place).map Pipe.text).getD ""

/-! ## Reading and writing -/

/-- What can be read through a channel; of a file at most so many octets if a number is given. -/
def supply (machine : Machine) (channels : Channels) (number : Nat) (most? : Option Nat := none) :
    Except SystemError Supply :=
  match machine.opening? channels number with
  | none => .error .badDescriptor
  | some opening =>
    if !opening.reads then .error .badDescriptor
    else match opening.place with
      | .pipe pipe =>
        let pipe := (machine.pipe pipe).settle
        .ok { rest := pipe.rest, isEndless := pipe.isEndless }
      | .node node =>
        match machine.tree.kindAt? node with
        | some .directory => .error .isADirectory
        | some (.file content) =>
          let rest := content.drop opening.offset
          let rest := match most? with
            | some most => rest.take most
            | none => rest
          .ok { rest := rest.toString.toList }
        | some (.program name) => .ok { rest := ("\x7fELF" ++ name).toList.drop opening.offset }
        | some (.fifo held) => .ok { rest := held.toList }
        | some (.device .zeros) =>
          .ok { rest := List.replicate Supply.window '\x00', isEndless := true }
        | some (.device .full) =>
          .ok { rest := List.replicate Supply.window '\x00', isEndless := true }
        | _ => .ok { rest := [] }

/-- Move on by some octets that were read. -/
def consume (machine : Machine) (channels : Channels) (number count : Nat) : Machine :=
  match channels.lookup number with
  | none => machine
  | some place =>
    match machine.openings[place]? with
    | none => machine
    | some opening =>
      match opening.place with
      | .pipe pipe =>
        let (time, rest) := (machine.pipe pipe).settle.take count
        (machine.modifyPipe pipe fun _ => rest).waitUntil time
      | .node node =>
        match machine.tree.kindAt? node with
        | some (.fifo held) =>
          { machine with tree := machine.tree.modifyAt node fun n =>
              { n with kind := .fifo (held.drop count).toString } }
        | _ =>
          { machine with openings := machine.openings.modify place fun opening =>
              { opening with offset := opening.offset + count } }

/-- Write through a channel. -/
def write (machine : Machine) (channels : Channels) (number : Nat) (text : String) :
    Except SystemError Machine :=
  match channels.lookup number with
  | none => .error .badDescriptor
  | some place =>
    match machine.openings[place]? with
    | none => .error .badDescriptor
    | some opening =>
      if !opening.writes then .error .badDescriptor
      else if text.isEmpty then .ok machine
      else match opening.place with
        | .pipe pipe => .ok (machine.modifyPipe pipe (·.write machine.clock text))
        | .node node =>
          match machine.tree.nodeAt? node with
          | some { kind := .file content, .. } =>
            let offset := if opening.appends then content.length else opening.offset
            .ok { machine with
              tree := machine.tree.writeAt node offset text
              openings := machine.openings.modify place fun opening =>
                { opening with offset := offset + text.length } }
          | some { kind := .fifo held, .. } =>
            .ok { machine with tree := machine.tree.modifyAt node fun n =>
                { n with kind := .fifo (held ++ text) } }
          | some { kind := .device .full, .. } => .error .noSpace
          | _ => .ok machine

/-- Write, whatever becomes of it. -/
def tell (machine : Machine) (channels : Channels) (number : Nat) (text : String) : Machine :=
  match machine.write channels number text with
  | .ok machine => machine
  | .error _ => machine

/-! ## Pipes that end -/

/-- Note that whoever wrote to a pipe is done. -/
def closePipe (machine : Machine) (number : Nat) : Machine :=
  machine.modifyPipe number fun pipe => { pipe with closed := max pipe.closed machine.clock }

/-- Note for all pipes that a process writes to that it is done with them, or that it never will
be. -/
def leavePipes (machine : Machine) (channels : Channels) (isEndless : Bool) : Machine :=
  channels.foldl
    (fun machine (_, place) =>
      match machine.openings[place]? with
      | some { place := .pipe number, writes := true, .. } =>
        if isEndless then machine.modifyPipe number fun pipe => { pipe with isEndless := true }
        else machine.closePipe number
      | _ => machine)
    machine

/-! ## Signals -/

def signal (machine : Machine) (process number : Nat) : Machine :=
  { machine with signals := ⟨process, number, machine.clock⟩ :: machine.signals }

/-- The signals for a process that have arrived, oldest first, and the machine without them. -/
def noticed (machine : Machine) (process : Nat) : List Nat × Machine :=
  let (own, others) := machine.signals.partition fun s =>
    s.process == process && s.time ≤ machine.clock
  ((own.mergeSort fun a b => b.time ≤ a.time).reverse.map (·.number),
    { machine with signals := others })

/-- The next signal for a process among those that count. -/
def nextSignal? (machine : Machine) (process : Nat) (counts : Nat → Bool) : Option Signal :=
  let own := machine.signals.filter fun s => s.process == process && counts s.number
  (own.mergeSort fun a b => a.time ≤ b.time).head?

/-! ## The background -/

def withBackground (machine : Machine) (process : BackgroundProcess) : Machine :=
  { machine with background := process :: machine.background }

def background? (machine : Machine) (process : Nat) : Option BackgroundProcess :=
  machine.background.find? (·.process == process)

/-- Is a process in the background still under way? -/
def isUnderWay (machine : Machine) (process : Nat) : Bool :=
  (machine.background? process).any fun b => b.finish?.all (machine.clock < ·)

/-- End a process in the background at once: what it would have written later is gone. -/
def endBackground (machine : Machine) (process : Nat) (status : ExitStatus) : Machine :=
  { machine with
    background := machine.background.map fun b =>
      if b.process == process then { b with finish? := some machine.clock, status } else b
    pipes := machine.pipes.map (·.withoutFuture machine.clock) }

/-- Wait for everything in the background, which may take forever. -/
def settle? (machine : Machine) : Option Machine :=
  machine.background.foldl
    (fun machine? b => machine?.bind fun machine => b.finish?.map machine.waitUntil) (some machine)

end Machine

end Polyglot
