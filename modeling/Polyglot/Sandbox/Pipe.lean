/-!
# Pipes

Octets on their way from writers to readers. Every piece carries the time at which it was written,
so that pieces of processes that run side by side come out in the order of time, whichever process
was carried out first.
-/

namespace Polyglot

structure Pipe where
  /-- What was written, latest first, with the times. -/
  written : List (Nat × String) := []
  /-- What can be read, in order. -/
  queue : List (Nat × List Char) := []
  /-- Whoever writes never stops. -/
  isEndless : Bool := false
  /-- When the last writer was done. -/
  closed : Nat := 0
  /-- How many octets were ever written, and when the last ones were. -/
  flow : Nat := 0
  latest : Nat := 0
deriving Inhabited

namespace Pipe

def write (pipe : Pipe) (time : Nat) (text : String) : Pipe :=
  if text.isEmpty then pipe
  else
    { pipe with
      written := (time, text) :: pipe.written
      flow := pipe.flow + text.length
      latest := max time pipe.latest }

/-- How many octets can be written that nobody reads. -/
def capacity : Nat := 65536

/-- Is somebody who never stops going to write after a time? -/
def writesAfter (pipe : Pipe) (time : Nat) : Bool :=
  capacity ≤ pipe.flow || time < pipe.latest

/-- Put pieces of one time together that stand side by side. -/
def joined (pieces : List (Nat × String)) : List (Nat × List Char) :=
  (pieces.splitBy fun a b => a.1 == b.1).map fun group =>
    ((group.head?.map (·.1)).getD 0, (String.join (group.map (·.2))).toList)

/-- Make what was written readable. -/
def settle (pipe : Pipe) : Pipe :=
  if pipe.written.isEmpty then pipe
  else
    let fresh := pipe.written.reverse.mergeSort fun a b => a.1 ≤ b.1
    { pipe with written := [], queue := pipe.queue ++ joined fresh }

/-- Everything that can be read from a pipe that is settled. -/
def rest (pipe : Pipe) : List Char :=
  match pipe.queue with
  | [(_, cs)] => cs
  | queue => queue.flatMap (·.2)

/-- Leave out the first octets of a queue. The time is that of the last one. -/
def skip (time : Nat) : (count : Nat) → List (Nat × List Char) → Nat × List (Nat × List Char)
  | _, [] => (time, [])
  | count, (arrival, cs) :: queue =>
    if count = 0 then (time, (arrival, cs) :: queue)
    else
      let time := max time arrival
      let left := cs.drop count
      if left.isEmpty then skip time (count - cs.length) queue
      else (time, (arrival, left) :: queue)

/-- Read some octets. Reading past the end takes until the writers are done. -/
def take (pipe : Pipe) (count : Nat) : Nat × Pipe :=
  let (time, queue) := skip 0 count pipe.queue
  (if queue.isEmpty then max time pipe.closed else time, { pipe with queue })

/-- A pipe without what is written to it only after some time. -/
def withoutFuture (pipe : Pipe) (time : Nat) : Pipe :=
  { pipe with
    written := pipe.written.filter (·.1 ≤ time)
    queue := pipe.queue.filter (·.1 ≤ time)
    isEndless := false }

/-- Everything that was written and not read, as one text. -/
def text (pipe : Pipe) : String :=
  String.ofList pipe.settle.rest

end Pipe

end Polyglot
