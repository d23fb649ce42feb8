import Polyglot.Duration
import Polyglot.System.Error

/-!
# Workshops

Where snippets are built and run: a scratch directory for files, a way to start programs, and a
clock. Nothing is assumed about what programs do; they may change every file that is there.
-/

namespace Polyglot

/-- A program and its arguments. -/
structure Command where
  program : String
  arguments : List String
deriving DecidableEq, Repr

/-- How a process ended. -/
inductive ExitStatus where
  | exited (code : Nat)
  /-- A signal ended it, and its memory may have been dumped. -/
  | killed (signal : Nat) (dumped : Bool := false)
deriving DecidableEq, Repr

namespace ExitStatus

def isSuccess (status : ExitStatus) : Bool :=
  status == exited 0

/-- The names of the signals that end processes. -/
def signalNames : List (Nat × String) := [
  (1, "SIGHUP"), (2, "SIGINT"), (3, "SIGQUIT"), (4, "SIGILL"), (5, "SIGTRAP"), (6, "SIGABRT"),
  (7, "SIGBUS"), (8, "SIGFPE"), (9, "SIGKILL"), (10, "SIGUSR1"), (11, "SIGSEGV"),
  (12, "SIGUSR2"), (13, "SIGPIPE"), (14, "SIGALRM"), (15, "SIGTERM"), (16, "SIGSTKFLT"),
  (17, "SIGCHLD"), (18, "SIGCONT"), (19, "SIGSTOP"), (20, "SIGTSTP"), (21, "SIGTTIN"),
  (22, "SIGTTOU"), (23, "SIGURG"), (24, "SIGXCPU"), (25, "SIGXFSZ"), (26, "SIGVTALRM"),
  (27, "SIGPROF"), (28, "SIGWINCH"), (29, "SIGIO"), (30, "SIGPWR"), (31, "SIGSYS")]

def text : ExitStatus → String
  | exited code => "exit status: " ++ toString code
  | killed signal dumped =>
    let name := match signalNames.lookup signal with
      | some name => " (" ++ name ++ ")"
      | none => ""
    "signal: " ++ toString signal ++ name ++ if dumped then " (core dumped)" else ""

end ExitStatus

/-- What became of a command. -/
inductive ProcessOutcome where
  /-- The program could not be started. -/
  | refused (cause : SystemError)
  | ended (status : ExitStatus) (stdout stderr : List UInt8)
  /-- The process goes on and on. -/
  | endless
deriving DecidableEq, Repr

structure Workshop (σ : Type) where
  /-- The path of the scratch directory. -/
  directory : String
  /-- Write a file in the scratch directory. -/
  save : (name : String) → List UInt8 → σ → Except SystemError Unit × σ
  /-- Read a file in the scratch directory. -/
  load : (name : String) → σ → Except SystemError (List UInt8)
  /-- Start a program in the scratch directory and wait for its end. -/
  start : Command → σ → ProcessOutcome × σ
  clock : σ → Duration

/-- The path of a file in the scratch directory. -/
def Workshop.path {σ : Type} (workshop : Workshop σ) (name : String) : String :=
  workshop.directory ++ "/" ++ name

end Polyglot
