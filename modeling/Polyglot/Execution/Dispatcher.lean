import Polyglot.Config.Basic
import Polyglot.Execution.Toolchain
import Polyglot.Language.Validation

/-!
# Dispatching

Code goes to the toolchain of the language it is said to be in, once it has passed for that
language. What fails on the way is told as text.
-/

namespace Polyglot

structure Dispatcher where
  registry : Registry
  /-- The toolchains of languages; no language occurs twice. -/
  toolchains : List (Language × Toolchain) := []
  /-- The limit for building and running one snippet. -/
  timeout : Duration

/-- What the user sees of a run. -/
structure ExecutionReport where
  text : String
  artifact : Option (List UInt8) := none
deriving DecidableEq, Repr

/-- The result of giving code to a toolchain. -/
structure Execution (σ : Type) where
  result : Except ExecutionError ExecutionOutput
  state : σ
  /-- The commands that were given, in order. -/
  started : List Command := []

/-- A report with the workshop's state and the commands that were given. -/
structure DispatchRun (σ : Type) where
  report : ExecutionReport
  state : σ
  started : List Command := []

namespace Dispatcher

/-- Put a toolchain in place of any that the language had. -/
def insert (dispatcher : Dispatcher) (language : Language) (toolchain : Toolchain) : Dispatcher :=
  { dispatcher with
    toolchains := (language, toolchain) :: dispatcher.toolchains.filter (·.1 != language) }

/-- Every language of the registry with its stock toolchain. -/
def ofRegistry (registry : Registry) (timeout : Duration) : Dispatcher :=
  registry.profiles.foldl
    (fun dispatcher profile =>
      match Toolchain.ofProfile? profile with
      | some toolchain => dispatcher.insert profile.language toolchain
      | none => dispatcher)
    { registry, timeout }

/-- The limit without any configuration. -/
def stockTimeout : Duration := .ofSeconds 30

/-- The built-in languages with their stock toolchains. -/
def stock : Dispatcher :=
  ofRegistry .builtin stockTimeout

def ofConfig (config : ConverterConfig) : Dispatcher :=
  ofRegistry .builtin config.executionTimeout

/-- Use a toolchain for the language of a name; names of no language change nothing. -/
def withToolchain (dispatcher : Dispatcher) (name : String) (toolchain : Toolchain) : Dispatcher :=
  match dispatcher.registry.resolve name with
  | some language => dispatcher.insert language toolchain
  | none => dispatcher

def withTimeout (dispatcher : Dispatcher) (timeout : Duration) : Dispatcher :=
  { dispatcher with timeout }

/-- The languages that have a toolchain, by name. -/
def supportedLanguages (dispatcher : Dispatcher) : List Language :=
  (dispatcher.toolchains.map (·.1)).mergeSort Language.le

def toolchain? (dispatcher : Dispatcher) (language : Language) : Option Toolchain :=
  dispatcher.toolchains.lookup language

variable {σ : Type}

/-- What running code with a toolchain comes to, and how long it takes. -/
def execution (toolchain : Toolchain) (workshop : Workshop σ) (limit : Duration) (code : String)
    (state : σ) : Execution σ :=
  let run := toolchain.run workshop limit code state
  { result := run.result.map fun product => {
      stdout := product.stdout
      artifact := product.artifact
      elapsed := ⟨(workshop.clock run.state).nanoseconds - (workshop.clock state).nanoseconds⟩ }
    state := run.state
    started := run.started }

/-- Run code with a language's toolchain, if it has one, without asking what the code is. -/
def execute? (dispatcher : Dispatcher) (workshop : Workshop σ) (code : String)
    (language : Language) (state : σ) : Option (Execution σ) :=
  (dispatcher.toolchain? language).map fun toolchain =>
    execution toolchain workshop dispatcher.timeout code state

/-- The report of a result. -/
def report : Except ExecutionError ExecutionOutput → ExecutionReport
  | .ok output => {
      text := output.stdout ++ "\nExecution completed in " ++ output.elapsed.inSeconds ++ " seconds"
      artifact := output.artifact }
  | .error error => { text := "Error: " ++ error.message }

/-- An execution with the report of its result. -/
def reported (execution : Execution σ) : DispatchRun σ where
  report := report execution.result
  state := execution.state
  started := execution.started

/-- Check code, run it, and report. -/
def run (dispatcher : Dispatcher) (workshop : Workshop σ) (code name : String) (state : σ) :
    DispatchRun σ :=
  let unimplemented : DispatchRun σ :=
    { report := { text := "Execution not implemented for " ++ name }, state }
  if Text.allBlank code then { report := { text := "No code to execute." }, state }
  else
    let validation := dispatcher.registry.validate code name
    if !validation.isValid then
      { report := { text := "⚠️ Error: Cannot execute code.\n" ++ validation.explanation }, state }
    else match dispatcher.registry.resolve name with
      | none => unimplemented
      | some language =>
        match dispatcher.execute? workshop code language state with
        | none => unimplemented
        | some execution => reported execution

end Dispatcher

end Polyglot
