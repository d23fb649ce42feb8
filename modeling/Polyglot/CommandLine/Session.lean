import Polyglot.CommandLine.Report
import Polyglot.Config.Json
import Polyglot.Conversion.Converter
import Polyglot.Execution.Dispatcher

/-!
# Sessions

An invocation carried out from beginning to end. The configuration is read first, then the
snippet; either may end the session before the task begins.
-/

namespace Polyglot.CommandLine

/-- What is around the program. -/
structure Surroundings (σ : Type) where
  standardInput : List UInt8 := []
  /-- The content of the file at a path. -/
  file : String → Except SystemError (List UInt8)
  environment : Environment := []
  transport : Transport := .refusing
  workshop : Workshop σ

/-- How a session went. -/
structure Session (σ : Type) where
  report : Report
  /-- The requests that reached a provider. -/
  requests : List HttpRequest := []
  state : σ

/-! ## Reading -/

/-- Bytes that must be text. -/
def textOf : Except SystemError (List UInt8) → Except SystemError String
  | .error cause => .error cause
  | .ok bytes =>
    match Text.Utf8.decode? bytes with
    | some cs => .ok (String.ofList cs)
    | none => .error .invalidUtf8

def loadConfig (file : String → Except SystemError (List UInt8)) :
    Option String → Except ConfigError ConverterConfig
  | none => .ok {}
  | some path => ConverterConfig.ofFile path (file path)

section

variable {σ : Type}

def Surroundings.snippet (around : Surroundings σ) : Source → Except Failure String
  | .standardInput =>
    (textOf (.ok around.standardInput)).mapError (.ofSystem "Failed to read stdin")
  | .file path =>
    (textOf (around.file path)).mapError (.ofSystem ("Failed to read " ++ path))

end

/-! ## Tasks -/

def candidateJson (candidate : Candidate) : Json :=
  .object [("language", .string candidate.language.name), ("score", .integer candidate.score)]

def detect (code : String) (explain : Bool) : Report :=
  if explain then .ofLine (Json.array ((Registry.builtin.rank code).map candidateJson)).pretty
  else .ofLine (((Registry.builtin.detect code).map (·.name)).getD "unknown")

def validate (code language : String) : Report :=
  let validation := Registry.builtin.validate code language
  if validation.isValid then .ofLine "ok" else .ofFailure ⟨validation.explanation, none⟩

/-- What is shown of the progress: the percentage, whenever it is ten or more above the one shown
last. -/
def progressText (last : Nat) : List Single → String
  | [] => ""
  | fraction :: rest =>
    let percent := percentage fraction
    if last + 10 ≤ percent then
      "\rConverting - " ++ toString percent ++ "%" ++ progressText percent rest
    else progressText last rest

/-- The report of a conversion, and the code that came out of it. -/
def conversionReport (conversion : Conversion) : Report × Option String :=
  let shown : Report := { stderr := progressText 0 (conversion.progress.map (·.2)) }
  let ended := { shown with stderr := shown.stderr ++ "\n" }
  match conversion.result with
  | .error error => (shown.fail ⟨error.message, none⟩, none)
  | .ok (.converted code) => ({ ended with stdout := code ++ "\n" }, some code)
  | .ok (.rejected explanation) => (ended.fail ⟨explanation, none⟩, none)
  | .ok .skipped => (ended.fail ⟨"Nothing to convert", none⟩, none)

/-- The languages and models that there are, by what they are good for. -/
def languagesJson (config : ConverterConfig) : Json :=
  .object [
    ("convertible", .ofTexts config.languages),
    ("detectable", .ofTexts (Registry.builtin.languages.map (·.name))),
    ("executable", .ofTexts ((Dispatcher.ofConfig config).supportedLanguages.map (·.name))),
    ("models", .ofTexts (config.models.map (·.name)))]

section

variable {σ : Type}

/-- Convert a snippet, and run what comes out if that is wanted. -/
def convert (around : Surroundings σ) (config : ConverterConfig) (request : ConversionRequest)
    (thenRun : Bool) (state : σ) : Session σ :=
  match Converter.ofConfig config around.environment around.transport with
  | .error error => { report := .ofFailure (.ofConfig error), state }
  | .ok converter =>
    let conversion := converter.convert request
    let (report, code) := conversionReport conversion
    let requests := conversion.requests
    match code, thenRun with
    | some code, true =>
      let run := (Dispatcher.ofConfig config).run around.workshop code request.target state
      { report := { report with stdout := report.stdout ++ run.report.text ++ "\n" }
        requests
        state := run.state }
    | _, _ => { report, requests, state }

/-- Run a snippet, and leave the artifact to be written if one is wanted and there is one. -/
def run (around : Surroundings σ) (config : ConverterConfig) (code language : String)
    (artifact : Option String) (state : σ) : Session σ :=
  let run := (Dispatcher.ofConfig config).run around.workshop code language state
  { report := {
      stdout := run.report.text ++ "\n"
      pending := artifact.bind fun path => run.report.artifact.map (path, ·) }
    state := run.state }

def Task.carryOut (task : Task) (around : Surroundings σ) (config : ConverterConfig) (code : String)
    (state : σ) : Session σ :=
  match task with
  | .detect _ explain => { report := CommandLine.detect code explain, state }
  | .validate _ language => { report := CommandLine.validate code language, state }
  | .convert _ source target model temperature thenRun =>
    CommandLine.convert around config { code, source, target, model, temperature } thenRun state
  | .run _ language artifact => CommandLine.run around config code language artifact state
  | .languages => { report := .ofLine (languagesJson config).pretty, state }

def Invocation.carryOut (invocation : Invocation) (around : Surroundings σ) (state : σ) :
    Session σ :=
  match loadConfig around.file invocation.config with
  | .error error => { report := .ofFailure (.ofConfig error), state }
  | .ok config =>
    match invocation.task.input? with
    | none => invocation.task.carryOut around config "" state
    | some input =>
      match around.snippet input with
      | .error failure => { report := .ofFailure failure, state }
      | .ok code => invocation.task.carryOut around config code state

/-- The session that arguments ask for. -/
def Surroundings.session (around : Surroundings σ) (arguments : List String) (state : σ) :
    Session σ :=
  match Invocation.ofArguments arguments with
  | .error refusal => { report := .ofRefusal refusal, state }
  | .ok invocation => invocation.carryOut around state

end

end Polyglot.CommandLine
