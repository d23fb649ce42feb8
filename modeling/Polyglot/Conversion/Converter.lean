import Polyglot.Config.Basic
import Polyglot.Conversion.PythonScript
import Polyglot.Conversion.Request
import Polyglot.Language.Validation
import Polyglot.Provider.Adapter

/-!
# Conversion

A converter checks a request, asks the model for the code in the other language, and cleans the
answer; an observer, if there is one, is told of each fragment of the answer. Models are selected by
name, up to case and surrounding blanks. A model without a key stays selectable and says what is
missing.
-/

namespace Polyglot

/-! ## Progress -/

/-- How far a conversion is after each fragment of the answer. Nobody knows how many will come, so
the fraction climbs towards one and stops short of it: `1 - 1 / (1 + 0.1 * index)`, every step
rounded, and at most 0.99. -/
def progressFraction (index : Nat) : Single :=
  let one := Single.one
  let rate := Single.ofRat (1 / 10)
  let fraction := one - one / (one + rate * Single.ofRat index)
  fraction.capped (99 / 100)

/-- A fraction as a whole percentage. -/
def percentage (fraction : Single) : Nat :=
  (fraction * Single.ofRat 100).truncated

/-! ## Errors and outcomes -/

inductive ConvertError where
  | unsupportedModel (name : String)
  /-- The model's key is not set. -/
  | modelUnavailable (model keyVariable : String)
  | backend (error : BackendError)
deriving DecidableEq, Repr

namespace ConvertError

def message : ConvertError → String
  | unsupportedModel name => "Unsupported model selected: " ++ name
  | modelUnavailable model keyVariable =>
    "Model " ++ model ++ " is unavailable: set the " ++ keyVariable ++ " environment variable"
  | backend error => error.message

end ConvertError

/-- How a conversion ends that does not fail. -/
inductive ConversionOutcome where
  | converted (code : String)
  /-- The code is not in the source language; the explanation is given. -/
  | rejected (explanation : String)
  /-- Something needed was blank, so nobody was asked. -/
  | skipped
deriving DecidableEq, Repr

/-- What the user sees in place of the converted code. -/
def ConversionOutcome.text : ConversionOutcome → String
  | converted code => code
  | rejected explanation => explanation
  | skipped => ""

/-- A model that can be selected: ready, or waiting for its key. -/
inductive Slot where
  | ready (backend : Backend)
  | missingKey (keyVariable : String)

structure Converter where
  registry : Registry
  options : GenerationOptions
  /-- Slots with their names, under the names in lowercase; no key occurs twice. -/
  slots : List (String × String × Slot) := []

/-- A call of a backend. -/
structure BackendCall where
  backend : String
  prompt : String
  options : GenerationOptions
deriving DecidableEq

/-- Everything that one conversion brought about. -/
structure Conversion where
  result : Except ConvertError ConversionOutcome
  /-- After each fragment, the text so far and the fraction done. -/
  progress : List (String × Single) := []
  calls : List BackendCall := []
  requests : List HttpRequest := []

/-- Somebody who is told, after each fragment, the text so far and the fraction done, and who makes
something new of it and of what there was before. -/
abbrev Observer (σ : Type) := String → Single → σ → σ

/-- What one conversion brought about, and what the observer of its progress has made of it. -/
structure ObservedConversion (σ : Type) where
  result : Except ConvertError ConversionOutcome
  seen : σ
  calls : List BackendCall := []
  requests : List HttpRequest := []

namespace Converter

/-- Put a slot under a name, in place of any that had it. -/
def insert (converter : Converter) (name : String) (slot : Slot) : Converter :=
  let key := Text.lowercase name
  { converter with slots := (key, name, slot) :: converter.slots.filter (·.1 != key) }

/-- Add or replace a backend. -/
def withBackend (converter : Converter) (name : String) (backend : Backend) : Converter :=
  converter.insert name (.ready backend)

/-- The slot of a configured model. -/
def slotOf (spec : ModelSpec) (environment : Environment) (transport : Transport) : Slot :=
  match spec.apiKey environment with
  | .ok key => .ready (spec.backend key transport)
  | .error _ => .missingKey spec.apiKeyVariable

/-- The converter that a configuration describes. -/
def ofConfig (config : ConverterConfig) (environment : Environment) (transport : Transport) :
    Except ConfigError Converter :=
  match config.validate with
  | .error error => .error error
  | .ok () =>
    let start : Converter := {
      registry := .builtin
      options := {
        temperature := config.temperature
        maxTokens := config.maxTokens
        timeout := config.requestTimeout } }
    .ok (config.models.foldl
      (fun converter spec => converter.insert spec.name (slotOf spec environment transport)) start)

/-- The names of all models, in order. -/
def models (converter : Converter) : List String :=
  (converter.slots.map (·.2.1)).mergeSort (· ≤ ·)

/-- The slot that a name selects, with the slot's own name. -/
def select? (converter : Converter) (model : String) : Option (String × Slot) :=
  converter.slots.lookup (Text.lowercase (Text.trim model))

/-- The options for one request. -/
def optionsFor (converter : Converter) (request : ConversionRequest) : GenerationOptions :=
  match request.temperature with
  | some temperature => { converter.options with temperature }
  | none => converter.options

/-- Gather fragments up to the first error, and tell the observer of each. The text so far and the
number of fragments so far are given; the whole text or the error comes out, with what the observer
has by then. -/
def gather {σ : Type} (observer : Option (Observer σ)) (text : String) (index : Nat) (seen : σ) :
    List StreamItem → Except BackendError String × σ
  | [] => (.ok text, seen)
  | .error error :: _ => (.error error, seen)
  | .ok fragment :: items =>
    let text := text ++ fragment
    let seen := match observer with
      | some tell => tell text (progressFraction index) seen
      | none => seen
    gather observer text (index + 1) seen items

/-- The code in an answer, made ready for the target language. -/
def finishCode (registry : Registry) (target answer : String) : String :=
  let code := cleanResponse answer
  if registry.resolve target = some ⟨"Python"⟩ then preparePython code else code

/-- Put a request to a backend, and tell the observer of the progress. -/
def ask {σ : Type} (converter : Converter) (request : ConversionRequest) (backend : Backend)
    (observer : Option (Observer σ)) (seen : σ) : ObservedConversion σ :=
  let prompt := renderPrompt request.source request.target request.code
  let options := converter.optionsFor request
  let answer := backend.answer prompt options
  let (gathered, seen) := gather observer "" 0 seen answer.items
  { result := match gathered with
      | .error error => .error (.backend error)
      | .ok text => .ok (.converted (finishCode converter.registry request.target text))
    seen
    calls := [⟨backend.name, prompt, options⟩]
    requests := answer.requests }

/-- Convert, and tell the observer, if there is one, of the progress. -/
def convertObserved {σ : Type} (converter : Converter) (request : ConversionRequest)
    (observer : Option (Observer σ)) (seen : σ) : ObservedConversion σ :=
  if !request.isComplete then { result := .ok .skipped, seen }
  else match converter.registry.validate request.code request.source with
    | .mismatch detected expected =>
      { result := .ok (.rejected (Validation.mismatch detected expected).explanation), seen }
    | .valid =>
      match converter.select? request.model with
      | none => { result := .error (.unsupportedModel request.model), seen }
      | some (name, .missingKey keyVariable) =>
        { result := .error (.modelUnavailable name keyVariable), seen }
      | some (_, .ready backend) => converter.ask request backend observer seen

/-- Keep everything that is told. -/
def record : Observer (List (String × Single)) :=
  fun text fraction progress => progress ++ [(text, fraction)]

/-- Convert, and keep the progress. -/
def convert (converter : Converter) (request : ConversionRequest) : Conversion :=
  let observed := converter.convertObserved request (some record) []
  { result := observed.result
    progress := observed.seen
    calls := observed.calls
    requests := observed.requests }

/-- The outcome of a conversion as one text, errors included. -/
def convertText (converter : Converter) (request : ConversionRequest) : String :=
  match (converter.convertObserved request none ()).result with
  | .ok outcome => outcome.text
  | .error (.unsupportedModel _) => "Unsupported model selected"
  | .error error => "Error during conversion: " ++ error.message

/-- The converter, written out for inspection. -/
def describe (converter : Converter) : String :=
  let options := converter.options
  "Converter \x7b models: [" ++ ", ".intercalate (converter.models.map Text.quoted) ++
    "], options: GenerationOptions \x7b temperature: " ++
    DecimalStyle.inspect.write options.temperature ++ ", max_tokens: " ++
    toString options.maxTokens.toNat ++ ", timeout: " ++ options.timeout.text ++ " \x7d \x7d"

end Converter

end Polyglot
