import Polyglot.Config.Model
import Polyglot.Duration
import Polyglot.Text.Lowercase

/-!
# The configuration

What conversions and runs go by, its defaults, and the constraints that a usable configuration
meets.
-/

namespace Polyglot

structure ConverterConfig where
  /-- Languages offered for conversion. -/
  languages : List String := ["Python", "Julia", "JavaScript", "Go", "Java", "C++"]
  models : List ModelSpec := ModelSpec.stock
  temperature : Single := .ofRat (7 / 10)
  maxTokens : UInt32 := 4000
  /-- The limit for one request to a provider. -/
  requestTimeoutSecs : UInt64 := 120
  /-- The limit for building and running one snippet. -/
  executionTimeoutSecs : UInt64 := 30
deriving DecidableEq

namespace ConverterConfig

/-- Temperatures are accepted from this one on. -/
def lowestTemperature : Rat := 0

/-- Temperatures are accepted up to this one. -/
def highestTemperature : Rat := 2

/-- The first model whose name occurred before, up to case; `seen` are names in lowercase. -/
def firstDuplicate? (seen : List String) : List ModelSpec → Option ModelSpec
  | [] => none
  | model :: models =>
    let key := Text.lowercase model.name
    if seen.contains key then some model else firstDuplicate? (key :: seen) models

/-- Check every constraint; the first that is violated is reported. -/
def validate (config : ConverterConfig) : Except ConfigError Unit :=
  if !config.temperature.within lowestTemperature highestTemperature then
    .error (.temperatureOutOfRange config.temperature (.ofRat lowestTemperature)
      (.ofRat highestTemperature))
  else if config.maxTokens = 0 then .error .zeroMaxTokens
  else if config.requestTimeoutSecs = 0 then .error (.zeroTimeout "request_timeout_secs")
  else if config.executionTimeoutSecs = 0 then .error (.zeroTimeout "execution_timeout_secs")
  else if config.languages.isEmpty then .error .noLanguages
  else if config.models.isEmpty then .error .noModels
  else match firstDuplicate? [] config.models with
    | some model => .error (.duplicateModel model.name)
    | none => .ok ()

/-- The first model of a name, up to ASCII case and surrounding blanks. -/
def model? (config : ConverterConfig) (name : String) : Option ModelSpec :=
  config.models.find? (Text.equalIgnoringAsciiCase ·.name (Text.trim name))

def requestTimeout (config : ConverterConfig) : Duration :=
  .ofSeconds config.requestTimeoutSecs.toNat

def executionTimeout (config : ConverterConfig) : Duration :=
  .ofSeconds config.executionTimeoutSecs.toNat

end ConverterConfig

end Polyglot
