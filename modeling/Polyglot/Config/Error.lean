import Polyglot.Json.Basic
import Polyglot.Number.Decimal
import Polyglot.System.Error

/-!
# Configuration errors
-/

namespace Polyglot

inductive ConfigError where
  /-- The file could not be read. -/
  | unreadable (path : String) (cause : SystemError)
  /-- The file holds no configuration in JSON. -/
  | invalidJson (fault : JsonFault)
  | temperatureOutOfRange (value low high : Single)
  | zeroMaxTokens
  /-- One of the timeouts is zero; the field is named. -/
  | zeroTimeout (field : String)
  | noLanguages
  | noModels
  /-- Two models share a name up to case. -/
  | duplicateModel (name : String)
  /-- The variable with a model's key is unset or blank. -/
  | missingApiKey (model keyVariable : String)
deriving DecidableEq

namespace ConfigError

def message : ConfigError → String
  | unreadable path cause => "Failed to read config file " ++ path ++ ": " ++ cause.message
  | invalidJson _ => "Invalid config JSON"
  | temperatureOutOfRange value low high =>
    "Temperature " ++ DecimalStyle.plain.write value ++ " is outside the accepted range " ++
      DecimalStyle.plain.write low ++ "..=" ++ DecimalStyle.plain.write high
  | zeroMaxTokens => "max_tokens must be greater than zero"
  | zeroTimeout field => field ++ " must be greater than zero"
  | noLanguages => "At least one conversion language is required"
  | noModels => "At least one model is required"
  | duplicateModel name => "Duplicate model name '" ++ name ++ "'"
  | missingApiKey model keyVariable =>
    "API key for " ++ model ++ " not found; set the " ++ keyVariable ++ " environment variable"

end ConfigError

end Polyglot
