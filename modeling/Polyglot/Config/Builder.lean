import Polyglot.Config.Basic

/-!
# Building a configuration

One setting at a time, from the defaults on. The result is checked when it is built.
-/

namespace Polyglot

namespace ConverterConfig

/-- Add a model in place of any of the same name, up to ASCII case. -/
def addModel (config : ConverterConfig) (model : ModelSpec) : ConverterConfig :=
  { config with
    models := config.models.filter (fun m => !Text.equalIgnoringAsciiCase m.name model.name) ++
      [model] }

/-- One step of building. -/
inductive Setting where
  | languages (languages : List String)
  /-- Replace all models. -/
  | models (models : List ModelSpec)
  /-- Add or replace one model. -/
  | model (model : ModelSpec)
  | temperature (temperature : Single)
  | maxTokens (maxTokens : UInt32)
  | requestTimeoutSecs (seconds : UInt64)
  | executionTimeoutSecs (seconds : UInt64)

/-- Make one setting. -/
def set (config : ConverterConfig) : Setting → ConverterConfig
  | .languages languages => { config with languages }
  | .models models => { config with models }
  | .model model => config.addModel model
  | .temperature temperature => { config with temperature }
  | .maxTokens maxTokens => { config with maxTokens }
  | .requestTimeoutSecs seconds => { config with requestTimeoutSecs := seconds }
  | .executionTimeoutSecs seconds => { config with executionTimeoutSecs := seconds }

/-- The defaults with some settings made in order. -/
def ofSettings (settings : List Setting) : ConverterConfig :=
  settings.foldl set {}

/-- The configuration, if it meets the constraints. -/
def build (config : ConverterConfig) : Except ConfigError ConverterConfig :=
  config.validate.map fun () => config

end ConverterConfig

end Polyglot
