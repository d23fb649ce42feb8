import Polyglot.Config.Error
import Polyglot.System.Environment
import Polyglot.Text.Blank

/-!
# Models

Where a model is to be had: the protocol that its provider speaks, the provider's address, the
provider's name for the model, and the environment variable that holds the key.
-/

namespace Polyglot

/-- The protocols that providers speak. -/
inductive Protocol where
  /-- Chat completions. -/
  | openAiCompatible
  /-- Messages. -/
  | anthropic
  /-- Generated content. -/
  | gemini
deriving DecidableEq, Repr

structure Provider where
  protocol : Protocol
  baseUrl : String
deriving DecidableEq, Repr

/-- The same protocol at another address. -/
def Provider.withBaseUrl (provider : Provider) (baseUrl : String) : Provider :=
  { provider with baseUrl }

structure ModelSpec where
  /-- The name by which users select the model. -/
  name : String
  provider : Provider
  /-- The provider's name for the model. -/
  modelId : String
  /-- The environment variable with the key. -/
  apiKeyVariable : String
deriving DecidableEq, Repr

namespace ModelSpec

/-- The model's key, which may be anything but blank. -/
def apiKey (spec : ModelSpec) (environment : Environment) : Except ConfigError String :=
  match environment.text? spec.apiKeyVariable with
  | some key =>
    if Text.allBlank key then .error (.missingApiKey spec.name spec.apiKeyVariable) else .ok key
  | none => .error (.missingApiKey spec.name spec.apiKeyVariable)

/-- The five models on offer without any configuration. -/
def stock : List ModelSpec := [
  ⟨"GPT", ⟨.openAiCompatible, "https://api.openai.com/v1"⟩, "gpt-4o-mini", "OPENAI_API_KEY"⟩,
  ⟨"Claude", ⟨.anthropic, "https://api.anthropic.com/v1"⟩, "claude-3-sonnet-20240307",
    "ANTHROPIC_API_KEY"⟩,
  ⟨"DeepSeek", ⟨.openAiCompatible, "https://api.deepseek.com/v1"⟩, "deepseek-chat",
    "DEEPSEEK_API_KEY"⟩,
  ⟨"Gemini", ⟨.gemini, "https://generativelanguage.googleapis.com/v1beta"⟩, "gemini-1.5-flash",
    "GOOGLE_API_KEY"⟩,
  ⟨"GROQ", ⟨.openAiCompatible, "https://api.groq.com/openai/v1"⟩, "llama3-70b-8192",
    "GROQ_API_KEY"⟩]

end ModelSpec

end Polyglot
