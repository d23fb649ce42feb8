import Polyglot.Config.Basic
import Polyglot.Json.Record
import Polyglot.Json.Writer

/-!
# Configurations in JSON

Members that are absent keep their defaults. What is written reads back.
-/

namespace Polyglot

namespace Protocol

/-- The protocol's name in configurations. -/
def kind : Protocol → String
  | openAiCompatible => "open_ai_compatible"
  | anthropic => "anthropic"
  | gemini => "gemini"

def ofKind? : String → Option Protocol
  | "open_ai_compatible" => some openAiCompatible
  | "anthropic" => some anthropic
  | "gemini" => some gemini
  | _ => none

end Protocol

namespace Provider

/-- Read a provider, which is tagged with its protocol. -/
def ofTree (depth : Nat) (tree : JsonTree) : Except JsonFault Provider :=
  match TaggedBody.read "kind" Protocol.ofKind? depth tree with
  | .error fault => .error fault
  | .ok (protocol, body) =>
    match body.field? "base_url" with
    | some (.string baseUrl) => .ok ⟨protocol, baseUrl⟩
    | _ => .error .mismatched

def toJson (provider : Provider) : Json :=
  .object [("kind", .string provider.protocol.kind), ("base_url", .string provider.baseUrl)]

end Provider

namespace ModelSpec

def blank : ModelSpec := ⟨"", ⟨.openAiCompatible, ""⟩, "", ""⟩

/-- The fields of a model that stands `depth` brackets from the limit. -/
def shape (depth : Nat) : RecordShape ModelSpec := [
  .required "name" JsonTree.text fun name spec => { spec with name },
  .required "provider" (Provider.ofTree (depth - 1)) fun provider spec => { spec with provider },
  .required "model_id" JsonTree.text fun modelId spec => { spec with modelId },
  .required "api_key_env" JsonTree.text fun apiKeyVariable spec => { spec with apiKeyVariable }]

def ofTree (depth : Nat) (tree : JsonTree) : Except JsonFault ModelSpec :=
  (shape depth).read blank tree

def toJson (spec : ModelSpec) : Json :=
  .object [("name", .string spec.name), ("provider", spec.provider.toJson),
    ("model_id", .string spec.modelId), ("api_key_env", .string spec.apiKeyVariable)]

end ModelSpec

namespace ConverterConfig

/-- The fields of a configuration that stands `depth` brackets from the limit. -/
def shape (depth : Nat) : RecordShape ConverterConfig := [
  .defaulted "languages" (JsonTree.list JsonTree.text)
    fun languages config => { config with languages },
  .defaulted "models" (JsonTree.list (ModelSpec.ofTree (depth - 2)))
    fun models config => { config with models },
  .defaulted "temperature" JsonTree.single fun temperature config => { config with temperature },
  .defaulted "max_tokens" JsonTree.word32 fun maxTokens config => { config with maxTokens },
  .defaulted "request_timeout_secs" JsonTree.word64
    fun seconds config => { config with requestTimeoutSecs := seconds },
  .defaulted "execution_timeout_secs" JsonTree.word64
    fun seconds config => { config with executionTimeoutSecs := seconds }]

/-- Read a configuration without checking its constraints. -/
def readUnchecked (text : String) : Except JsonFault ConverterConfig :=
  JsonText.readWith ((shape JsonText.maxDepth).read {}) text

/-- Read a configuration and check it. -/
def read (text : String) : Except ConfigError ConverterConfig :=
  match readUnchecked text with
  | .error fault => .error (.invalidJson fault)
  | .ok config => config.validate.map fun () => config

/-- Read a configuration from a file's content, or the error that reading the file gave. -/
def ofFile (path : String) (content : Except SystemError (List UInt8)) :
    Except ConfigError ConverterConfig :=
  match content with
  | .error cause => .error (.unreadable path cause)
  | .ok bytes =>
    match Text.Utf8.decode? bytes with
    | none => .error (.unreadable path .invalidUtf8)
    | some cs => read (String.ofList cs)

def toJson (config : ConverterConfig) : Json :=
  .object [
    ("languages", .ofTexts config.languages),
    ("models", .array (config.models.map ModelSpec.toJson)),
    ("temperature", .ofSingle config.temperature),
    ("max_tokens", .integer config.maxTokens.toNat),
    ("request_timeout_secs", .integer config.requestTimeoutSecs.toNat),
    ("execution_timeout_secs", .integer config.executionTimeoutSecs.toNat)]

/-- The text of a configuration. -/
def write (config : ConverterConfig) : String :=
  config.toJson.pretty

end ConverterConfig

end Polyglot
