import Polyglot.Config.Builder
import Polyglot.Config.Json
import Polyglot.Proofs.Json.Decimal
import Polyglot.Proofs.Json.Record

/-!
# Configurations are read back

What is written for a configuration is read as this configuration. The readers of providers, models
and configurations undo their writers one after the other, each from what the readers of its members
give: `Provider.ofTree_ofJson`, `ModelSpec.ofTree_ofJson` and
`ConverterConfig.readUnchecked_write`. Texts are read back whatever characters they hold, numbers of
tokens and seconds up to the last one of their width; of the temperature it is assumed. A
configuration that was built or read has passed the checks, and passes them again
(`ConverterConfig.read_write`).
-/

namespace Polyglot

/-- A protocol is known by the name that is written for it. -/
theorem Protocol.ofKind?_kind (protocol : Protocol) : ofKind? protocol.kind = some protocol := by
  cases protocol <;> rfl

theorem Provider.ofTree_ofJson (depth : Nat) (provider : Provider) :
    ofTree depth (.ofJson provider.toJson) = .ok provider := by
  have tagged : TaggedBody.read "kind" Protocol.ofKind? depth (.ofJson provider.toJson) =
      .ok (provider.protocol, .object [("base_url", .string provider.baseUrl)]) :=
    TaggedBody.read_pair depth provider.baseUrl (Protocol.ofKind?_kind provider.protocol)
      (by decide)
  simp only [ofTree, tagged]
  rfl

theorem ModelSpec.ofTree_ofJson (depth : Nat) (spec : ModelSpec) :
    ofTree depth (.ofJson spec.toJson) = .ok spec := by
  have distinct : ["name", "provider", "model_id", "api_key_env"].Nodup := by decide
  refine RecordShape.read_of_stores distinct ?_
  refine .cons (RecordField.store_required _ _ (JsonTree.text_string spec.name)) ?_
  refine .cons (RecordField.store_required _ _ (Provider.ofTree_ofJson _ spec.provider)) ?_
  refine .cons (RecordField.store_required _ _ (JsonTree.text_string spec.modelId)) ?_
  refine .cons (RecordField.store_required _ _ (JsonTree.text_string spec.apiKeyVariable)) ?_
  exact .nil spec

namespace JsonTree

theorem word32_ofJson (word : UInt32) : (ofJson (.integer word.toNat)).word32 = .ok word := by
  rw [word32, natural_ofJson word.toNat_lt (by decide), Except.map, UInt32.ofNat_toNat]

theorem word64_ofJson (word : UInt64) : (ofJson (.integer word.toNat)).word64 = .ok word := by
  rw [word64, natural_ofJson word.toNat_lt (by decide), Except.map, UInt64.ofNat_toNat]

end JsonTree

namespace ConverterConfig

variable {config : ConverterConfig}

theorem toJson_spelled (config : ConverterConfig) : config.toJson.Spelled := by
  have languages : (Json.ofTexts config.languages).Spelled := by
    rw [Json.ofTexts, Json.Spelled, Json.itemsSpelled_iff, List.forall_mem_map]
    intro language _
    simp only [Json.Spelled]
  have models : (Json.array (config.models.map ModelSpec.toJson)).Spelled := by
    rw [Json.Spelled, Json.itemsSpelled_iff, List.forall_mem_map]
    intro spec _
    simp [ModelSpec.toJson, Provider.toJson, Json.Spelled, Json.MembersSpelled]
  have natural (n : Nat) : (Json.integer n).Spelled := by
    rw [Json.Spelled]
    exact NumberToken.isNumeral_natural n
  simp only [toJson, Json.Spelled, Json.MembersSpelled]
  exact ⟨languages, models, Single.spelled_ofSingle _, natural _, natural _, natural _, trivial⟩

/-- Whether or not it meets the constraints, a configuration is read back. -/
theorem readUnchecked_write (temperature : config.temperature.ReadsBack) :
    readUnchecked config.write = .ok config := by
  rw [readUnchecked, write, JsonText.readWith_pretty _ (toJson_spelled config)]
  have languages : (JsonTree.ofJson (.ofTexts config.languages)).list JsonTree.text =
      .ok config.languages :=
    JsonTree.list_map _ fun language _ => JsonTree.text_string language
  have models (depth : Nat) :
      (JsonTree.ofJson (.array (config.models.map ModelSpec.toJson))).list
        (ModelSpec.ofTree depth) = .ok config.models :=
    JsonTree.list_map _ fun spec _ => ModelSpec.ofTree_ofJson depth spec
  -- each member replaces the default of its field
  refine RecordShape.read_of_stores (by decide) ?_
  refine .cons (RecordField.store_defaulted _ _ languages) ?_
  refine .cons (RecordField.store_defaulted _ _ (models _)) ?_
  refine .cons (RecordField.store_defaulted _ _ temperature.single_ofJson) ?_
  refine .cons (RecordField.store_defaulted _ _ (JsonTree.word32_ofJson _)) ?_
  refine .cons (RecordField.store_defaulted _ _ (JsonTree.word64_ofJson _)) ?_
  refine .cons (RecordField.store_defaulted _ _ (JsonTree.word64_ofJson _)) ?_
  exact .nil config

/-- How one comes by a configuration: it is built, setting by setting, or read. -/
inductive Obtained : ConverterConfig → Prop
  | built {settings : List Setting} {config : ConverterConfig}
      (built : (ofSettings settings).build = .ok config) : Obtained config
  | read {text : String} {config : ConverterConfig} (read : read text = .ok config) :
      Obtained config

/-- The checks come last, and what passes them is left as it was. -/
theorem Obtained.validate (obtained : Obtained config) : config.validate = .ok () := by
  have checked {candidate : ConverterConfig}
      (accepted : (candidate.validate.map fun () => candidate) = .ok config) :
      config.validate = .ok () := by
    cases check : candidate.validate with
    | error error =>
      rw [check] at accepted
      cases accepted
    | ok _ =>
      rw [check] at accepted
      cases accepted
      exact check
  cases obtained with
  | built built => exact checked built
  | read read =>
    rw [ConverterConfig.read] at read
    split at read
    · cases read
    · exact checked read

/-- **Round trip.** Whoever obtains a configuration has one that passes the checks, and what is
written for it is read as the same configuration. -/
theorem read_write (obtained : Obtained config) :
    config.validate = .ok () ∧
      (config.temperature.ReadsBack → read config.write = .ok config) := by
  refine ⟨obtained.validate, fun temperature => ?_⟩
  rw [read, readUnchecked_write temperature]
  simp only [obtained.validate]
  rfl

/-- A configuration with every protocol, with characters that have to be escaped and with the
largest numbers. -/
def widest : ConverterConfig where
  languages := ["C++", "Ελληνικά 😀"]
  models := [
    ⟨"GPT \"quoted\"", ⟨.openAiCompatible, "http://localhost/v1\\"⟩, "line\nbreak", "A_KEY"⟩,
    ⟨"\x00\x1f", ⟨.anthropic, ""⟩, "", ""⟩,
    ⟨"日本", ⟨.gemini, "\t"⟩, "\x7f", "Ä"⟩]
  temperature := .ofRat (7 / 10)
  maxTokens := 0xffffffff
  requestTimeoutSecs := 0xffffffffffffffff
  executionTimeoutSecs := 0xffffffffffffffff

theorem read_write_widest :
    Obtained widest ∧ widest.temperature.ReadsBack ∧ read widest.write = .ok widest := by
  have built : (ofSettings [.languages widest.languages, .models widest.models,
      .temperature widest.temperature, .maxTokens widest.maxTokens,
      .requestTimeoutSecs widest.requestTimeoutSecs,
      .executionTimeoutSecs widest.executionTimeoutSecs]).build = .ok widest := by
    decide +kernel
  have temperature : widest.temperature.ReadsBack := by decide +kernel
  exact ⟨.built built, temperature, (read_write (.built built)).2 temperature⟩

end ConverterConfig

end Polyglot
