import Polyglot.Proofs.Config.Validation
import Polyglot.Proofs.Conversion.Listing

/-!
# The models of a configuration

Nothing is lost between a configuration and the converter that it describes. Validation keeps two
models from sharing a key, and the table of slots tells models apart by just these keys, so every
model keeps its slot, in which its own backend stands or the name of the variable that has no key
for it (`slotOf_of_hasKey`, `slotOf_of_keyless`). **`ofConfig_complete`** puts this together, for
every configuration that is accepted and every environment.
-/

namespace Polyglot

/-! ## Keys -/

/-- A variable has a text for its value if that has the bytes of the text. -/
theorem Environment.text?_eq_some_iff {environment : Environment} {name text : String} :
    environment.text? name = some text ↔
      environment.lookup name = some (Text.Utf8.encode text.toList) := by
  rw [text?, Option.bind_eq_some_iff]
  simp only [Option.map_eq_some_iff, Text.Utf8.decode?_eq_some_iff]
  constructor
  · rintro ⟨bytes, held, cs, rfl, rfl⟩
    rw [held, String.toList_ofList]
  · intro held
    exact ⟨_, held, text.toList, rfl, String.ofList_toList⟩

namespace ModelSpec

variable {spec : ModelSpec} {environment : Environment} {key : String}

/-- The model's variable is set to the key, which is not blank. -/
structure HasKey (spec : ModelSpec) (environment : Environment) (key : String) : Prop where
  held : environment.lookup spec.apiKeyVariable = some (Text.Utf8.encode key.toList)
  written : Text.trim key ≠ ""

theorem apiKey_eq_ok_iff : spec.apiKey environment = .ok key ↔ spec.HasKey environment key := by
  unfold apiKey
  constructor
  · intro found
    split at found
    · next value held =>
      split at found
      · cases found
      · next written =>
        cases found
        rw [Text.allBlank_iff] at written
        exact ⟨Environment.text?_eq_some_iff.mp held, written⟩
    · cases found
  · intro ⟨held, written⟩
    have filled : ¬ Text.allBlank key = true := fun blank => written (Text.allBlank_iff.mp blank)
    rw [Environment.text?_eq_some_iff.mpr held]
    exact if_neg filled

end ModelSpec

namespace Converter

variable {config : ConverterConfig} {spec : ModelSpec} {environment : Environment} {key : String}

/-! ## Slots -/

theorem slotOf_of_hasKey (has : spec.HasKey environment key) (transport : Transport) :
    slotOf spec environment transport = .ready (spec.backend key transport) := by
  rw [slotOf, ModelSpec.apiKey_eq_ok_iff.mpr has]

theorem slotOf_of_keyless (keyless : ∀ key, ¬ spec.HasKey environment key)
    (transport : Transport) :
    slotOf spec environment transport = .missingKey spec.apiKeyVariable := by
  unfold slotOf
  split
  · next key found => exact absurd (ModelSpec.apiKey_eq_ok_iff.mp found) (keyless key)
  · rfl

/-- The keys of what is registered are those of the models. -/
theorem keys_configuredEntries (config : ConverterConfig) (environment : Environment)
    (transport : Transport) :
    (configuredEntries config environment transport).map (Text.lowercase ·.1) =
      config.models.map ModelSpec.key := by
  rw [configuredEntries, List.map_map]
  rfl

/-- Every model is found under its key. -/
theorem latest?_of_mem (valid : config.Valid) (environment : Environment) (transport : Transport)
    (listed : spec ∈ config.models) :
    latest? spec.key (configuredEntries config environment transport) =
      some (spec.name, slotOf spec environment transport) := by
  have distinct := valid.distinct
  rw [← keys_configuredEntries config environment transport] at distinct
  exact (latest?_eq_some_iff_mem distinct).mpr ⟨List.mem_map_of_mem listed, rfl⟩

/-- Nothing else is found. -/
theorem latest?_of_unlisted (environment : Environment) (transport : Transport)
    (unlisted : ∀ spec ∈ config.models, spec.key ≠ key) :
    latest? key (configuredEntries config environment transport) = none := by
  rw [latest?_eq_none_iff, configuredEntries, List.forall_mem_map]
  exact unlisted

/-- The names that are listed are those of the models, each once. -/
theorem models_perm (valid : config.Valid) {transport : Transport} {converter : Converter}
    (built : Built converter (configuredEntries config environment transport)) :
    converter.models.Perm (config.models.map (·.name)) := by
  have names : (config.models.map (·.name)).Nodup := by
    refine .of_map Text.lowercase ?_
    rw [List.map_map]
    exact valid.distinct
  refine (List.perm_ext_iff_of_nodup (nodup_models built) names).mpr fun name => ?_
  rw [mem_models_iff built, List.mem_map]
  constructor
  · rintro ⟨slot, latest⟩
    obtain ⟨spec, listed, same⟩ := List.mem_map.mp (mem_of_latest? latest).1
    exact ⟨spec, listed, congrArg Prod.fst same⟩
  · rintro ⟨spec, listed, rfl⟩
    exact ⟨_, latest?_of_mem valid environment transport listed⟩

/-! ## Selectors -/

/-- One model at most has a given key. -/
theorem filter_key (valid : config.Valid) (listed : spec ∈ config.models) :
    config.models.filter (·.key = spec.key) = [spec] := by
  have distinct : (config.models.filter (·.key = spec.key)).Nodup :=
    (valid.distinct.of_map ModelSpec.key).filter _
  refine List.perm_singleton.mp
    ((List.perm_ext_iff_of_nodup distinct (List.nodup_singleton spec)).mpr fun other => ?_)
  rw [List.mem_filter, decide_eq_true_eq, List.mem_singleton]
  constructor
  · rintro ⟨mem, same⟩
    exact List.inj_on_of_nodup_map valid.distinct mem listed same
  · rintro rfl
    exact ⟨listed, rfl⟩

/-- **Nothing is lost.** Whatever the environment, an accepted configuration describes a converter
that lists the names of its models, each once and in the order of bytes. A selector reaches the
model whose name it is, up to case and the blanks around the selector: there is one such model at
most, it is put to its own provider under its own key if it has one, and otherwise its own variable
is named. -/
theorem ofConfig_complete (accepted : config.validate = .ok ()) (environment : Environment)
    (transport : Transport) :
    ∃ converter, ofConfig config environment transport = .ok converter ∧
      (converter.models.Pairwise fun a b =>
        Text.Utf8.encode a.toList < Text.Utf8.encode b.toList) ∧
      converter.models.Perm (config.models.map (·.name)) ∧
      (∀ selector : String, ∀ spec ∈ config.models,
        spec.key = Text.lowercase (Text.trim selector) →
          config.models.filter (·.key = Text.lowercase (Text.trim selector)) = [spec] ∧
          (∀ key, spec.HasKey environment key →
            converter.chosen selector = .ok
              { name := spec.modelId
                answer := spec.provider.ask spec.modelId key transport }) ∧
          ((∀ key, ¬ spec.HasKey environment key) →
            converter.chosen selector =
              .error (.modelUnavailable spec.name spec.apiKeyVariable))) ∧
      (∀ selector : String,
        (∀ spec ∈ config.models, spec.key ≠ Text.lowercase (Text.trim selector)) →
          converter.chosen selector = .error (.unsupportedModel selector)) ∧
      ∀ (σ : Type) (request : ConversionRequest) (observer : Option (Observer σ)) (seen : σ),
        request.Complete → converter.registry.validate request.code request.source = .valid →
          converter.convertObserved request observer seen =
            match converter.chosen request.model with
            | .ok backend => converter.ask request backend observer seen
            | .error error => { result := .error error, seen } := by
  obtain ⟨converter, configured, -⟩ := ofConfig_of_valid accepted environment transport
  have built := Built.configured configured
  have valid := ConverterConfig.validate_eq_ok_iff.mp accepted
  refine ⟨converter, configured, pairwise_models built, models_perm valid built, ?_, ?_, ?_⟩
  · intro selector spec listed same
    -- the selector has the model's key, under which the model's own slot stands
    have selected := select?_of_built built selector
    rw [← same, latest?_of_mem valid environment transport listed] at selected
    refine ⟨by rw [← same, filter_key valid listed], fun key has => ?_, fun keyless => ?_⟩
    · rw [chosen, selected, slotOf_of_hasKey has]
      rfl
    · rw [chosen, selected, slotOf_of_keyless keyless]
      rfl
  · intro selector unlisted
    have selected := select?_of_built built selector
    rw [latest?_of_unlisted environment transport unlisted] at selected
    rw [chosen, selected]
  · intro σ request observer seen complete valid
    rw [convertObserved_of_valid complete valid]
    cases converter.chosen request.model <;> rfl

/-- Two models, of which the second has a blank key in the environment below. -/
def keyedAndBlank : ConverterConfig where
  models := [
    ⟨"Ärger", ⟨.anthropic, "http://a"⟩, "a-1", "A_KEY"⟩,
    ⟨"GPT", ⟨.gemini, "http://b"⟩, "b-1", "B_KEY"⟩]

theorem ofConfig_complete_keyed_and_blank :
    let environment : Environment :=
      [("A_KEY", Text.Utf8.encode "k-1".toList), ("B_KEY", [0x20, 0x0A])]
    ∃ converter, ofConfig keyedAndBlank environment .refusing = .ok converter ∧
      converter.models.Perm ["Ärger", "GPT"] ∧
      converter.chosen " ÄRGER\n" =
        .ok ⟨"a-1", (⟨.anthropic, "http://a"⟩ : Provider).ask "a-1" "k-1" .refusing⟩ ∧
      converter.chosen "gpt" = .error (.modelUnavailable "GPT" "B_KEY") ∧
      converter.chosen "Claude" = .error (.unsupportedModel "Claude") := by
  intro environment
  have accepted : keyedAndBlank.validate = .ok () := by decide +kernel
  obtain ⟨converter, configured, -, names, known, unknown, -⟩ :=
    ofConfig_complete accepted environment .refusing
  refine ⟨converter, configured, names, ?_, ?_, ?_⟩
  · obtain ⟨-, ready, -⟩ := known " ÄRGER\n" ⟨"Ärger", ⟨.anthropic, "http://a"⟩, "a-1", "A_KEY"⟩
      List.mem_cons_self (by decide +kernel)
    exact ready "k-1" ⟨rfl, by decide +kernel⟩
  · obtain ⟨-, -, keyless⟩ := known "gpt" ⟨"GPT", ⟨.gemini, "http://b"⟩, "b-1", "B_KEY"⟩
      (List.mem_cons_of_mem _ List.mem_cons_self) (by decide +kernel)
    refine keyless fun key has => ?_
    have blank : ModelSpec.apiKey ⟨"GPT", ⟨.gemini, "http://b"⟩, "b-1", "B_KEY"⟩ environment =
        .error (.missingApiKey "GPT" "B_KEY") := by decide +kernel
    rw [← ModelSpec.apiKey_eq_ok_iff, blank] at has
    cases has
  · exact unknown "Claude" (by decide +kernel)

end Converter

end Polyglot
