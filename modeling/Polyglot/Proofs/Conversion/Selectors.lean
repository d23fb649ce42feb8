import Polyglot.Proofs.Conversion.Catalogue

/-!
# Two ways to find a model

A configuration finds a model by comparing its name with a selector up to the case of ASCII letters
(`ConverterConfig.model?_eq_some_iff`); the converter that it describes compares the lowercase forms
(`Converter.select?_eq_some_iff`), and these are equal for more texts. What the configuration finds
is what the converter uses. The other way round this holds of those selectors from which no model's
name differs in the case of other letters only: **`lookups_agree_but_beyond_ascii`**.
-/

namespace Polyglot

variable {config : ConverterConfig} {spec : ModelSpec} {selector name : String} {slot : Slot}
  {environment : Environment} {transport : Transport} {converter : Converter}

namespace ConverterConfig

/-- What the configuration finds is a model of its own whose name is the selector up to ASCII
case. -/
theorem mem_of_model? (found : config.model? selector = some spec) :
    spec ∈ config.models ∧
      Text.equalIgnoringAsciiCase spec.name (Text.trim selector) = true := by
  unfold model? at found
  have same := List.find?_some found
  exact ⟨List.mem_of_find?_eq_some found, same⟩

/-- There is no choice between two such models, for their lowercase forms would be the same. -/
theorem model?_eq_some_iff (valid : config.Valid) :
    config.model? selector = some spec ↔
      spec ∈ config.models ∧
        Text.equalIgnoringAsciiCase spec.name (Text.trim selector) = true := by
  refine ⟨mem_of_model?, ?_⟩
  rintro ⟨listed, same⟩
  cases found : config.model? selector with
  | none => exact absurd same (List.find?_eq_none.mp found spec listed)
  | some other =>
    obtain ⟨listed', same'⟩ := mem_of_model? found
    have keys : other.key = spec.key :=
      (Text.lowercase_eq_of_equalIgnoringAsciiCase same').trans
        (Text.lowercase_eq_of_equalIgnoringAsciiCase same).symm
    rw [List.inj_on_of_nodup_map valid.distinct listed' listed keys]

/-- A model whose name differs from the selector in the case of other letters keeps the
configuration from finding any. -/
theorem model?_eq_none_of_other_case (valid : config.Valid) (listed : spec ∈ config.models)
    (key : spec.key = Text.lowercase (Text.trim selector))
    (other : ¬ Text.equalIgnoringAsciiCase spec.name (Text.trim selector) = true) :
    config.model? selector = none := by
  cases found : config.model? selector with
  | none => rfl
  | some another =>
    obtain ⟨listed', same⟩ := mem_of_model? found
    have keys : another.key = spec.key :=
      (Text.lowercase_eq_of_equalIgnoringAsciiCase same).trans key.symm
    rw [List.inj_on_of_nodup_map valid.distinct listed' listed keys] at same
    exact absurd same other

end ConverterConfig

namespace Converter

/-- The converter finds the models whose name has the lowercase form of the selector. -/
theorem select?_eq_some_iff (valid : config.Valid)
    (configured : ofConfig config environment transport = .ok converter) :
    converter.select? selector = some (name, slot) ↔
      ∃ spec ∈ config.models, spec.key = Text.lowercase (Text.trim selector) ∧
        (spec.name, slotOf spec environment transport) = (name, slot) := by
  rw [select?_of_built (.configured configured)]
  constructor
  · intro latest
    obtain ⟨registered, same⟩ := mem_of_latest? latest
    obtain ⟨spec, listed, entry⟩ := List.mem_map.mp registered
    obtain rfl : spec.name = name := congrArg Prod.fst entry
    exact ⟨spec, listed, same, entry⟩
  · rintro ⟨spec, listed, key, entry⟩
    rw [← key, latest?_of_mem valid environment transport listed, entry]

/-- A selector is supported if it selects anything. -/
theorem chosen_ne_unsupported_iff :
    converter.chosen selector ≠ .error (.unsupportedModel selector) ↔
      ∃ name slot, converter.select? selector = some (name, slot) := by
  rw [chosen]
  cases converter.select? selector with
  | none => simp
  | some found =>
    obtain ⟨name, slot⟩ := found
    refine ⟨fun _ => ⟨name, slot, rfl⟩, fun _ unsupported => ?_⟩
    -- a slot has a backend or is missing its key, and neither is that the selector is unsupported
    cases slot with
    | ready backend => cases unsupported
    | missingKey keyVariable => cases unsupported

/-- The configuration finds a model if the converter supports the selector and only then, and it is
the model that the converter uses. -/
structure LookupsAgree (config : ConverterConfig) (environment : Environment)
    (transport : Transport) (converter : Converter) (selector : String) : Prop where
  found : (∃ spec, config.model? selector = some spec) ↔
    converter.chosen selector ≠ .error (.unsupportedModel selector)
  same : ∀ spec, config.model? selector = some spec →
    converter.select? selector = some (spec.name, slotOf spec environment transport)

/-- What the configuration finds is what the converter uses. -/
theorem select?_of_model? (valid : config.Valid)
    (configured : ofConfig config environment transport = .ok converter)
    (found : config.model? selector = some spec) :
    converter.select? selector = some (spec.name, slotOf spec environment transport) := by
  obtain ⟨listed, same⟩ := ConverterConfig.mem_of_model? found
  refine (select?_eq_some_iff valid configured).mpr ⟨spec, listed, ?_, rfl⟩
  exact Text.lowercase_eq_of_equalIgnoringAsciiCase same

/-- The two agree on a selector if no model's name differs from it in the case of other letters
only. -/
theorem lookupsAgree_iff (valid : config.Valid)
    (configured : ofConfig config environment transport = .ok converter) :
    LookupsAgree config environment transport converter selector ↔
      ∀ spec ∈ config.models, spec.key = Text.lowercase (Text.trim selector) →
        Text.equalIgnoringAsciiCase spec.name (Text.trim selector) = true := by
  constructor
  · intro agree spec listed key
    -- a model whose key the selector has is found by key, and by name only if the cases agree
    by_contra other
    have selected := (select?_eq_some_iff valid configured).mpr ⟨spec, listed, key, rfl⟩
    obtain ⟨spec', found⟩ := agree.found.mpr (chosen_ne_unsupported_iff.mpr ⟨_, _, selected⟩)
    rw [ConverterConfig.model?_eq_none_of_other_case valid listed key other] at found
    cases found
  · intro alike
    constructor
    · rw [chosen_ne_unsupported_iff]
      constructor
      · rintro ⟨spec, found⟩
        exact ⟨_, _, select?_of_model? valid configured found⟩
      · rintro ⟨name, slot, selected⟩
        obtain ⟨spec, listed, key, -⟩ := (select?_eq_some_iff valid configured).mp selected
        exact ⟨spec, (ConverterConfig.model?_eq_some_iff valid).mpr
          ⟨listed, alike spec listed key⟩⟩
    · exact fun spec => select?_of_model? valid configured

/-- The configuration and its converter agree on which model a selector means, but for selectors
from which a model's name differs in the case of letters beyond ASCII: these the converter supports
and the configuration does not find. Where the selector and the names are ASCII, they always
agree. -/
theorem lookups_agree_but_beyond_ascii (accepted : config.validate = .ok ())
    (environment : Environment) (transport : Transport) :
    ∃ converter, ofConfig config environment transport = .ok converter ∧
      (∀ selector : String, Text.IsAscii selector →
        (∀ spec ∈ config.models, Text.IsAscii spec.name) →
        LookupsAgree config environment transport converter selector) ∧
      (∀ selector : String, LookupsAgree config environment transport converter selector ↔
        ∀ spec ∈ config.models, spec.key = Text.lowercase (Text.trim selector) →
          Text.equalIgnoringAsciiCase spec.name (Text.trim selector) = true) ∧
      (∀ selector : String, ¬ LookupsAgree config environment transport converter selector →
        config.model? selector = none ∧ ∃ spec ∈ config.models,
          converter.select? selector = some (spec.name, slotOf spec environment transport)) ∧
      ∀ (σ : Type) (request : ConversionRequest) (observer : Option (Observer σ)) (seen : σ),
        request.Complete → converter.registry.validate request.code request.source = .valid →
          converter.convertObserved request observer seen =
            converter.proceed request observer seen (converter.chosen request.model) := by
  obtain ⟨converter, configured, -⟩ := ofConfig_of_valid accepted environment transport
  have valid := ConverterConfig.validate_eq_ok_iff.mp accepted
  refine ⟨converter, configured, ?_, fun selector => lookupsAgree_iff valid configured, ?_,
    fun σ request observer seen complete valid => convertObserved_of_valid complete valid _ _⟩
  · intro selector ascii asciiNames
    refine (lookupsAgree_iff valid configured).mpr fun spec listed key => ?_
    exact (Text.equalIgnoringAsciiCase_iff_of_ascii (asciiNames spec listed)
      (Text.isAscii_trim ascii)).mpr key
  · intro selector disagree
    rw [lookupsAgree_iff valid configured] at disagree
    push Not at disagree
    obtain ⟨spec, listed, key, other⟩ := disagree
    exact ⟨ConverterConfig.model?_eq_none_of_other_case valid listed key other, spec, listed,
      (select?_eq_some_iff valid configured).mpr ⟨spec, listed, key, rfl⟩⟩

/-- A configuration of one model, whose name begins with a letter beyond ASCII. -/
def umlautConfig : ConverterConfig where
  models := [⟨"Ärger", ⟨.gemini, "http://x"⟩, "m", "X_API_KEY"⟩]

/-- The case of the other letters makes no difference to either. -/
theorem lookups_agree_umlaut :
    umlautConfig.validate = .ok () ∧
    ∃ converter, ofConfig umlautConfig [] .refusing = .ok converter ∧
      LookupsAgree umlautConfig [] .refusing converter " ÄRGER\n" ∧
      ¬ LookupsAgree umlautConfig [] .refusing converter "ärger" := by
  have accepted : umlautConfig.validate = .ok () := by decide +kernel
  obtain ⟨converter, configured, -, agree, -, -⟩ :=
    lookups_agree_but_beyond_ascii accepted [] .refusing
  refine ⟨accepted, converter, configured, (agree _).mpr ?_, ?_⟩
  · decide +kernel
  · rw [agree]
    decide +kernel

/-- The case of that letter does: the converter knows the model and the configuration does not. -/
theorem umlaut_supported_not_found :
    umlautConfig.validate = .ok () ∧
    ∃ converter, ofConfig umlautConfig [] .refusing = .ok converter ∧
      umlautConfig.model? "ärger" = none ∧
      converter.chosen "ärger" = .error (.modelUnavailable "Ärger" "X_API_KEY") := by
  have accepted : umlautConfig.validate = .ok () := by decide +kernel
  obtain ⟨converter, configured, -⟩ := ofConfig_of_valid accepted [] .refusing
  have valid := ConverterConfig.validate_eq_ok_iff.mp accepted
  have selected : converter.select? "ärger" = some ("Ärger", .missingKey "X_API_KEY") :=
    (select?_eq_some_iff valid configured).mpr
      ⟨_, List.mem_singleton_self _, by decide +kernel, rfl⟩
  refine ⟨accepted, converter, configured, by decide +kernel, ?_⟩
  rw [chosen, selected]
  rfl

end Converter

end Polyglot
