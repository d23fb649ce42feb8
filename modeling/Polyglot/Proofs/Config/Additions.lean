import Mathlib.Data.List.Nodup
import Polyglot.Config.Builder
import Polyglot.Proofs.Config.Violations
import Polyglot.Proofs.Text.Lowercase

/-!
# Models added one by one

Adding a model replaces the models whose names are equal to its own up to the case of ASCII letters
(`ModelSpec.asciiKey`). So no two models of the catalogue ever have such names
(`nodup_asciiKeys_foldl`), and every name that was on offer stays on offer up to that case
(`mem_asciiKeys_foldl`). Validation compares lowercase forms, which are equal for more names: a
configuration cannot be built for a repeated model just where two of the names on offer, those of
the stock models included, differ in the case of other letters only
(**`build_repeats_iff_beyond_ascii`**).

What is left of a sequence of additions is what one addition leaves, by induction: the stock models
that were not added again, then the last of every name (`ModelSpec.foldl_replacing`); and a name
finds what was added last under it (`ModelSpec.find?_foldl_replacing`). So the last addition counts
(**`catalogue_of_additions`**).
-/

namespace Polyglot

variable {models added : List ModelSpec} {model spec other : ModelSpec}

namespace ModelSpec

/-- The name with its ASCII letters made small, by which models replace one another. -/
def asciiKey (spec : ModelSpec) : List Char :=
  spec.name.toList.map Char.toLower

theorem asciiKey_eq_iff :
    spec.asciiKey = other.asciiKey ↔ Text.equalIgnoringAsciiCase spec.name other.name = true :=
  beq_iff_eq.symm

/-- Names that are equal up to ASCII case are equal up to case. -/
theorem key_eq_of_asciiKey_eq (same : spec.asciiKey = other.asciiKey) : spec.key = other.key :=
  Text.lowercase_eq_of_equalIgnoringAsciiCase (asciiKey_eq_iff.mp same)

/-! ## Catalogues -/

/-- The catalogue after one addition. -/
def replacing (models : List ModelSpec) (model : ModelSpec) : List ModelSpec :=
  models.filter (·.asciiKey != model.asciiKey) ++ [model]

theorem asciiKeys_replacing (models : List ModelSpec) (model : ModelSpec) :
    (replacing models model).map asciiKey =
      (models.map asciiKey).filter (· != model.asciiKey) ++ [model.asciiKey] := by
  rw [replacing, List.map_append, List.filter_map]
  rfl

theorem nodup_asciiKeys_replacing (apart : (models.map asciiKey).Nodup) (model : ModelSpec) :
    ((replacing models model).map asciiKey).Nodup := by
  rw [asciiKeys_replacing, ← List.concat_eq_append, List.nodup_concat]
  exact ⟨by simp, apart.filter _⟩

theorem mem_asciiKeys_replacing {key : List Char} :
    key ∈ (replacing models model).map asciiKey ↔
      key ∈ models.map asciiKey ∨ key = model.asciiKey := by
  rw [asciiKeys_replacing, List.mem_append, List.mem_filter, bne_iff_ne, List.mem_singleton]
  by_cases same : key = model.asciiKey
  · simp [same]
  · simp only [ne_eq, same, not_false_eq_true, and_true]

theorem nodup_asciiKeys_foldl (apart : (models.map asciiKey).Nodup) (added : List ModelSpec) :
    ((added.foldl replacing models).map asciiKey).Nodup := by
  induction added generalizing models with
  | nil => exact apart
  | cons model added ih => exact ih (nodup_asciiKeys_replacing apart model)

/-- Up to ASCII case the catalogue has all the names that were on offer. -/
theorem mem_asciiKeys_foldl {key : List Char} :
    key ∈ (added.foldl replacing models).map asciiKey ↔ key ∈ (models ++ added).map asciiKey := by
  induction added generalizing models with
  | nil => rw [List.foldl_nil, List.append_nil]
  | cons model added ih =>
    rw [List.foldl_cons, ih, List.map_append, List.mem_append, mem_asciiKeys_replacing,
      List.map_append, List.mem_append, List.map_cons, List.mem_cons, or_assoc]

/-! ### What is left of the additions -/

/-- The models that are not followed by another of the same name, up to ASCII case. -/
def lastAdditions : List ModelSpec → List ModelSpec
  | [] => []
  | model :: later =>
    if ∃ again ∈ later, Text.equalIgnoringAsciiCase model.name again.name = true then
      lastAdditions later
    else model :: lastAdditions later

/-- Additions leave the models whose names are not among theirs, and the last of every name. -/
theorem foldl_replacing (models added : List ModelSpec) :
    added.foldl replacing models =
      models.filter (fun spec => ∀ model ∈ added,
        ¬ Text.equalIgnoringAsciiCase spec.name model.name = true) ++ lastAdditions added := by
  simp only [← asciiKey_eq_iff]
  induction added generalizing models with
  | nil => simp [lastAdditions]
  | cons model added ih =>
    -- what is there before this addition loses the models of its name now, and later the others
    have kept : (models.filter (·.asciiKey != model.asciiKey)).filter (fun spec =>
          ∀ again ∈ added, ¬ spec.asciiKey = again.asciiKey) =
        models.filter (fun spec => ∀ again ∈ model :: added, ¬ spec.asciiKey = again.asciiKey) := by
      rw [List.filter_filter]
      apply List.filter_congr
      intro spec _
      rw [Bool.eq_iff_iff]
      simp [and_comm]
    rw [List.foldl_cons, ih, replacing, List.filter_append, kept, List.append_assoc]
    congr 1
    simp only [lastAdditions, ← asciiKey_eq_iff]
    by_cases again : ∃ again ∈ added, model.asciiKey = again.asciiKey
    · rw [if_pos again, List.filter_cons_of_neg (by simpa using again)]
      rfl
    · rw [if_neg again, List.filter_cons_of_pos (by simpa using again)]
      rfl

/-- A name finds the model that was added last, if it is that model's name. -/
theorem find?_replacing (models : List ModelSpec) (model : ModelSpec) (name : String) :
    (replacing models model).find? (Text.equalIgnoringAsciiCase ·.name name) =
      if Text.equalIgnoringAsciiCase model.name name = true then some model
      else models.find? (Text.equalIgnoringAsciiCase ·.name name) := by
  rw [replacing, List.find?_append]
  by_cases same : Text.equalIgnoringAsciiCase model.name name = true
  · -- the models of that name have been dropped
    have dropped : (models.filter (·.asciiKey != model.asciiKey)).find?
        (Text.equalIgnoringAsciiCase ·.name name) = none := by
      apply List.find?_eq_none.mpr
      intro spec listed found
      have other : spec.asciiKey ≠ model.asciiKey := by simpa using (List.mem_filter.mp listed).2
      simp only [Text.equalIgnoringAsciiCase, beq_iff_eq] at found same
      exact other (found.trans same.symm)
    rw [dropped, if_pos same]
    simp [same]
  · -- no model of that name has been dropped
    have kept : (models.filter (·.asciiKey != model.asciiKey)).find?
        (Text.equalIgnoringAsciiCase ·.name name) =
          models.find? (Text.equalIgnoringAsciiCase ·.name name) := by
      rw [List.find?_filter]
      congr 1
      funext spec
      simp only [Text.equalIgnoringAsciiCase, beq_iff_eq] at same ⊢
      by_cases found : spec.name.toList.map Char.toLower = name.toList.map Char.toLower
      · have other : spec.asciiKey ≠ model.asciiKey := by
          intro equal
          exact same (equal.symm.trans found)
        simp [found, other]
      · simp [found]
    rw [kept, if_neg same]
    simp [same]

/-- A name finds the last model that was added under it, or else the one that was there. -/
theorem find?_foldl_replacing (models added : List ModelSpec) (name : String) :
    (added.foldl replacing models).find? (Text.equalIgnoringAsciiCase ·.name name) =
      (added.reverse.find? (Text.equalIgnoringAsciiCase ·.name name)).or
        (models.find? (Text.equalIgnoringAsciiCase ·.name name)) := by
  induction added generalizing models with
  | nil => rfl
  | cons model added ih =>
    rw [List.foldl_cons, ih, find?_replacing, List.reverse_cons, List.find?_append, Option.or_assoc]
    by_cases same : Text.equalIgnoringAsciiCase model.name name = true
    · simp [same]
    · simp [same]

/-! ### Repeated keys -/

/-- Names that are equal up to case are equal up to ASCII case. -/
def KeysAlike (models : List ModelSpec) : Prop :=
  ∀ spec ∈ models, ∀ other ∈ models, spec.key = other.key → spec.asciiKey = other.asciiKey

/-- Only the names up to ASCII case count for that. -/
theorem KeysAlike.of_subset {others : List ModelSpec}
    (subset : models.map asciiKey ⊆ others.map asciiKey) (alike : KeysAlike others) :
    KeysAlike models := by
  intro spec listed other listed' same
  obtain ⟨spec', offered, equal⟩ := List.mem_map.mp (subset (List.mem_map_of_mem listed))
  obtain ⟨other', offered', equal'⟩ := List.mem_map.mp (subset (List.mem_map_of_mem listed'))
  rw [← equal, ← equal']
  refine alike spec' offered other' offered' ?_
  rw [key_eq_of_asciiKey_eq equal, key_eq_of_asciiKey_eq equal', same]

/-- Where all names differ in more than ASCII case, a key is repeated by names that differ in the
case of other letters. -/
theorem nodup_keys_iff (apart : (models.map asciiKey).Nodup) :
    (models.map key).Nodup ↔ KeysAlike models := by
  constructor
  · intro distinct spec listed other listed' same
    rw [List.inj_on_of_nodup_map distinct listed listed' same]
  · intro alike
    refine List.Nodup.map_on (fun spec listed other listed' same => ?_) (apart.of_map _)
    exact List.inj_on_of_nodup_map apart listed listed' (alike spec listed other listed' same)

/-- Whether keys are repeated in the end is decided by the names that were on offer. -/
theorem nodup_keys_foldl_iff (apart : (models.map asciiKey).Nodup) (added : List ModelSpec) :
    ((added.foldl replacing models).map key).Nodup ↔ KeysAlike (models ++ added) := by
  rw [nodup_keys_iff (nodup_asciiKeys_foldl apart added)]
  exact ⟨.of_subset fun _ => mem_asciiKeys_foldl.mpr, .of_subset fun _ => mem_asciiKeys_foldl.mp⟩

end ModelSpec

namespace ConverterConfig

variable {config : ConverterConfig} {settings : List Setting}

/-! ## Settings -/

/-- The model that a setting adds. -/
def Setting.added? : Setting → Option ModelSpec
  | .model model => some model
  | _ => none

/-- The models that settings add, in order. -/
def addedModels (settings : List Setting) : List ModelSpec :=
  settings.filterMap Setting.added?

/-- Settings that do not replace the whole catalogue change it by what they add. -/
theorem models_foldl_set (config : ConverterConfig)
    (kept : ∀ models, Setting.models models ∉ settings) :
    (settings.foldl set config).models =
      (addedModels settings).foldl ModelSpec.replacing config.models := by
  induction settings generalizing config with
  | nil => rfl
  | cons setting settings ih =>
    have later := ih (config.set setting) fun models listed =>
      kept models (List.mem_cons_of_mem _ listed)
    rw [List.foldl_cons, later]
    cases setting with
    | models models => exact absurd List.mem_cons_self (kept models)
    | _ => rfl

theorem models_ofSettings (kept : ∀ models, Setting.models models ∉ settings) :
    (ofSettings settings).models =
      (addedModels settings).foldl ModelSpec.replacing ModelSpec.stock :=
  models_foldl_set {} kept

theorem nodup_asciiKeys_stock : (ModelSpec.stock.map ModelSpec.asciiKey).Nodup := by decide

/-- The stock models have names of their own, and so do all that are offered after additions. -/
theorem pairwise_models_ofSettings (kept : ∀ models, Setting.models models ∉ settings) :
    (ofSettings settings).models.Pairwise fun spec other =>
      ¬ Text.equalIgnoringAsciiCase spec.name other.name = true := by
  have distinct := ModelSpec.nodup_asciiKeys_foldl nodup_asciiKeys_stock (addedModels settings)
  rw [← models_ofSettings kept, List.Nodup, List.pairwise_map] at distinct
  exact distinct.imp fun different same => different (ModelSpec.asciiKey_eq_iff.mpr same)

/-! ## Repeated models -/

/-- A repeated model is reported where the settings are accepted with the stock models and two of
the models have one key. -/
theorem exists_duplicate_iff :
    (∃ name, config.validate = .error (.duplicateModel name)) ↔
      ({ config with models := ModelSpec.stock } : ConverterConfig).validate = .ok () ∧
        ¬ (config.models.map ModelSpec.key).Nodup := by
  constructor
  · rintro ⟨name, failed⟩
    obtain ⟨bounds, maxTokens, requestTimeout, executionTimeout, languages, -,
      before, spec, after, split, met, -, -⟩ := validate_eq_duplicate_iff.mp failed
    -- repeated models are looked for last, so all other checks were passed
    have offered : ModelSpec.stock ≠ [] := by decide
    have told : (ModelSpec.stock.map ModelSpec.key).Nodup := by decide
    refine ⟨validate_eq_ok_iff.mpr ⟨Single.within_iff.mpr bounds, maxTokens, requestTimeout,
      executionTimeout, languages, offered, told⟩, fun distinct => ?_⟩
    rw [split, List.map_append, List.map_cons] at distinct
    exact (List.nodup_append.mp distinct).2.2 _ met _ List.mem_cons_self rfl
  · rintro ⟨accepted, repeated⟩
    have sound := validate_eq_ok_iff.mp accepted
    cases found : firstDuplicate? [] config.models with
    | none => exact absurd ((firstDuplicate?_eq_none_iff [] _).mp found).1 repeated
    | some spec =>
      obtain ⟨before, after, split, met, clear⟩ := firstDuplicate?_nil_eq_some_iff.mp found
      refine ⟨spec.name, validate_eq_duplicate_iff.mpr ⟨Single.within_iff.mp sound.temperature,
        sound.maxTokens, sound.requestTimeout, sound.executionTimeout, sound.languages, ?_,
        before, spec, after, split, met, clear, rfl⟩⟩
      rw [split]
      simp

theorem build_eq_error_iff {error : ConfigError} :
    config.build = .error error ↔ config.validate = .error error := by
  rw [build]
  cases config.validate <;> simp [Except.map]

theorem build_eq_ok_iff {built : ConverterConfig} :
    config.build = .ok built ↔ config.validate = .ok () ∧ config = built := by
  rw [build]
  cases config.validate <;> simp [Except.map]

/-- ASCII names with one key are equal up to ASCII case. -/
theorem keysAlike_of_ascii (ascii : ∀ spec ∈ models, Text.IsAscii spec.name) :
    ModelSpec.KeysAlike models := fun spec listed other listed' same =>
  ModelSpec.asciiKey_eq_iff.mpr <|
    (Text.equalIgnoringAsciiCase_iff_of_ascii (ascii spec listed) (ascii other listed')).mpr same

/-- However models are added one by one, no two of the catalogue have names that are equal up to
ASCII case. Building reports a repeated model if the other settings are accepted and two names on
offer differ in the case of other letters only, and never where all names are ASCII. -/
theorem build_repeats_iff_beyond_ascii (kept : ∀ models, Setting.models models ∉ settings) :
    ((ofSettings settings).models.Pairwise fun spec other =>
      ¬ Text.equalIgnoringAsciiCase spec.name other.name = true) ∧
    ((∃ name, (ofSettings settings).build = .error (.duplicateModel name)) ↔
      ({ ofSettings settings with models := ModelSpec.stock } : ConverterConfig).validate = .ok () ∧
        ∃ spec ∈ ModelSpec.stock ++ addedModels settings,
          ∃ other ∈ ModelSpec.stock ++ addedModels settings,
            Text.lowercase spec.name = Text.lowercase other.name ∧
              ¬ Text.equalIgnoringAsciiCase spec.name other.name = true) ∧
    ((∀ spec ∈ addedModels settings, Text.IsAscii spec.name) →
      ∀ name, (ofSettings settings).build ≠ .error (.duplicateModel name)) := by
  have repeats : (∃ name, (ofSettings settings).build = .error (.duplicateModel name)) ↔
      ({ ofSettings settings with models := ModelSpec.stock } : ConverterConfig).validate = .ok () ∧
        ¬ ModelSpec.KeysAlike (ModelSpec.stock ++ addedModels settings) := by
    simp only [build_eq_error_iff]
    rw [exists_duplicate_iff, models_ofSettings kept,
      ModelSpec.nodup_keys_foldl_iff nodup_asciiKeys_stock]
  refine ⟨pairwise_models_ofSettings kept, ?_, ?_⟩
  · rw [repeats]
    simp only [ModelSpec.KeysAlike, ModelSpec.asciiKey_eq_iff, not_forall, exists_prop]
    rfl
  · intro ascii name failed
    refine (repeats.mp ⟨name, failed⟩).2 (keysAlike_of_ascii ?_)
    have stock : ∀ spec ∈ ModelSpec.stock, Text.IsAscii spec.name := by decide
    exact List.forall_mem_append.mpr ⟨stock, ascii⟩

/-- A stock model is replaced, and its replacement too. -/
def replacingSettings : List Setting := [
  .model ⟨"gpt", ⟨.gemini, "http://x"⟩, "m", "X_API_KEY"⟩,
  .maxTokens 1,
  .model ⟨"GpT", ⟨.gemini, "http://y"⟩, "m", "X_API_KEY"⟩]

/-- Two models are added whose names differ in the case of a letter beyond ASCII. -/
def umlautSettings : List Setting := [
  .model ⟨"Ärger", ⟨.gemini, "http://x"⟩, "m", "X_API_KEY"⟩,
  .maxTokens 1,
  .model ⟨"ärger", ⟨.gemini, "http://x"⟩, "m", "X_API_KEY"⟩]

theorem build_repeats_umlauts_only :
    (∀ models, Setting.models models ∉ replacingSettings) ∧
      (∀ spec ∈ addedModels replacingSettings, Text.IsAscii spec.name) ∧
      (∀ name, (ofSettings replacingSettings).build ≠ .error (.duplicateModel name)) ∧
      (∀ models, Setting.models models ∉ umlautSettings) ∧
      ∃ name, (ofSettings umlautSettings).build = .error (.duplicateModel name) := by
  have kept : ∀ models, Setting.models models ∉ replacingSettings := by simp [replacingSettings]
  have kept' : ∀ models, Setting.models models ∉ umlautSettings := by simp [umlautSettings]
  have ascii : ∀ spec ∈ addedModels replacingSettings, Text.IsAscii spec.name := by decide
  obtain ⟨-, -, never⟩ := build_repeats_iff_beyond_ascii kept
  obtain ⟨-, repeats, -⟩ := build_repeats_iff_beyond_ascii kept'
  refine ⟨kept, ascii, never ascii, kept', repeats.mpr ⟨by decide +kernel, ?_⟩⟩
  decide +kernel

/-- The second of the two does not replace the first, and is reported. -/
theorem umlaut_not_replaced :
    (∀ models, Setting.models models ∉ umlautSettings) ∧
      (ofSettings umlautSettings).build = .error (.duplicateModel "ärger") :=
  ⟨by simp [umlautSettings], by decide +kernel⟩

/-! ## What is on offer -/

/-- However models are added one by one, no two of the catalogue have names that are equal up to
ASCII case. The stock models that were not added again come first, in their order, and then what was
added last under each name, in the order of these additions. A configuration that can be built finds
under a name what was added last under it, or else the stock model of that name. -/
theorem catalogue_of_additions (kept : ∀ models, Setting.models models ∉ settings) :
    ((ofSettings settings).models.Pairwise fun spec other =>
      ¬ Text.equalIgnoringAsciiCase spec.name other.name = true) ∧
    (ofSettings settings).models =
      (ModelSpec.stock.filter fun spec => ∀ model ∈ addedModels settings,
        ¬ Text.equalIgnoringAsciiCase spec.name model.name = true) ++
      ModelSpec.lastAdditions (addedModels settings) ∧
    ∀ built, (ofSettings settings).build = .ok built → ∀ name,
      built.model? name =
        ((addedModels settings).reverse.find? fun spec =>
          Text.equalIgnoringAsciiCase spec.name (Text.trim name)).or
        (ModelSpec.stock.find? fun spec =>
          Text.equalIgnoringAsciiCase spec.name (Text.trim name)) := by
  refine ⟨pairwise_models_ofSettings kept, ?_, ?_⟩
  · rw [models_ofSettings kept, ModelSpec.foldl_replacing]
  · intro built accepted name
    obtain ⟨-, rfl⟩ := build_eq_ok_iff.mp accepted
    rw [model?, models_ofSettings kept]
    exact ModelSpec.find?_foldl_replacing _ _ _

/-- One model is added, a stock model is replaced, and the added model too. -/
def renewingSettings : List Setting := [
  .model ⟨"Local", ⟨.gemini, "http://x"⟩, "m", "X_API_KEY"⟩,
  .model ⟨"gpt", ⟨.gemini, "http://y"⟩, "m", "X_API_KEY"⟩,
  .maxTokens 1,
  .model ⟨"LOCAL", ⟨.gemini, "http://z"⟩, "m", "X_API_KEY"⟩]

theorem catalogue_of_renewals :
    (∀ models, Setting.models models ∉ renewingSettings) ∧
      (ofSettings renewingSettings).models.map (·.name) =
        ["Claude", "DeepSeek", "Gemini", "GROQ", "gpt", "LOCAL"] ∧
      ∃ built, (ofSettings renewingSettings).build = .ok built ∧
        built.model? " local\n" = some ⟨"LOCAL", ⟨.gemini, "http://z"⟩, "m", "X_API_KEY"⟩ ∧
        built.model? "GPT" = some ⟨"gpt", ⟨.gemini, "http://y"⟩, "m", "X_API_KEY"⟩ ∧
        (built.model? "claude").map (·.name) = some "Claude" ∧ built.model? "Ärger" = none := by
  have kept : ∀ models, Setting.models models ∉ renewingSettings := by simp [renewingSettings]
  have accepted : (ofSettings renewingSettings).build = .ok (ofSettings renewingSettings) := by
    decide +kernel
  obtain ⟨-, catalogue, found⟩ := catalogue_of_additions kept
  refine ⟨kept, ?_, _, accepted, ?_, ?_, ?_, ?_⟩
  · rw [catalogue]
    decide
  · rw [found _ accepted]
    decide
  · rw [found _ accepted]
    decide
  · rw [found _ accepted]
    decide
  · rw [found _ accepted]
    decide

end ConverterConfig

end Polyglot
