import Polyglot.Config.Basic

/-!
# Which configurations are accepted

`ConverterConfig.Valid` lists what a usable configuration meets, and
**`ConverterConfig.validate_eq_ok_iff`** says that validation accepts just those. Names of models
count as the same when their lowercase forms are (`ModelSpec.key`); the check for them goes through
the models once and remembers the keys that it has seen (`firstDuplicate?_eq_none_iff`).
-/

namespace Polyglot

/-- The lowercase form of the name, by which models are told apart. -/
def ModelSpec.key (spec : ModelSpec) : String :=
  Text.lowercase spec.name

namespace ConverterConfig

variable {config : ConverterConfig}

/-- Every constraint on a configuration. -/
structure Valid (config : ConverterConfig) : Prop where
  temperature : config.temperature.within lowestTemperature highestTemperature = true
  maxTokens : config.maxTokens ≠ 0
  requestTimeout : config.requestTimeoutSecs ≠ 0
  executionTimeout : config.executionTimeoutSecs ≠ 0
  languages : config.languages ≠ []
  models : config.models ≠ []
  /-- No two models share a name up to case. -/
  distinct : (config.models.map ModelSpec.key).Nodup

/-- No model is a duplicate when all keys differ from one another and from those seen before. -/
theorem firstDuplicate?_eq_none_iff (seen : List String) (models : List ModelSpec) :
    firstDuplicate? seen models = none ↔
      (models.map ModelSpec.key).Nodup ∧ ∀ spec ∈ models, spec.key ∉ seen := by
  induction models generalizing seen with
  | nil => simp [firstDuplicate?]
  | cons model models ih =>
    rw [List.map_cons, List.nodup_cons, List.forall_mem_cons, firstDuplicate?]
    split
    · next known =>
      have met : model.key ∈ seen := List.contains_iff_mem.mp known
      refine ⟨nofun, fun ⟨_, fresh, _⟩ => absurd met fresh⟩
    · next new =>
      have fresh : model.key ∉ seen := fun met => new (List.contains_iff_mem.mpr met)
      -- behind a new key the search goes on with one key more that was met
      rw [ih]
      constructor
      · rintro ⟨distinct, unseen⟩
        refine ⟨⟨?_, distinct⟩, fresh, ?_⟩
        · intro again
          obtain ⟨other, mem, same⟩ := List.mem_map.mp again
          exact unseen other mem (by rw [same]; exact List.mem_cons_self)
        · exact fun other mem met => unseen other mem (List.mem_cons_of_mem _ met)
      · rintro ⟨⟨once, distinct⟩, -, unseen⟩
        refine ⟨distinct, fun other mem met => ?_⟩
        rcases List.mem_cons.mp met with same | met
        · exact once (List.mem_map.mpr ⟨other, mem, same⟩)
        · exact unseen other mem met

/-- A configuration is accepted if and only if it meets every constraint. -/
theorem validate_eq_ok_iff : config.validate = .ok () ↔ config.Valid := by
  unfold validate
  constructor
  · intro accepted
    -- validation goes through the checks in turn, so each of them was passed
    split at accepted
    · cases accepted
    next temperature =>
    split at accepted
    · cases accepted
    next maxTokens =>
    split at accepted
    · cases accepted
    next requestTimeout =>
    split at accepted
    · cases accepted
    next executionTimeout =>
    split at accepted
    · cases accepted
    next languages =>
    split at accepted
    · cases accepted
    next models =>
    split at accepted
    · cases accepted
    next unique =>
    refine ⟨by simpa using temperature, maxTokens, requestTimeout, executionTimeout, ?_, ?_, ?_⟩
    · rintro none
      exact languages (by rw [none]; rfl)
    · rintro none
      exact models (by rw [none]; rfl)
    · exact ((firstDuplicate?_eq_none_iff [] _).mp unique).1
  · intro valid
    have languages : ¬ config.languages.isEmpty = true := by simpa using valid.languages
    have models : ¬ config.models.isEmpty = true := by simpa using valid.models
    have unique : firstDuplicate? [] config.models = none :=
      (firstDuplicate?_eq_none_iff [] _).mpr ⟨valid.distinct, fun _ _ => List.not_mem_nil⟩
    rw [valid.temperature, if_neg (by decide), if_neg valid.maxTokens, if_neg valid.requestTimeout,
      if_neg valid.executionTimeout, if_neg languages, if_neg models, unique]

end ConverterConfig

end Polyglot
