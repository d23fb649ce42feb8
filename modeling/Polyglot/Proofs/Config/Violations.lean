import Polyglot.Proofs.Config.Validation

/-!
# Which violation is reported

`ConverterConfig.violations` lists the constraints in the order in which they are checked, each as
the relation between what violates it and the error that reports this. Validation accepts where no
constraint is violated and reports the first one that is
(**`ConverterConfig.validate_reports_first_violation`**). Models are repeated from the first one on
whose key occurred before it (`firstDuplicate?_eq_some_iff`), which is told by the name as it is
spelled there.
-/

namespace Polyglot

/-- A number is within bounds if it is finite and its value lies between them. -/
theorem Single.within_iff {a : Single} {low high : Rat} :
    a.within low high = true ↔ ∃ x, a.value? = some x ∧ low ≤ x ∧ x ≤ high := by
  rw [within]
  cases a.value? with
  | none => simp
  | some x => simp

namespace ConverterConfig

variable {config : ConverterConfig} {error : ConfigError}

/-! ## Constraints in order -/

/-- Every constraint on a configuration with what is reported when it is violated, in the order in
which they are checked. -/
def violations (config : ConverterConfig) : List (ConfigError → Prop) := [
  fun error => (¬ ∃ x, config.temperature.value? = some x ∧ 0 ≤ x ∧ x ≤ 2) ∧
    error = .temperatureOutOfRange config.temperature (.ofRat 0) (.ofRat 2),
  fun error => config.maxTokens = 0 ∧ error = .zeroMaxTokens,
  fun error => config.requestTimeoutSecs = 0 ∧ error = .zeroTimeout "request_timeout_secs",
  fun error => config.executionTimeoutSecs = 0 ∧ error = .zeroTimeout "execution_timeout_secs",
  fun error => config.languages = [] ∧ error = .noLanguages,
  fun error => config.models = [] ∧ error = .noModels,
  fun error => ∃ before spec after, config.models = before ++ spec :: after ∧
    spec.key ∈ before.map ModelSpec.key ∧ (before.map ModelSpec.key).Nodup ∧
    error = .duplicateModel spec.name]

/-- The error reports a violation, and no constraint before is violated. -/
def FirstReported (violations : List (ConfigError → Prop)) (error : ConfigError) : Prop :=
  ∃ before violation after, violations = before ++ violation :: after ∧ violation error ∧
    ∀ earlier ∈ before, ∀ other, ¬ earlier other

theorem firstReported_cons_iff {violation : ConfigError → Prop}
    {violations : List (ConfigError → Prop)} :
    FirstReported (violation :: violations) error ↔
      violation error ∨ (∀ other, ¬ violation other) ∧ FirstReported violations error := by
  constructor
  · rintro ⟨before, reported, after, split, reports, clear⟩
    cases before with
    | nil =>
      cases split
      exact .inl reports
    | cons first before =>
      cases split
      obtain ⟨here, later⟩ := List.forall_mem_cons.mp clear
      exact .inr ⟨here, before, reported, after, rfl, reports, later⟩
  · rintro (reports | ⟨here, before, reported, after, rfl, reports, later⟩)
    · exact ⟨[], violation, violations, rfl, reports, fun _ listed => nomatch listed⟩
    · exact ⟨violation :: before, reported, after, rfl, reports,
        List.forall_mem_cons.mpr ⟨here, later⟩⟩

theorem not_firstReported_nil : ¬ FirstReported [] error := by
  rintro ⟨before, violation, after, split, -⟩
  exact absurd split (by simp)

theorem firstReported_singleton_iff {violation : ConfigError → Prop} :
    FirstReported [violation] error ↔ violation error := by
  rw [firstReported_cons_iff, or_iff_left]
  exact fun ⟨_, reported⟩ => not_firstReported_nil reported

/-- One check before others. -/
theorem check_eq_error_iff {condition violated : Prop} [Decidable condition]
    {reported : ConfigError} {rest : Except ConfigError Unit}
    {violations : List (ConfigError → Prop)} (same : condition ↔ violated)
    (later : rest = .error error ↔ FirstReported violations error) :
    (if condition then .error reported else rest) = .error error ↔
      FirstReported ((fun error => violated ∧ error = reported) :: violations) error := by
  rw [firstReported_cons_iff, ← same]
  by_cases failed : condition
  · rw [if_pos failed, Except.error.injEq]
    simp [failed, eq_comm]
  · rw [if_neg failed, later]
    simp [failed]

/-! ## Repeated models -/

/-- The model reported is the first whose key was seen or belongs to a model before it. -/
theorem firstDuplicate?_eq_some_iff (seen : List String) (models : List ModelSpec)
    (spec : ModelSpec) :
    firstDuplicate? seen models = some spec ↔
      ∃ before after, models = before ++ spec :: after ∧
        (spec.key ∈ seen ∨ spec.key ∈ before.map ModelSpec.key) ∧
        firstDuplicate? seen before = none := by
  induction models generalizing seen with
  | nil => simp [firstDuplicate?]
  | cons model models ih =>
    -- a key that was met stops the search here, and any other is one more that was met
    by_cases known : model.key ∈ seen
    · have stops (others : List ModelSpec) :
          firstDuplicate? seen (model :: others) = some model :=
        if_pos (List.contains_iff_mem.mpr known)
      rw [stops, Option.some.injEq]
      constructor
      · rintro rfl
        exact ⟨[], models, rfl, .inl known, rfl⟩
      · rintro ⟨before, after, split, -, clear⟩
        cases before with
        | nil => exact (List.cons.inj split).1
        | cons first before =>
          cases split
          rw [stops] at clear
          cases clear
    · have goes (others : List ModelSpec) :
          firstDuplicate? seen (model :: others) = firstDuplicate? (model.key :: seen) others :=
        if_neg fun met => known (List.contains_iff_mem.mp met)
      rw [goes, ih]
      constructor
      · rintro ⟨before, after, rfl, met, clear⟩
        refine ⟨model :: before, after, rfl, ?_, (goes before).trans clear⟩
        simpa only [List.mem_cons, List.map_cons, or_assoc, or_left_comm] using met
      · rintro ⟨before, after, split, met, clear⟩
        cases before with
        | nil =>
          cases split
          simp [known] at met
        | cons first before =>
          cases split
          refine ⟨before, after, rfl, ?_, (goes before).symm.trans clear⟩
          simpa only [List.mem_cons, List.map_cons, or_assoc, or_left_comm] using met

/-- At the start no key has been seen. -/
theorem firstDuplicate?_nil_eq_some_iff {models : List ModelSpec} {spec : ModelSpec} :
    firstDuplicate? [] models = some spec ↔
      ∃ before after, models = before ++ spec :: after ∧
        spec.key ∈ before.map ModelSpec.key ∧ (before.map ModelSpec.key).Nodup := by
  rw [firstDuplicate?_eq_some_iff]
  simp only [firstDuplicate?_eq_none_iff, List.not_mem_nil, false_or, not_false_eq_true,
    implies_true, and_true]

/-- Without an earlier violation, the first repeated model is reported. -/
theorem repeated_eq_error_iff (models : List ModelSpec) :
    (match firstDuplicate? [] models with
      | some model => Except.error (ConfigError.duplicateModel model.name)
      | none => .ok ()) = .error error ↔
      FirstReported [fun error => ∃ before spec after, models = before ++ spec :: after ∧
        spec.key ∈ before.map ModelSpec.key ∧ (before.map ModelSpec.key).Nodup ∧
        error = .duplicateModel spec.name] error := by
  rw [firstReported_singleton_iff]
  constructor
  · intro failed
    split at failed
    · next model found =>
      cases failed
      obtain ⟨before, after, split, met, clear⟩ := firstDuplicate?_nil_eq_some_iff.mp found
      exact ⟨before, model, after, split, met, clear, rfl⟩
    · cases failed
  · rintro ⟨before, spec, after, split, met, clear, rfl⟩
    rw [firstDuplicate?_nil_eq_some_iff.mpr ⟨before, after, split, met, clear⟩]

/-! ## Validation -/

theorem validate_eq_error_iff :
    config.validate = .error error ↔ FirstReported config.violations error := by
  rw [validate, lowestTemperature, highestTemperature, violations]
  refine check_eq_error_iff ?_ <| check_eq_error_iff Iff.rfl <| check_eq_error_iff Iff.rfl <|
    check_eq_error_iff Iff.rfl <| check_eq_error_iff List.isEmpty_iff <|
    check_eq_error_iff List.isEmpty_iff <| repeated_eq_error_iff config.models
  rw [Bool.not_eq_true', ← Bool.not_eq_true, Single.within_iff]

/-- A repeated model is reported where nothing else is wrong. -/
theorem validate_eq_duplicate_iff {name : String} :
    config.validate = .error (.duplicateModel name) ↔
      (∃ x, config.temperature.value? = some x ∧ 0 ≤ x ∧ x ≤ 2) ∧ config.maxTokens ≠ 0 ∧
        config.requestTimeoutSecs ≠ 0 ∧ config.executionTimeoutSecs ≠ 0 ∧
        config.languages ≠ [] ∧ config.models ≠ [] ∧
        ∃ before spec after, config.models = before ++ spec :: after ∧
          spec.key ∈ before.map ModelSpec.key ∧ (before.map ModelSpec.key).Nodup ∧
          name = spec.name := by
  rw [validate_eq_error_iff, violations]
  simp [firstReported_cons_iff, not_firstReported_nil]

/-- A configuration is accepted if its temperature is a number from 0 to 2, no limit is zero, there
are languages and models, and no two models have the same name up to case; otherwise the first
constraint that is violated is reported. -/
theorem validate_reports_first_violation (config : ConverterConfig) :
    (config.validate = .ok () ↔
      (∃ x, config.temperature.value? = some x ∧ 0 ≤ x ∧ x ≤ 2) ∧ 0 < config.maxTokens ∧
        0 < config.requestTimeoutSecs ∧ 0 < config.executionTimeoutSecs ∧
        config.languages ≠ [] ∧ config.models ≠ [] ∧
        (config.models.map (Text.lowercase ·.name)).Nodup) ∧
    ∀ error, config.validate = .error error ↔ FirstReported config.violations error := by
  refine ⟨?_, fun error => validate_eq_error_iff⟩
  rw [validate_eq_ok_iff, UInt32.pos_iff_ne_zero, UInt64.pos_iff_ne_zero, UInt64.pos_iff_ne_zero]
  have temperature : config.temperature.within lowestTemperature highestTemperature = true ↔
      ∃ x, config.temperature.value? = some x ∧ 0 ≤ x ∧ x ≤ 2 := Single.within_iff
  constructor
  · intro valid
    exact ⟨temperature.mp valid.temperature, valid.maxTokens, valid.requestTimeout,
      valid.executionTimeout, valid.languages, valid.models, valid.distinct⟩
  · rintro ⟨bounds, maxTokens, requestTimeout, executionTimeout, languages, models, distinct⟩
    exact ⟨temperature.mpr bounds, maxTokens, requestTimeout, executionTimeout, languages, models,
      distinct⟩

/-- Zero with a sign is a temperature. -/
example : ({ temperature := .finite true 0 } : ConverterConfig).validate = .ok () := by rfl

end ConverterConfig

end Polyglot
