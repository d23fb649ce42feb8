import Polyglot.Language.Validation
import Polyglot.Proofs.Language.Detection
import Polyglot.Proofs.Text.Lowercase

/-!
# Detection and validation agree

Validation takes a spelling, names and aliases alike, to a language and that language's name to the
profile on record; detection asks every profile in turn. If no two names are spelled alike, both
speak of the same profile (`mem_matching_iff_accepts`), so a snippet fails validation when and only
when detection does not list the language (**`validate_eq_mismatch_iff`**).
-/

namespace Polyglot.Registry

variable {engine : PatternEngine} {definitions : List LanguageDefinition} {registry : Registry}
  {profile : LanguageProfile} {language : Language} {code : String}

/-- What is detected is one of the languages that the snippet passes for. -/
theorem mem_matching_of_detect (detected : registry.detect code = some language) :
    language ∈ registry.matching code := by
  obtain ⟨best, ranked, rfl, -⟩ := detect_eq_some_iff.mp detected
  exact (mem_rank.mp ranked).2.1

section

variable (built : ofDefinitions definitions engine = .ok registry)
  (distinct : (definitions.map (Text.lowercase ·.name)).Nodup)

include built distinct

/-- A language is listed when its own profile accepts the snippet. -/
theorem mem_matching_iff_accepts (listed : profile ∈ registry.profiles) :
    profile.language ∈ registry.matching code ↔ profile.accepts (.ofString code) = true := by
  rw [matching, mem_matchingIn]
  constructor
  · rintro ⟨other, listed', same, passes⟩
    exact eq_of_language built distinct listed' listed same ▸ passes
  · intro passes
    exact ⟨profile, listed, rfl, passes⟩

/-- A snippet fails when it is checked against a language for which it does not pass. -/
theorem validate_eq_mismatch_iff {expected : String} {detected : Option Language} :
    registry.validate code expected = .mismatch detected language ↔
      code ≠ "" ∧ Text.trim expected ≠ "" ∧ registry.resolve expected = some language ∧
        language ∉ registry.matching code ∧ detected = registry.detect code := by
  rw [validate, resolve_bind_profile? built distinct, resolve]
  by_cases nothing : (code.isEmpty || Text.allBlank expected) = true
  · -- nothing to check: one of the two is blank
    rw [if_pos nothing]
    rw [Bool.or_eq_true, String.isEmpty_iff, Text.allBlank_iff] at nothing
    constructor
    · intro failed
      cases failed
    · rintro ⟨given, named, -⟩
      exact absurd nothing (not_or.mpr ⟨given, named⟩)
  · rw [if_neg nothing]
    rw [Bool.or_eq_true, String.isEmpty_iff, Text.allBlank_iff, not_or] at nothing
    obtain ⟨given, named⟩ := nothing
    cases held : registry.profileAt? (Text.lowercase (Text.trim expected)) with
    | none => simp
    | some profile =>
      have listed : profile.language ∈ registry.matching code ↔
          profile.accepts (.ofString code) = true :=
        mem_matching_iff_accepts built distinct (mem_of_profileAt? held)
      simp only [Option.map_some, Option.some.injEq]
      by_cases passes : profile.accepts (.ofString code) = true
      · rw [if_pos passes]
        constructor
        · intro failed
          cases failed
        · rintro ⟨-, -, rfl, absent, -⟩
          exact absurd (listed.mpr passes) absent
      · rw [if_neg passes, Validation.mismatch.injEq]
        constructor
        · rintro ⟨rfl, rfl⟩
          exact ⟨given, named, rfl, fun member => passes (listed.mp member), rfl⟩
        · rintro ⟨-, -, rfl, -, rfl⟩
          exact ⟨rfl, rfl⟩

/-- A name without blanks around it resolves to its language. -/
theorem resolve_name (trimmed : Text.trim profile.language.name = profile.language.name)
    (listed : profile ∈ registry.profiles) :
    registry.resolve profile.language.name = some profile.language := by
  rw [resolve, trimmed, profileAt?_of_distinct built distinct listed, Option.map_some]

/-- A language that the snippet passes for is valid under its own name. -/
theorem validate_name
    (trimmed : ∀ definition ∈ definitions,
      Text.trim (Text.lowercase definition.name) = Text.lowercase definition.name)
    (matching : language ∈ registry.matching code) :
    registry.validate code language.name = .valid := by
  obtain ⟨profile, listed, rfl, -⟩ := mem_matchingIn.mp matching
  obtain ⟨definition, defined, read⟩ := (mem_profiles_iff built).mp listed
  have named : profile.language.name = definition.name := by
    rw [LanguageDefinition.language_of_profile read]
  have resolved := resolve_name built distinct
    (Text.trim_eq_self_of_lowercase (named ▸ trimmed definition defined)) listed
  cases outcome : registry.validate code profile.language.name with
  | valid => rfl
  | mismatch detected expected =>
    obtain ⟨-, -, resolved', absent, -⟩ :=
      (validate_eq_mismatch_iff built distinct).mp outcome
    rw [resolved, Option.some.injEq] at resolved'
    exact absurd (resolved' ▸ matching) absent

/-- Validation fails exactly where detection does not list the language, names what is detected
instead, and passes every language that is listed. -/
theorem validation_agrees_with_detection
    (trimmed : ∀ definition ∈ definitions,
      Text.trim (Text.lowercase definition.name) = Text.lowercase definition.name) (code : String) :
    (∀ expected detected language, registry.validate code expected = .mismatch detected language ↔
      code ≠ "" ∧ Text.trim expected ≠ "" ∧ registry.resolve expected = some language ∧
        language ∉ registry.matching code ∧ detected = registry.detect code) ∧
    (∀ expected detected language, registry.validate code expected = .mismatch detected language →
      detected ≠ some language) ∧
    (∀ language ∈ registry.matching code, registry.validate code language.name = .valid) ∧
    (∀ language, registry.detect code = some language →
      language ∈ registry.matching code ∧ registry.validate code language.name = .valid) := by
  refine ⟨fun _ _ _ => validate_eq_mismatch_iff built distinct, ?_, ?_, ?_⟩
  · intro expected detected language failed same
    obtain ⟨-, -, -, absent, rfl⟩ := (validate_eq_mismatch_iff built distinct).mp failed
    exact absent (mem_matching_of_detect same)
  · intro language matching
    exact validate_name built distinct trimmed matching
  · intro language detected
    have matching := mem_matching_of_detect detected
    exact ⟨matching, validate_name built distinct trimmed matching⟩

end

/-- Two languages that share an alias; the name of the first is an alias of the second as well. -/
def homonyms : List LanguageDefinition := [
  { name := "Alpha", aliases := ["common"], fileExtension := "a", markers := ["x"],
    signature := "x" },
  { name := "Beta", aliases := ["common", "alpha"], fileExtension := "b", markers := ["y"],
    signature := "y" }]

theorem validation_agrees_homonyms :
    ∃ registry, ofDefinitions homonyms = .ok registry ∧
      (homonyms.map (Text.lowercase ·.name)).Nodup ∧
      (∀ definition ∈ homonyms,
        Text.trim (Text.lowercase definition.name) = Text.lowercase definition.name) ∧
      registry.matching "y" = [⟨"Beta"⟩] ∧
      registry.validate "y" " COMMON " = .mismatch (registry.detect "y") ⟨"Alpha"⟩ ∧
      registry.validate "y" "Beta" = .valid := by
  obtain ⟨registry, built⟩ : ∃ registry, ofDefinitions homonyms = .ok registry := ⟨_, rfl⟩
  have distinct : (homonyms.map (Text.lowercase ·.name)).Nodup := by decide
  have trimmed : ∀ definition ∈ homonyms,
      Text.trim (Text.lowercase definition.name) = Text.lowercase definition.name := by
    decide
  have accepted : ((ofDefinitions homonyms).toOption.map fun registry =>
      (registry.profiles.filter (·.accepts (.ofString "y"))).map (·.language)) =
        some [⟨"Beta"⟩] := by decide
  have resolved : (ofDefinitions homonyms).toOption.map (·.resolve " COMMON ") =
      some (some ⟨"Alpha"⟩) := by decide
  simp only [built, Except.toOption, Option.map_some, Option.some.injEq] at accepted resolved
  have matching : registry.matching "y" = [⟨"Beta"⟩] := by
    rw [Registry.matching, matchingIn, accepted, List.eraseDups_cons, List.filter_nil,
      List.eraseDups_nil, List.mergeSort_singleton]
  obtain ⟨failing, -, listed, -⟩ := validation_agrees_with_detection built distinct trimmed "y"
  refine ⟨registry, built, distinct, trimmed, matching, ?_, ?_⟩
  · rw [failing, matching]
    exact ⟨by decide, by decide, resolved, by simp, rfl⟩
  · exact listed ⟨"Beta"⟩ (by rw [matching]; exact List.mem_singleton_self _)

end Polyglot.Registry
