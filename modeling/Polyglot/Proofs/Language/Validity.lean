import Polyglot.Proofs.Language.Catalogue
import Polyglot.Proofs.Language.Spelling

/-!
# What passes for a built-in language

Validation passes whatever it has nothing to check in. Where code is given and the name is that of
a language, it passes the code exactly if a profile of that language accepts it
(`validate_isValid_iff`). This needs names that are spelled differently, as those of the built-in
languages are (`Catalogue.names_distinct`), and a name, which is never blank
(`builtin_resolve_of_blank`). A built-in language always goes by its own (`builtin_resolve_name`),
and by its aliases and nothing else (`builtin_resolve_eq_some_iff`).
-/

namespace Polyglot

namespace Catalogue

theorem names_distinct : (all.map (Text.lowercase ·.name)).Nodup := by decide

/-- A definition of the catalogue is known by its name. -/
theorem eq_of_name {definition other : LanguageDefinition} (listed : definition ∈ all)
    (listed' : other ∈ all) (same : definition.name = other.name) : definition = other :=
  List.inj_on_of_nodup_map names_distinct listed listed' (congrArg Text.lowercase same)

theorem spellings_distinct : (all.flatMap LanguageDefinition.spellings).Nodup := by decide

theorem names_trimmed : ∀ definition ∈ all, Text.trim definition.name = definition.name := by
  decide

/-- No name or alias is the empty text. -/
theorem lookup_empty : (SpellingIndex.addAll [] 0 all).lookup "" = none := by decide

end Catalogue

namespace Registry

variable {engine : PatternEngine} {definitions : List LanguageDefinition} {registry : Registry}
  {language : Language} {code expected : String}

/-- Code passes for a language by name if a profile of the language accepts it. -/
theorem validate_isValid_iff (built : ofDefinitions definitions engine = .ok registry)
    (distinct : (definitions.map (Text.lowercase ·.name)).Nodup) (given : code ≠ "")
    (named : Text.trim expected ≠ "") (resolved : registry.resolve expected = some language) :
    (registry.validate code expected).isValid = true ↔
      ∃ profile ∈ registry.profiles, profile.language = language ∧
        profile.accepts (.ofString code) = true := by
  rw [← mem_matchingIn]
  cases outcome : registry.validate code expected with
  | valid =>
    refine iff_of_true rfl ?_
    by_contra absent
    have failed : registry.validate code expected = .mismatch (registry.detect code) language :=
      (validate_eq_mismatch_iff built distinct).mpr ⟨given, named, resolved, absent, rfl⟩
    rw [outcome] at failed
    cases failed
  | mismatch detected other =>
    obtain ⟨-, -, resolved', absent, -⟩ := (validate_eq_mismatch_iff built distinct).mp outcome
    rw [resolved, Option.some.injEq] at resolved'
    exact iff_of_false Bool.false_ne_true (resolved' ▸ absent)

/-- A built-in language goes by its name. -/
theorem builtin_resolve_name {definition : LanguageDefinition} {name : String}
    (listed : definition ∈ Catalogue.all) (named : definition.name = name) :
    builtin.resolve name = some ⟨name⟩ := by
  obtain ⟨profile, held, read⟩ := exists_mem_builtin listed
  have language : profile.language = ⟨name⟩ := by
    rw [LanguageDefinition.language_of_profile read, named]
  have trimmed : Text.trim profile.language.name = profile.language.name := by
    rw [language, ← named, Catalogue.names_trimmed definition listed]
  have resolved := resolve_name builtin_built Catalogue.names_distinct trimmed held
  rwa [language] at resolved

/-- A built-in language goes by its name and its aliases, in any case and with blanks around them,
and by nothing else. -/
theorem builtin_resolve_eq_some_iff {name : String} :
    builtin.resolve name = some language ↔
      ∃ definition ∈ Catalogue.all, definition.name = language.name ∧
        Text.lowercase (Text.trim name) ∈ definition.spellings := by
  rw [resolve_eq builtin_built, Option.map_eq_some_iff]
  constructor
  · rintro ⟨definition, held, rfl⟩
    obtain ⟨listed, spelled⟩ := (definitionAt?_eq_some_iff Catalogue.spellings_distinct).mp held
    exact ⟨definition, listed, rfl, spelled⟩
  · rintro ⟨definition, listed, named, spelled⟩
    refine ⟨definition, ?_, ?_⟩
    · exact (definitionAt?_eq_some_iff Catalogue.spellings_distinct).mpr ⟨listed, spelled⟩
    · rw [named]

/-- A name that no entry of the catalogue goes by is not that of a built-in language. -/
theorem builtin_resolve_of_unlisted
    (unlisted : (SpellingIndex.addAll [] 0 Catalogue.all).lookup
      (Text.lowercase (Text.trim expected)) = none) :
    builtin.resolve expected = none := by
  rw [resolve, profileAt?, (ofDefinitions_eq_ok_iff.mp builtin_built).2, unlisted]
  rfl

/-- A blank name is none of those. -/
theorem builtin_resolve_of_blank (blank : Text.trim expected = "") :
    builtin.resolve expected = none := by
  refine builtin_resolve_of_unlisted ?_
  rw [blank]
  exact Catalogue.lookup_empty

/-- Whatever is said to be in an unknown language passes. -/
theorem builtin_validate_of_unlisted (code : String)
    (unlisted : (SpellingIndex.addAll [] 0 Catalogue.all).lookup
      (Text.lowercase (Text.trim expected)) = none) :
    builtin.validate code expected = .valid := by
  rw [validate, builtin_resolve_of_unlisted unlisted, Option.bind_none]
  split <;> rfl

/-- Code passes for a built-in language if a profile of it accepts the code. -/
theorem builtin_validate_isValid_iff (given : code ≠ "")
    (resolved : builtin.resolve expected = some language) :
    (builtin.validate code expected).isValid = true ↔
      ∃ profile ∈ builtin.profiles, profile.language = language ∧
        profile.accepts (.ofString code) = true := by
  have named : Text.trim expected ≠ "" := by
    intro blank
    rw [builtin_resolve_of_blank blank] at resolved
    cases resolved
  exact validate_isValid_iff builtin_built Catalogue.names_distinct given named resolved

end Registry

end Polyglot
