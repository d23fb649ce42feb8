import Polyglot.Language.Validation
import Polyglot.Proofs.Language.Detection

/-!
# The order of definitions

The index of spellings depends on the order in which definitions are entered, since the first alias
with a spelling keeps it and each name takes its spelling over. As long as no two names are spelled
alike, what detection and validation read from it does not: they look up names only, and under a
name stands its own definition, whatever the aliases are. So **`order_independent`**: entering the
definitions in another order makes no difference to what is detected in any snippet, nor to whether
it passes for a language called by its name.
-/

namespace Polyglot.Registry

variable {engine : PatternEngine} {definitions others : List LanguageDefinition}
  {registry other : Registry} {profile : LanguageProfile} {text : IndexedText}

/-- Definitions are compiled in every order or in none. -/
theorem exists_ofDefinitions_of_perm (perm : definitions.Perm others)
    (built : ∃ registry, ofDefinitions definitions engine = .ok registry) :
    ∃ other, ofDefinitions others engine = .ok other := by
  rw [exists_ofDefinitions_iff] at built ⊢
  intro definition defined
  exact built definition (perm.mem_iff.mpr defined)

section

variable (perm : definitions.Perm others)
  (distinct : (definitions.map (Text.lowercase ·.name)).Nodup)
  (built : ofDefinitions definitions engine = .ok registry)
  (built' : ofDefinitions others engine = .ok other)

include perm built built'

theorem mem_profiles_of_perm : profile ∈ registry.profiles ↔ profile ∈ other.profiles := by
  rw [mem_profiles_iff built, mem_profiles_iff built']
  simp only [perm.mem_iff]

theorem mem_matchingIn_of_perm (language : Language) :
    language ∈ registry.matchingIn text ↔ language ∈ other.matchingIn text := by
  rw [mem_matchingIn, mem_matchingIn]
  simp only [mem_profiles_of_perm perm built built']

theorem matching_of_perm (code : String) : registry.matching code = other.matching code :=
  matchingIn_congr (mem_matchingIn_of_perm perm built built')

include distinct

/-- Under the name of a profile both registries hold the profile itself. -/
theorem profileAt?_of_perm (listed : profile ∈ registry.profiles) :
    registry.profileAt? (Text.lowercase profile.language.name) =
      other.profileAt? (Text.lowercase profile.language.name) := by
  have distinct' : (others.map (Text.lowercase ·.name)).Nodup :=
    (perm.map _).nodup_iff.mp distinct
  rw [profileAt?_of_distinct built distinct listed, profileAt?_of_distinct built' distinct'
    ((mem_profiles_of_perm perm built built').mp listed)]

theorem rank_of_perm (code : String) : registry.rank code = other.rank code := by
  unfold rank
  split
  · rfl
  · refine rankIn_congr (mem_matchingIn_of_perm perm built built') fun language matching => ?_
    obtain ⟨profile, listed, rfl, -⟩ := mem_matchingIn.mp matching
    exact profileAt?_of_perm perm distinct built built' listed

theorem detect_of_perm (code : String) : registry.detect code = other.detect code := by
  rw [detect, detect, rank_of_perm perm distinct built built']

theorem validate_of_perm (code : String) {expected : String} {definition : LanguageDefinition}
    (defined : definition ∈ definitions)
    (spelled : Text.lowercase (Text.trim expected) = Text.lowercase definition.name) :
    registry.validate code expected = other.validate code expected := by
  have distinct' : (others.map (Text.lowercase ·.name)).Nodup :=
    (perm.map _).nodup_iff.mp distinct
  obtain ⟨profile, read⟩ := exists_ofDefinitions_iff.mp ⟨registry, built⟩ definition defined
  have listed := (mem_profiles_iff built).mpr ⟨definition, defined, read⟩
  have held := profileAt?_of_perm perm distinct built built' listed
  rw [LanguageDefinition.language_of_profile read] at held
  rw [validate, validate, resolve_bind_profile? built distinct,
    resolve_bind_profile? built' distinct', spelled, held,
    detect_of_perm perm distinct built built']

end

/-- Definitions whose names differ in more than case can be entered in any order: either the engine
compiles them in none, or detection and validation by name answer alike. -/
theorem order_independent (perm : definitions.Perm others)
    (distinct : (definitions.map (Text.lowercase ·.name)).Nodup) :
    (∀ registry, ofDefinitions definitions engine ≠ .ok registry) ∧
        (∀ other, ofDefinitions others engine ≠ .ok other) ∨
      ∃ registry other, ofDefinitions definitions engine = .ok registry ∧
        ofDefinitions others engine = .ok other ∧
        ∀ code, registry.rank code = other.rank code ∧
          registry.detect code = other.detect code ∧
          registry.matching code = other.matching code ∧
          ∀ expected, (∃ definition ∈ definitions,
              Text.lowercase (Text.trim expected) = Text.lowercase definition.name) →
            registry.validate code expected = other.validate code expected := by
  -- whether the definitions are compiled does not depend on their order
  by_cases compiled : ∃ registry, ofDefinitions definitions engine = .ok registry
  · obtain ⟨registry, built⟩ := compiled
    obtain ⟨other, built'⟩ := exists_ofDefinitions_of_perm perm ⟨registry, built⟩
    refine .inr ⟨registry, other, built, built', fun code => ⟨?_, ?_, ?_, ?_⟩⟩
    · exact rank_of_perm perm distinct built built' code
    · exact detect_of_perm perm distinct built built' code
    · exact matching_of_perm perm built built' code
    · rintro expected ⟨definition, defined, spelled⟩
      exact validate_of_perm perm distinct built built' code defined spelled
  · refine .inl ⟨fun registry built => compiled ⟨registry, built⟩, fun other built' => ?_⟩
    exact compiled (exists_ofDefinitions_of_perm perm.symm ⟨other, built'⟩)

/-- Two languages that share an alias; the name of the second is an alias of the first as well. -/
def rivals : List LanguageDefinition := [
  { name := "Alpha", aliases := ["common", "beta"], fileExtension := "a", markers := ["x"],
    signature := "y" },
  { name := "Beta", aliases := ["common"], fileExtension := "b", markers := ["x"],
    signature := "x" }]

/-- The order decides which of them the shared alias stands for, and nothing else. -/
theorem order_independent_rivals :
    rivals.Perm rivals.reverse ∧ (rivals.map (Text.lowercase ·.name)).Nodup ∧
      ∃ registry other, ofDefinitions rivals = .ok registry ∧
        ofDefinitions rivals.reverse = .ok other ∧
        registry.resolve "common" = some ⟨"Alpha"⟩ ∧ other.resolve "common" = some ⟨"Beta"⟩ ∧
        ∀ code, registry.rank code = other.rank code ∧
          registry.validate code "beta" = other.validate code "beta" := by
  have perm : rivals.Perm rivals.reverse := (List.reverse_perm rivals).symm
  have distinct : (rivals.map (Text.lowercase ·.name)).Nodup := by decide
  refine ⟨perm, distinct, ?_⟩
  rcases @order_independent .standard _ _ perm distinct with
    ⟨refused, -⟩ | ⟨registry, other, built, built', same⟩
  · exact absurd rfl (refused _)
  · have first : (ofDefinitions rivals).toOption.map (·.resolve "common") =
        some (some ⟨"Alpha"⟩) := by decide
    have second : (ofDefinitions rivals.reverse).toOption.map (·.resolve "common") =
        some (some ⟨"Beta"⟩) := by decide
    rw [built] at first
    rw [built'] at second
    refine ⟨registry, other, built, built', Option.some.inj first, Option.some.inj second, ?_⟩
    intro code
    obtain ⟨ranked, -, -, validated⟩ := same code
    refine ⟨ranked, validated "beta" ⟨_, List.mem_cons_of_mem _ List.mem_cons_self, ?_⟩⟩
    decide

end Polyglot.Registry
