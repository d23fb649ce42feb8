import Polyglot.Proofs.Language.Validity

/-!
# TypeScript extends JavaScript

A definition extends another if it asks of a text for one of the other's markers besides one of its
own, and the other asks for nothing besides (`LanguageDefinition.Extends`). What passes for the one
language then passes for the other (`Registry.mem_matching_of_extends`), so that the one is never a
lone candidate. As a candidate of a lower name wins at equal scores (`Registry.score_lt_of_detect`),
TypeScript is detected only where it scores more than JavaScript, whatever else the snippet passes
for: **`typescript_extends_javascript`**.
-/

namespace Polyglot

variable {engine : PatternEngine} {definitions : List LanguageDefinition} {registry : Registry}
  {text : IndexedText} {code : String}

/-! ## Definitions that share markers -/

/-- One of the markers of the wider language is required for the narrower one, and they are all that
counts for the wider one. -/
structure LanguageDefinition.Extends (narrow wide : LanguageDefinition) : Prop where
  shared : narrow.requires = wide.markers
  ignoreCase : narrow.ignoreCase = wide.ignoreCase
  required : narrow.requires ≠ []
  free : wide.requires = []

/-- Markers that are written alike are compiled alike. -/
theorem LanguageDefinition.Extends.accepts {narrow wide : LanguageDefinition}
    {profile profile' : LanguageProfile} (extends' : narrow.Extends wide)
    (compiles : narrow.Compiles engine profile) (compiles' : wide.Compiles engine profile')
    (accepted : profile.accepts text = true) : profile'.accepts text = true := by
  have required : profile.requires = some profile'.markers := by
    have compiled := compiles.requires
    have filled : ¬ wide.markers.isEmpty = true := fun none =>
      extends'.required (extends'.shared ▸ List.isEmpty_iff.mp none)
    rw [extends'.shared, extends'.ignoreCase, PatternEngine.compileSet?, compiles'.markers,
      if_neg filled] at compiled
    exact (Except.ok.inj compiled).symm
  have free : profile'.requires = none := by
    have compiled := compiles'.requires
    rw [extends'.free] at compiled
    exact (Except.ok.inj compiled).symm
  rw [LanguageProfile.accepts, required, Bool.and_eq_true] at accepted
  rw [LanguageProfile.accepts, free, Option.all_none, Bool.and_true]
  exact accepted.2

namespace Registry

/-- What passes for the narrower language passes for the wider one. -/
theorem mem_matching_of_extends (built : ofDefinitions definitions engine = .ok registry)
    {narrow wide : LanguageDefinition} (extends' : narrow.Extends wide)
    (only : ∀ definition ∈ definitions, definition.name = narrow.name → definition = narrow)
    (listed : wide ∈ definitions) (matching : ⟨narrow.name⟩ ∈ registry.matching code) :
    ⟨wide.name⟩ ∈ registry.matching code := by
  obtain ⟨definition, defined, named, profile, read, accepted⟩ :=
    (mem_matchingIn_iff built).mp matching
  obtain rfl := only definition defined named
  obtain ⟨profile', read'⟩ := exists_ofDefinitions_iff.mp ⟨registry, built⟩ wide listed
  refine (mem_matchingIn_iff built).mpr ⟨wide, listed, rfl, profile', read', ?_⟩
  exact extends'.accepts (LanguageDefinition.profile_eq_ok_iff.mp read)
    (LanguageDefinition.profile_eq_ok_iff.mp read') accepted

/-! ## The scores of candidates -/

/-- A candidate whose name comes before that of the detected language has a lower score. -/
theorem score_lt_of_detect {best candidate : Candidate}
    (detected : registry.detect code = some best.language) (listed : best ∈ registry.rank code)
    (ranked : candidate ∈ registry.rank code)
    (before : candidate.language.nameBytes < best.language.nameBytes) :
    candidate.score < best.score := by
  obtain ⟨winner, listed', same, most⟩ := detect_eq_some_iff.mp detected
  have winning : winner = best := by
    rw [(mem_rank.mp listed').2.2, same, ← (mem_rank.mp listed).2.2]
  subst winning
  obtain ⟨least, first⟩ := most candidate ranked
  refine Int.lt_iff_le_and_ne.mpr ⟨least, fun equal => ?_⟩
  exact List.not_lt.mpr (first equal) before

/-- Where there are two candidates, each has the score of its profile. -/
theorem score_of_rank (built : ofDefinitions definitions engine = .ok registry)
    (distinct : (definitions.map (Text.lowercase ·.name)).Nodup)
    (contested : 2 ≤ (registry.rank code).length) {candidate : Candidate}
    (ranked : candidate ∈ registry.rank code) {profile : LanguageProfile}
    (listed : profile ∈ registry.profiles) (named : profile.language = candidate.language) :
    candidate.score = profile.score (.ofString code) := by
  obtain ⟨given, -, same⟩ := mem_rank.mp ranked
  have recorded : registry.profile? candidate.language = some profile :=
    named ▸ profileAt?_of_distinct built distinct listed
  rw [rank_of_ne_empty given, length_rankIn] at contested
  rw [same]
  show (if _ then _ else _) = _
  rw [if_neg (Nat.not_lt.mpr contested), scoreIn, recorded]

end Registry

/-! ## The two languages -/

namespace Catalogue

theorem typescript_extends : typescript.Extends javascript where
  shared := rfl
  ignoreCase := rfl
  required := by decide
  free := rfl

end Catalogue

namespace Registry

theorem builtin_matching_javascript (matching : ⟨"TypeScript"⟩ ∈ builtin.matching code) :
    ⟨"JavaScript"⟩ ∈ builtin.matching code := by
  have listed : Catalogue.typescript ∈ Catalogue.all := by decide
  exact mem_matching_of_extends builtin_built Catalogue.typescript_extends
    (fun _ defined named => Catalogue.eq_of_name defined listed named) (by decide) matching

end Registry

/-- Whatever passes for TypeScript passes for JavaScript. So TypeScript is never a lone candidate
without a score, and it is detected only where its score is greater than that of JavaScript and of
every other candidate whose name comes before its own. -/
theorem typescript_extends_javascript (code : String) :
    (⟨"TypeScript"⟩ ∈ Registry.builtin.matching code →
      ⟨"JavaScript"⟩ ∈ Registry.builtin.matching code) ∧
    (∀ score, Registry.builtin.rank code ≠ [⟨⟨"TypeScript"⟩, score⟩]) ∧
    (∀ best ∈ Registry.builtin.rank code, best.language = ⟨"TypeScript"⟩ →
      ∀ candidate ∈ Registry.builtin.rank code, ∀ profile ∈ Registry.builtin.profiles,
        profile.language = candidate.language →
          candidate.score = profile.score (.ofString code)) ∧
    (Registry.builtin.detect code = some ⟨"TypeScript"⟩ →
      ∃ best ∈ Registry.builtin.rank code, best.language = ⟨"TypeScript"⟩ ∧
        (∃ rival ∈ Registry.builtin.rank code,
          rival.language = ⟨"JavaScript"⟩ ∧ rival.score < best.score) ∧
        ∀ candidate ∈ Registry.builtin.rank code,
          candidate.language.nameBytes < best.language.nameBytes →
            candidate.score < best.score) := by
  -- where TypeScript is a candidate, so is JavaScript
  have rivalled : ∀ best ∈ Registry.builtin.rank code, best.language = ⟨"TypeScript"⟩ →
      ∃ rival ∈ Registry.builtin.rank code, rival.language = ⟨"JavaScript"⟩ := by
    intro best listed named
    obtain ⟨given, matching, -⟩ := Registry.mem_rank.mp listed
    have wider := Registry.builtin_matching_javascript (named ▸ matching)
    exact ⟨Registry.builtin.candidateIn (.ofString code) ⟨"JavaScript"⟩,
      Registry.mem_rank.mpr ⟨given, wider, rfl⟩, rfl⟩
  refine ⟨Registry.builtin_matching_javascript, ?_, ?_, ?_⟩
  · intro score alone
    obtain ⟨rival, ranked, named⟩ := rivalled ⟨⟨"TypeScript"⟩, score⟩
      (alone ▸ List.mem_singleton_self _) rfl
    rw [alone, List.mem_singleton] at ranked
    rw [ranked, Language.mk.injEq] at named
    exact absurd named (by decide)
  · intro best listed named candidate ranked profile held same
    obtain ⟨rival, listed', named'⟩ := rivalled best listed named
    have other : best ≠ rival := by
      rintro rfl
      exact absurd (named.symm.trans named') (by decide)
    have several : [best, rival].length ≤ (Registry.builtin.rank code).length :=
      List.Nodup.length_le_of_subset (by simp [other]) (by simp [listed, listed'])
    exact Registry.score_of_rank Registry.builtin_built Catalogue.names_distinct several ranked
      held same
  · intro detected
    obtain ⟨best, listed, named, -⟩ := Registry.detect_eq_some_iff.mp detected
    have ahead : ∀ candidate ∈ Registry.builtin.rank code,
        candidate.language.nameBytes < best.language.nameBytes →
          candidate.score < best.score := fun candidate ranked before =>
      Registry.score_lt_of_detect (named ▸ detected) listed ranked before
    obtain ⟨rival, ranked, named'⟩ := rivalled best listed named
    refine ⟨best, listed, named, ⟨rival, ranked, named', ahead rival ranked ?_⟩, ahead⟩
    rw [named, named']
    decide

/-- A snippet that passes for both languages and scores nothing for either. -/
def scorelessSnippet : String := "let x = 1; enum E \x7b\x7d"

/-- Without a score TypeScript is not preferred. -/
theorem typescript_extends_javascript_scoreless :
    ⟨"TypeScript"⟩ ∈ Registry.builtin.matching scorelessSnippet ∧
      ⟨"JavaScript"⟩ ∈ Registry.builtin.matching scorelessSnippet ∧
      Registry.builtin.detect scorelessSnippet ≠ some ⟨"TypeScript"⟩ := by
  have listed : Catalogue.typescript ∈ Catalogue.all := by decide
  have listed' : Catalogue.javascript ∈ Catalogue.all := by decide
  obtain ⟨typescript, held, read⟩ := Registry.exists_mem_builtin listed
  obtain ⟨javascript, held', read'⟩ := Registry.exists_mem_builtin listed'
  have answers : Catalogue.typescript.profile.toOption.any (fun profile =>
      profile.accepts (.ofString scorelessSnippet) &&
        profile.score (.ofString scorelessSnippet) == 0) = true := by decide +kernel
  have answer : Catalogue.javascript.profile.toOption.any
      (·.score (.ofString scorelessSnippet) == 0) = true := by decide +kernel
  rw [read, Except.toOption, Option.any_some, Bool.and_eq_true, beq_iff_eq] at answers
  rw [read', Except.toOption, Option.any_some, beq_iff_eq] at answer
  have name := LanguageDefinition.language_of_profile read
  have name' := LanguageDefinition.language_of_profile read'
  have matching : ⟨"TypeScript"⟩ ∈ Registry.builtin.matching scorelessSnippet :=
    Registry.mem_matchingIn.mpr ⟨typescript, held, name, answers.1⟩
  obtain ⟨wider, -, scored, detected⟩ := typescript_extends_javascript scorelessSnippet
  refine ⟨matching, wider matching, fun winner => ?_⟩
  obtain ⟨best, ranked, named, ⟨rival, ranked', named', behind⟩, -⟩ := detected winner
  rw [scored best ranked named best ranked typescript held (name.trans named.symm),
    scored best ranked named rival ranked' javascript held' (name'.trans named'.symm),
    answers.2, answer] at behind
  exact absurd behind (Int.lt_irrefl 0)

end Polyglot
