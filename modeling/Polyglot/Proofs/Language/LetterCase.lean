import Polyglot.Proofs.Language.Evidence
import Polyglot.Proofs.Language.Validity
import Polyglot.Proofs.Pattern.Transfer

/-!
# Languages that ignore case

Every pattern of SQL takes each character in either case (`Catalogue.sql_read`), and so do the
patterns by which a text passes for C# (`Catalogue.csharp_read`). Texts that differ in the case of
ASCII letters only are therefore all the same to SQL and pass for C# together, in detection and in
validation (**`sql_and_csharp_ignore_case`**). The signature and the boosters of C# do tell cases
apart.
-/

namespace Polyglot

variable {definition : LanguageDefinition} {profile : LanguageProfile} {code other : String}

/-! ## Answers to texts in which the same patterns are found -/

namespace LanguageProfile

variable {text text' : IndexedText}

theorem accepts_congr
    (same : ∀ matcher ∈ profile.criteria, matcher text = matcher text') :
    profile.accepts text = profile.accepts text' := by
  rw [Bool.eq_iff_iff]
  exact ⟨accepts_mono fun matcher listed found => same matcher listed ▸ found,
    accepts_mono fun matcher listed found => (same matcher listed).symm ▸ found⟩

theorem boosterScore_congr
    (same : ∀ booster ∈ profile.boosters, booster.1 text = booster.1 text') :
    profile.boosterScore text = profile.boosterScore text' := by
  rw [boosterScore_eq, boosterScore_eq, weights, weights, List.filter_congr same]

end LanguageProfile

/-! ## Which patterns ignore case -/

namespace Catalogue

theorem sql_read : ∀ entry ∈ sql.texts, Reads Pattern.ignoresCase entry := by
  simp only [sql, LanguageDefinition.texts, List.map_cons, List.map_nil, List.cons_append,
    List.nil_append, List.forall_mem_cons, List.not_mem_nil, false_implies, implies_true, and_true]
  and_intros <;> exact .of_list (by decide)

theorem csharp_read : ∀ text ∈ csharp.markers ++ csharp.requires,
    Reads Pattern.ignoresCase (text, csharp.ignoreCase) := by
  simp only [csharp, List.append_nil, List.forall_mem_cons, List.not_mem_nil, false_implies,
    implies_true, and_true]
  and_intros <;> exact .of_list (by decide)

end Catalogue

/-! ## What follows for the languages -/

/-- The case of ASCII letters makes no difference to patterns that ignore case. -/
theorem Matcher.Seeks.eq_of_equalIgnoringCase {matcher : Matcher}
    (seeks : matcher.Seeks Pattern.ignoresCase)
    (same : Text.equalIgnoringAsciiCase code other = true) :
    matcher (.ofString code) = matcher (.ofString other) :=
  seeks.congr fun _ ignores => Pattern.matchesIn_eq_of_toLower ignores (beq_iff_eq.mp same)

theorem LanguageProfile.answers_congr_of_sql (listed : profile ∈ Registry.builtin.profiles)
    (named : profile.language = ⟨"SQL"⟩) (same : Text.equalIgnoringAsciiCase code other = true) :
    profile.accepts (.ofString code) = profile.accepts (.ofString other) ∧
      profile.showsSignature (.ofString code) = profile.showsSignature (.ofString other) ∧
      profile.boosterScore (.ofString code) = profile.boosterScore (.ofString other) := by
  obtain ⟨definition, defined, compiles⟩ := Registry.mem_builtin_iff.mp listed
  rw [compiles.language, Language.mk.injEq] at named
  have sought : Catalogue.sql ∈ Catalogue.all := by decide
  obtain rfl := Catalogue.eq_of_name defined sought named
  have seek := compiles.matchers_seek Catalogue.sql_read
  rw [matchers, List.forall_mem_append, List.forall_mem_cons, List.forall_mem_map] at seek
  obtain ⟨criteria, signature, boosters⟩ := seek
  exact ⟨accepts_congr fun matcher held => (criteria matcher held).eq_of_equalIgnoringCase same,
    signature.eq_of_equalIgnoringCase same,
    boosterScore_congr fun booster held => (boosters booster held).eq_of_equalIgnoringCase same⟩

theorem LanguageProfile.accepts_congr_of_csharp (listed : profile ∈ Registry.builtin.profiles)
    (named : profile.language = ⟨"C#"⟩) (same : Text.equalIgnoringAsciiCase code other = true) :
    profile.accepts (.ofString code) = profile.accepts (.ofString other) := by
  obtain ⟨definition, defined, compiles⟩ := Registry.mem_builtin_iff.mp listed
  rw [compiles.language, Language.mk.injEq] at named
  have sought : Catalogue.csharp ∈ Catalogue.all := by decide
  obtain rfl := Catalogue.eq_of_name defined sought named
  have seek := compiles.criteria_seek Catalogue.csharp_read
  exact accepts_congr fun matcher held => (seek matcher held).eq_of_equalIgnoringCase same

theorem Text.eq_empty_iff_of_equalIgnoringCase
    (same : equalIgnoringAsciiCase code other = true) : code = "" ↔ other = "" := by
  have lengths := congrArg List.length (beq_iff_eq.mp same)
  rw [List.length_map, List.length_map] at lengths
  rw [← String.toList_eq_nil_iff, ← String.toList_eq_nil_iff, ← List.length_eq_zero_iff, lengths,
    List.length_eq_zero_iff]

namespace Registry

variable {language : Language}

/-- Two texts that pass for a language together are candidates of it together. -/
theorem mem_matching_congr {registry : Registry}
    (same : ∀ profile ∈ registry.profiles, profile.language = language →
      profile.accepts (.ofString code) = profile.accepts (.ofString other)) :
    language ∈ registry.matching code ↔ language ∈ registry.matching other := by
  rw [matching, matching, mem_matchingIn, mem_matchingIn]
  refine exists_congr fun profile => and_congr_right fun listed => and_congr_right fun named => ?_
  rw [same profile listed named]

/-- So they are validated against it together, unless one of them is empty and the other not. -/
theorem builtin_isValid_congr (given : code = "" ↔ other = "")
    (same : ∀ profile ∈ builtin.profiles, profile.language = language →
      profile.accepts (.ofString code) = profile.accepts (.ofString other))
    {expected : String} (resolved : builtin.resolve expected = some language) :
    (builtin.validate code expected).isValid = (builtin.validate other expected).isValid := by
  by_cases empty : code = ""
  · rw [empty, given.mp empty]
  · have nonempty : other ≠ "" := fun gone => empty (given.mpr gone)
    rw [Bool.eq_iff_iff, builtin_validate_isValid_iff empty resolved,
      builtin_validate_isValid_iff nonempty resolved, ← mem_matchingIn, ← mem_matchingIn]
    exact mem_matching_congr same

end Registry

/-- The case of ASCII letters is nothing to SQL, and nothing to what passes for C#. -/
theorem sql_and_csharp_ignore_case (same : Text.equalIgnoringAsciiCase code other = true) :
    (∀ profile ∈ Registry.builtin.profiles,
      (profile.language = ⟨"SQL"⟩ →
        profile.accepts (.ofString code) = profile.accepts (.ofString other) ∧
        profile.showsSignature (.ofString code) = profile.showsSignature (.ofString other) ∧
        profile.boosterScore (.ofString code) = profile.boosterScore (.ofString other)) ∧
      (profile.language = ⟨"C#"⟩ →
        profile.accepts (.ofString code) = profile.accepts (.ofString other))) ∧
    (∀ language : Language, language = ⟨"SQL"⟩ ∨ language = ⟨"C#"⟩ →
      (language ∈ Registry.builtin.matching code ↔ language ∈ Registry.builtin.matching other) ∧
      ∀ expected, Registry.builtin.resolve expected = some language →
        (Registry.builtin.validate code expected).isValid =
          (Registry.builtin.validate other expected).isValid) := by
  constructor
  · intro profile listed
    exact ⟨fun named => profile.answers_congr_of_sql listed named same,
      fun named => profile.accepts_congr_of_csharp listed named same⟩
  · rintro language either
    have accepted : ∀ profile ∈ Registry.builtin.profiles, profile.language = language →
        profile.accepts (.ofString code) = profile.accepts (.ofString other) := by
      rintro profile listed rfl
      rcases either with named | named
      · exact (profile.answers_congr_of_sql listed named same).1
      · exact profile.accepts_congr_of_csharp listed named same
    have given := Text.eq_empty_iff_of_equalIgnoringCase same
    exact ⟨Registry.mem_matching_congr accepted, fun expected resolved =>
      Registry.builtin_isValid_congr given accepted resolved⟩

theorem sql_and_csharp_ignore_case_select :
    Text.equalIgnoringAsciiCase "SELECT id FROM users" "select ID From Users" = true ∧
      ∃ profile ∈ Registry.builtin.profiles, profile.language = ⟨"SQL"⟩ ∧
        profile.accepts (.ofString "select ID From Users") = true ∧
        profile.showsSignature (.ofString "select ID From Users") = true := by
  have same : Text.equalIgnoringAsciiCase "SELECT id FROM users" "select ID From Users" = true := by
    decide
  have defined : Catalogue.sql ∈ Catalogue.all := by decide
  obtain ⟨profile, listed, read⟩ := Registry.exists_mem_builtin defined
  have named : profile.language = ⟨"SQL"⟩ := LanguageDefinition.language_of_profile read
  have shown : Catalogue.sql.profile.toOption.any (fun profile =>
      profile.accepts (.ofString "SELECT id FROM users") &&
        profile.showsSignature (.ofString "SELECT id FROM users")) = true := by decide +kernel
  rw [read] at shown
  obtain ⟨accepted, signed⟩ := Bool.and_eq_true_iff.mp shown
  obtain ⟨sql, -⟩ := (sql_and_csharp_ignore_case same).1 profile listed
  obtain ⟨accepts, signature, -⟩ := sql named
  exact ⟨same, profile, listed, named, accepts ▸ accepted, signature ▸ signed⟩

end Polyglot
