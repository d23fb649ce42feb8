import Polyglot.Proofs.Language.Ranking

/-!
# What detection answers

`IsRanking` says what the ranking of a text is without saying how it is made: which names it lists,
in which order, and with which scores. **`rankIn_isRanking`** shows that every registry ranks so,
whatever names and aliases collide, and `detect_eq_none_iff` and `detect_eq_some_iff` say what that
makes of the best candidate.

A candidate is scored by the profile on record for its name. That is the profile of the last
definition with the name up to case, which is not always one that the text passes for: in the table
`namesakes` below the text passes for `Go` and is scored by the signature of `GO`. So the patterns
of a language that the text does not pass for count for nothing, except where its name stands for
that of another one (**`rank_eq_of_outside`**).
-/

namespace Polyglot

variable {engine : PatternEngine} {definitions others : List LanguageDefinition}
  {registry other : Registry} {text : IndexedText} {code : String} {language : Language}

/-! ## The specification -/

/-- The weights of the boosters that match, summed up. -/
def LanguageProfile.weights (profile : LanguageProfile) (text : IndexedText) : Int :=
  ((profile.boosters.filter (·.1 text)).map (·.2)).foldr (· + ·) 0

/-- Some definition of the name has patterns that the text passes for. -/
def PassesFor (engine : PatternEngine) (definitions : List LanguageDefinition)
    (text : IndexedText) (name : String) : Prop :=
  ∃ definition ∈ definitions, definition.name = name ∧
    ∃ profile, definition.profile engine = .ok profile ∧ profile.accepts text = true

/-- The ranking of a text among the languages of some definitions, of which the registry holds the
profiles. -/
structure IsRanking (engine : PatternEngine) (definitions : List LanguageDefinition)
    (registry : Registry) (text : IndexedText) (ranking : List Candidate) : Prop where
  /-- The names that the text passes for are listed, and no others. -/
  listed : ∀ name, name ∈ ranking.map (·.language.name) ↔ PassesFor engine definitions text name
  /-- No name is listed twice. -/
  once : (ranking.map (·.language.name)).Nodup
  /-- Higher scores come first, and of equal ones the name whose bytes come first. -/
  ordered : ranking.Pairwise Candidate.Outranks
  /-- A sole candidate is not scored. -/
  unscored : ∀ candidate, ranking = [candidate] → candidate.score = 0
  /-- Of several each is scored by the profile on record for its name. -/
  scored : 2 ≤ ranking.length → ∀ candidate ∈ ranking,
    ∃ held, registry.profile? candidate.language = some held ∧
      candidate.score = (if held.signature text then 2 else 0) + held.weights text

/-! ## Scores -/

theorem LanguageProfile.boosterScore_eq (profile : LanguageProfile) (text : IndexedText) :
    profile.boosterScore text = profile.weights text := by
  unfold boosterScore weights
  induction profile.boosters with
  | nil => rfl
  | cons booster boosters ih =>
    rw [List.foldr_cons, ih, List.filter_cons]
    show (if _ then _ else _) = _
    split
    · rfl
    · rfl

namespace Registry

theorem rank_of_ne_empty (nonempty : code ≠ "") :
    registry.rank code = registry.rankIn (.ofString code) := by
  rw [rank, if_neg]
  simpa using nonempty

theorem rank_empty (registry : Registry) : registry.rank "" = [] :=
  rfl

/-- The candidates for a snippet are the languages that it passes for. -/
theorem mem_rank {candidate : Candidate} :
    candidate ∈ registry.rank code ↔
      code ≠ "" ∧ candidate.language ∈ registry.matching code ∧
        candidate = registry.candidateIn (.ofString code) candidate.language := by
  by_cases empty : code = ""
  · subst empty
    simp [rank_empty]
  · rw [rank_of_ne_empty empty, mem_rankIn, matching]
    exact (and_iff_right empty).symm

section

variable (built : ofDefinitions definitions engine = .ok registry)

include built

/-- The languages that a text passes for are those of its definitions. -/
theorem mem_matchingIn_iff :
    language ∈ registry.matchingIn text ↔ PassesFor engine definitions text language.name := by
  rw [mem_matchingIn]
  constructor
  · rintro ⟨profile, listed, rfl, passes⟩
    obtain ⟨definition, defined, read⟩ := (mem_profiles_iff built).mp listed
    refine ⟨definition, defined, ?_, profile, read, passes⟩
    rw [LanguageDefinition.language_of_profile read]
  · rintro ⟨definition, defined, named, profile, read, passes⟩
    refine ⟨profile, (mem_profiles_iff built).mpr ⟨definition, defined, read⟩, ?_, passes⟩
    rw [LanguageDefinition.language_of_profile read, named]

/-- A language that a text passes for is on record. -/
theorem exists_profile?_of_matching (matching : language ∈ registry.matchingIn text) :
    ∃ held, registry.profile? language = some held := by
  obtain ⟨profile, listed, rfl, -⟩ := mem_matchingIn.mp matching
  exact exists_profile? built listed

/-! ## The ranking -/

theorem rankIn_isRanking (text : IndexedText) :
    IsRanking engine definitions registry text (registry.rankIn text) where
  listed name := by
    rw [show name = (Language.mk name).name from rfl, ← mem_matchingIn_iff built, List.mem_map]
    constructor
    · rintro ⟨candidate, ranked, named⟩
      have same : candidate.language = ⟨name⟩ := congrArg Language.mk named
      exact same ▸ (mem_rankIn.mp ranked).1
    · intro matching
      exact ⟨registry.candidateIn text ⟨name⟩, mem_rankIn.mpr ⟨matching, rfl⟩, rfl⟩
  once := by
    have injective : Function.Injective Language.name := fun a b same => congrArg Language.mk same
    have distinct := (nodup_languages_rankIn registry text).map injective
    rwa [List.map_map] at distinct
  ordered := pairwise_rankIn registry text
  unscored candidate alone := by
    have ranked : candidate ∈ registry.rankIn text := alone ▸ List.mem_singleton_self candidate
    -- a lone candidate is not scored
    have few : (registry.matchingIn text).length < 2 := by
      rw [← length_rankIn, alone]
      exact Nat.one_lt_two
    rw [(mem_rankIn.mp ranked).2]
    exact if_pos few
  scored several candidate ranked := by
    obtain ⟨matching, same⟩ := mem_rankIn.mp ranked
    obtain ⟨held, found⟩ := exists_profile?_of_matching built matching
    refine ⟨held, found, ?_⟩
    have contested : ¬ (registry.matchingIn text).length < 2 := by
      rw [← length_rankIn]
      omega
    rw [same]
    show (if _ then _ else _) = _
    rw [if_neg contested, scoreIn, found, ← held.boosterScore_eq]
    rfl

/-! ## The best candidate -/

/-- Nothing is detected in the empty snippet and in one that passes for no language. -/
theorem detect_eq_none_iff :
    registry.detect code = none ↔
      code = "" ∨ ∀ name, ¬ PassesFor engine definitions (.ofString code) name := by
  rw [detect, Option.map_eq_none_iff, List.head?_eq_none_iff]
  by_cases empty : code = ""
  · subst empty
    simp only [rank_empty, true_or]
  · have ranking := rankIn_isRanking built (.ofString code)
    rw [rank_of_ne_empty empty]
    constructor
    · intro none_ranked
      refine .inr fun name passes => ?_
      have listed := (ranking.listed name).mpr passes
      rw [none_ranked] at listed
      cases listed
    · rintro (absent | nothing)
      · exact absurd absent empty
      · refine List.eq_nil_iff_forall_not_mem.mpr fun candidate ranked => ?_
        exact nothing _ ((ranking.listed _).mp (List.mem_map_of_mem ranked))

end

/-- What is detected is the first by name of the candidates with the highest score. -/
theorem detect_eq_some_iff :
    registry.detect code = some language ↔
      ∃ best ∈ registry.rank code, best.language = language ∧
        ∀ candidate ∈ registry.rank code, candidate.score ≤ best.score ∧
          (candidate.score = best.score → language.nameBytes ≤ candidate.language.nameBytes) := by
  have ordered : (registry.rank code).Pairwise Candidate.Outranks := by
    unfold rank
    split
    · exact .nil
    · exact pairwise_rankIn registry _
  rw [detect]
  cases ranking : registry.rank code with
  | nil => simp
  | cons first rest =>
    rw [ranking] at ordered
    have ahead := (List.pairwise_cons.mp ordered).1
    rw [List.head?_cons, Option.map_some, Option.some.injEq]
    constructor
    · rintro rfl
      refine ⟨first, List.mem_cons_self, rfl, fun candidate ranked => ?_⟩
      rcases List.mem_cons.mp ranked with rfl | later
      · exact ⟨Int.le_refl _, fun _ => List.le_refl _⟩
      · rcases ahead candidate later with better | ⟨same, names⟩
        · exact ⟨Int.le_of_lt better, fun same => absurd same (Int.ne_of_lt better)⟩
        · exact ⟨Int.le_of_eq same.symm, fun _ => List.le_of_lt names⟩
    · rintro ⟨best, ranked, rfl, most⟩
      rcases List.mem_cons.mp ranked with rfl | later
      · rfl
      · -- the first candidate would outrank the best one
        have ⟨least, names⟩ := most first List.mem_cons_self
        rcases ahead best later with better | ⟨same, before⟩
        · exact absurd least (Int.not_le.mpr better)
        · exact absurd before (List.not_lt.mpr (names same))

/-! ## What does not count -/

/-- Two tables of the same names that differ in languages which the snippet does not pass for,
neither under the one table nor under the other. -/
structure DifferOutside (definitions others : List LanguageDefinition) (registry other : Registry)
    (code : String) : Prop where
  names : others.map (·.name) = definitions.map (·.name)
  outside : ∀ (place : Nat) (definition replacement : LanguageDefinition),
    definitions[place]? = some definition → others[place]? = some replacement →
      definition ≠ replacement →
      ⟨definition.name⟩ ∉ registry.matching code ∧ ⟨definition.name⟩ ∉ other.matching code

namespace DifferOutside

/-- At every place stand two definitions of one name. -/
theorem exists_replacement (differ : DifferOutside definitions others registry other code)
    {place : Nat} {definition : LanguageDefinition}
    (there : definitions[place]? = some definition) :
    ∃ replacement, others[place]? = some replacement ∧ replacement.name = definition.name := by
  have name := congrArg (·[place]?) differ.names
  simpa only [List.getElem?_map, there, Option.map_some, Option.map_eq_some_iff] using name

theorem symm (differ : DifferOutside definitions others registry other code) :
    DifferOutside others definitions other registry code where
  names := differ.names.symm
  outside place definition replacement there there' changed := by
    obtain ⟨found, here, name⟩ := differ.exists_replacement there'
    cases here.symm.trans there
    rw [name]
    exact (differ.outside place replacement definition there' there changed.symm).symm

/-- What the snippet passes for under the one table it passes for under the other. -/
theorem passesFor (differ : DifferOutside definitions others registry other code)
    (built : ofDefinitions definitions engine = .ok registry) {name : String}
    (passes : PassesFor engine definitions (.ofString code) name) :
    PassesFor engine others (.ofString code) name := by
  have matching : ⟨name⟩ ∈ registry.matching code := (mem_matchingIn_iff built).mpr passes
  obtain ⟨definition, defined, rfl, pattern⟩ := passes
  obtain ⟨place, there⟩ := List.getElem?_of_mem defined
  obtain ⟨replacement, there', -⟩ := differ.exists_replacement there
  have unchanged : definition = replacement := by
    by_contra changed
    exact (differ.outside place definition replacement there there' changed).1 matching
  subst unchanged
  exact ⟨definition, List.mem_of_getElem? there', rfl, pattern⟩

theorem matching_iff (differ : DifferOutside definitions others registry other code)
    (built : ofDefinitions definitions engine = .ok registry)
    (built' : ofDefinitions others engine = .ok other) (language : Language) :
    language ∈ registry.matching code ↔ language ∈ other.matching code := by
  rw [matching, matching, mem_matchingIn_iff built, mem_matchingIn_iff built']
  exact ⟨differ.passesFor built, differ.symm.passesFor built'⟩

end DifferOutside

/-- Under a name stands the same profile if the definition there is the same. -/
theorem profile?_eq_of_unchanged
    (built : ofDefinitions definitions engine = .ok registry)
    (built' : ofDefinitions others engine = .ok other)
    (names : others.map (·.name) = definitions.map (·.name))
    (named : language.name ∈ definitions.map (·.name))
    (unchanged : ∀ place : Nat, registry.index.lookup (Text.lowercase language.name) = some place →
      definitions[place]? = others[place]?) :
    registry.profile? language = other.profile? language := by
  obtain ⟨place, last⟩ := SpellingIndex.exists_lastPlace? named 0
  have found := lookup_index built last
  have found' := lookup_index built' (names ▸ last)
  obtain ⟨name, offset, rfl, listed, -⟩ := SpellingIndex.getElem?_of_lastPlace? last
  rw [Nat.zero_add] at found found'
  rw [List.getElem?_map, Option.map_eq_some_iff] at listed
  obtain ⟨definition, there, -⟩ := listed
  obtain ⟨profile, held, read⟩ := getElem?_profiles built there
  obtain ⟨profile', held', read'⟩ := getElem?_profiles built' (unchanged offset found ▸ there)
  have same : profile = profile' := Except.ok.inj (read.symm.trans read')
  rw [profile?, profile?, profileAt?, profileAt?, found, found']
  exact held.trans (same ▸ held'.symm)

/-- The patterns of a language that a snippet does not pass for count for nothing, unless they are
on record for the name of one that it passes for. -/
theorem rank_eq_of_outside
    (built : ofDefinitions definitions engine = .ok registry)
    (built' : ofDefinitions others engine = .ok other)
    (differ : DifferOutside definitions others registry other code)
    (unchanged : ∀ language ∈ registry.matching code, ∀ place : Nat,
      registry.index.lookup (Text.lowercase language.name) = some place →
        definitions[place]? = others[place]?) :
    registry.rank code = other.rank code := by
  unfold rank
  split
  · rfl
  · refine rankIn_congr (differ.matching_iff built built') fun language matching => ?_
    obtain ⟨definition, defined, named, -⟩ := (mem_matchingIn_iff built).mp matching
    exact profile?_eq_of_unchanged built built' differ.names
      (named ▸ List.mem_map_of_mem defined) (unchanged language matching)

/-- What a registry answers for a snippet, whichever names and aliases collide. -/
theorem rank_of_definitions (built : ofDefinitions definitions engine = .ok registry) :
    registry.rank "" = [] ∧
    (∀ code, code ≠ "" →
      IsRanking engine definitions registry (.ofString code) (registry.rank code)) ∧
    (∀ code, registry.detect code = none ↔
      code = "" ∨ ∀ name, ¬ PassesFor engine definitions (.ofString code) name) ∧
    (∀ code language, registry.detect code = some language ↔
      ∃ best ∈ registry.rank code, best.language = language ∧
        ∀ candidate ∈ registry.rank code, candidate.score ≤ best.score ∧
          (candidate.score = best.score → language.nameBytes ≤ candidate.language.nameBytes)) ∧
    ∀ code others other, ofDefinitions others engine = .ok other →
      DifferOutside definitions others registry other code →
      (∀ language ∈ registry.matching code, ∀ place : Nat,
        registry.index.lookup (Text.lowercase language.name) = some place →
          definitions[place]? = others[place]?) →
      registry.rank code = other.rank code := by
  refine ⟨rank_empty registry, ?_, ?_, ?_, ?_⟩
  · intro code nonempty
    rw [rank_of_ne_empty nonempty]
    exact rankIn_isRanking built _
  · intro code
    exact detect_eq_none_iff built
  · intro code language
    exact detect_eq_some_iff
  · intro code others other built' differ unchanged
    exact rank_eq_of_outside built built' differ unchanged

/-! ### Names that differ in case only -/

/-- The snippet `x` passes for `Go` and `Alpha`, but not for `GO`, which is on record under the
name of `Go`, and not for `Zeta`. Whether it shows the signatures of the latter two is given. -/
def namesakes (showsGO showsZeta : Bool) : List LanguageDefinition := [
  { name := "Go", fileExtension := "go", markers := ["x"], signature := "y" },
  { name := "GO", fileExtension := "go", markers := ["y"],
    signature := if showsGO then "x" else "y" },
  { name := "Alpha", fileExtension := "a", markers := ["x"], signature := "y" },
  { name := "Zeta", fileExtension := "z", markers := ["y"],
    signature := if showsZeta then "x" else "y" }]

section

variable {showsGO showsZeta showsGO' showsZeta' : Bool}
  (built : ofDefinitions (namesakes showsGO showsZeta) = .ok registry)
  (built' : ofDefinitions (namesakes showsGO' showsZeta') = .ok other)

include built

theorem accepted_namesakes :
    (registry.profiles.filter (·.accepts (.ofString "x"))).map (·.language) =
      [⟨"Go"⟩, ⟨"Alpha"⟩] := by
  have accepted : ∀ showsGO showsZeta,
      ((ofDefinitions (namesakes showsGO showsZeta)).toOption.map fun registry =>
        (registry.profiles.filter (·.accepts (.ofString "x"))).map (·.language)) =
          some [⟨"Go"⟩, ⟨"Alpha"⟩] := by decide
  have languages := accepted showsGO showsZeta
  rw [built] at languages
  exact Option.some.inj languages

/-- `Go` is scored by the signature of `GO`. -/
theorem scoreIn_namesakes :
    registry.scoreIn (.ofString "x") ⟨"Go"⟩ = (if showsGO then 2 else 0) ∧
      registry.scoreIn (.ofString "x") ⟨"Alpha"⟩ = 0 := by
  have scores : ∀ showsGO showsZeta,
      ((ofDefinitions (namesakes showsGO showsZeta)).toOption.map fun registry =>
        (registry.scoreIn (.ofString "x") ⟨"Go"⟩, registry.scoreIn (.ofString "x") ⟨"Alpha"⟩)) =
          some (if showsGO then 2 else 0, 0) := by decide
  have both := scores showsGO showsZeta
  rw [built] at both
  exact Prod.mk.inj (Option.some.inj both)

theorem mem_matching_namesakes :
    language ∈ registry.matching "x" ↔ language = ⟨"Go"⟩ ∨ language = ⟨"Alpha"⟩ := by
  rw [matching, matchingIn, List.mem_mergeSort, List.mem_eraseDups, accepted_namesakes built]
  simp

theorem mem_rank_namesakes {candidate : Candidate} :
    candidate ∈ registry.rank "x" ↔
      candidate = ⟨⟨"Go"⟩, if showsGO then 2 else 0⟩ ∨ candidate = ⟨⟨"Alpha"⟩, 0⟩ := by
  have contested : ¬ (registry.matchingIn (.ofString "x")).length < 2 := by
    rw [matchingIn, List.length_mergeSort, accepted_namesakes built]
    decide
  obtain ⟨ofGo, ofAlpha⟩ := scoreIn_namesakes built
  obtain ⟨language, score⟩ := candidate
  rw [rank_of_ne_empty (by decide), mem_rankIn, ← matching, mem_matching_namesakes built,
    candidateIn, if_neg contested]
  simp only [Candidate.mk.injEq, true_and]
  constructor
  · rintro ⟨rfl | rfl, scored⟩
    · exact .inl ⟨rfl, scored.trans ofGo⟩
    · exact .inr ⟨rfl, scored.trans ofAlpha⟩
  · rintro (⟨rfl, rfl⟩ | ⟨rfl, rfl⟩)
    · exact ⟨.inl rfl, ofGo.symm⟩
    · exact ⟨.inr rfl, ofAlpha.symm⟩

include built'

/-- The tables differ in `GO` and `Zeta` only. -/
theorem differOutside_namesakes :
    DifferOutside (namesakes showsGO showsZeta) (namesakes showsGO' showsZeta') registry other
      "x" where
  names := rfl
  outside place definition replacement there there' changed := by
    rw [mem_matching_namesakes built, mem_matching_namesakes built']
    match place with
    | 0 | 2 =>
      cases there
      cases there'
      exact absurd rfl changed
    | 1 | 3 =>
      cases there
      cases there'
      simp
    | _ + 4 => cases there

end

/-- The signature of `GO` decides whether `Go` or `Alpha` is detected, although the snippet does not
pass for `GO` either way. -/
theorem not_rank_eq_of_differOutside :
    ¬ ∀ (definitions others : List LanguageDefinition) (registry other : Registry) (code : String),
      ofDefinitions definitions = .ok registry → ofDefinitions others = .ok other →
      DifferOutside definitions others registry other code →
      registry.rank code = other.rank code := by
  intro unaffected
  obtain ⟨registry, built⟩ : ∃ registry, ofDefinitions (namesakes true false) = .ok registry :=
    ⟨_, rfl⟩
  obtain ⟨other, built'⟩ : ∃ other, ofDefinitions (namesakes false false) = .ok other := ⟨_, rfl⟩
  have same := unaffected _ _ registry other "x" built built'
    (differOutside_namesakes built built')
  have ranked : (⟨⟨"Go"⟩, 2⟩ : Candidate) ∈ registry.rank "x" :=
    (mem_rank_namesakes built).mpr (.inl rfl)
  rw [same, mem_rank_namesakes built'] at ranked
  exact absurd ranked (by decide)

/-- The signature of `Zeta` counts for nothing. -/
theorem rank_of_namesakes :
    ∃ registry other, ofDefinitions (namesakes true false) = .ok registry ∧
      ofDefinitions (namesakes true true) = .ok other ∧
      IsRanking .standard (namesakes true false) registry (.ofString "x") (registry.rank "x") ∧
      registry.detect "x" = some ⟨"Go"⟩ ∧ registry.rank "x" = other.rank "x" := by
  obtain ⟨registry, built⟩ : ∃ registry, ofDefinitions (namesakes true false) = .ok registry :=
    ⟨_, rfl⟩
  obtain ⟨other, built'⟩ : ∃ other, ofDefinitions (namesakes true true) = .ok other := ⟨_, rfl⟩
  obtain ⟨-, ranking, -, detected, unaffected⟩ := rank_of_definitions built
  refine ⟨registry, other, built, built', ranking "x" (by decide), ?_, ?_⟩
  · rw [detected]
    refine ⟨⟨⟨"Go"⟩, 2⟩, (mem_rank_namesakes built).mpr (.inl rfl), rfl, ?_⟩
    intro candidate ranked
    rcases (mem_rank_namesakes built).mp ranked with rfl | rfl
    · exact ⟨Int.le_refl _, fun _ => List.le_refl _⟩
    · exact ⟨by decide, fun same => absurd same (by decide)⟩
  · refine unaffected "x" _ other built' (differOutside_namesakes built built') ?_
    intro language matching place held
    rw [(ofDefinitions_eq_ok_iff.mp built).2] at held
    -- `Go` and `GO` have the place 1 in common, and `Alpha` has the place 2
    rcases (mem_matching_namesakes built).mp matching with rfl | rfl
    · have place_one : (SpellingIndex.addAll [] 0 (namesakes true false)).lookup
          (Text.lowercase "Go") = some 1 := by decide
      cases place_one.symm.trans held
      rfl
    · have place_two : (SpellingIndex.addAll [] 0 (namesakes true false)).lookup
          (Text.lowercase "Alpha") = some 2 := by decide
      cases place_two.symm.trans held
      rfl

end Registry

end Polyglot
