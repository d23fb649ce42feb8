import Polyglot.Proofs.Language.Registry
import Polyglot.Proofs.Pattern.Spans

/-!
# The built-in definitions are compiled

The standard engine compiles a definition when it can read every pattern in it, and then the
matchers of the profile look for these patterns (`Matcher.Seeks`). It can read all patterns of the
catalogue, so the built-in registry holds a profile of each of its definitions (**`builtin_built`**,
`mem_builtin_iff`). Reading them shows how they are made too: none asks for the start of the text
(`Catalogue.startFree_read`), and those of most languages not for its end either
(`Catalogue.endFree_read`).
-/

namespace Polyglot

variable {definition : LanguageDefinition} {profile : LanguageProfile} {test : Pattern → Bool}
  {matcher : Matcher} {ignoreCase : Bool}

/-! ## What patterns are like -/

/-- The text writes a pattern, and the pattern passes the test. -/
def Reads (test : Pattern → Bool) (entry : String × Bool) : Prop :=
  ∃ p, Pattern.read entry.1 entry.2 = .ok p ∧ test p = true

/-- Characters that are known need not be decoded from the bytes of their text. -/
theorem Reads.of_list {cs : List Char}
    (passes : (Pattern.readList cs ignoreCase).toOption.any test = true) :
    Reads test (String.ofList cs, ignoreCase) := by
  rw [Reads, Pattern.read, String.toList_ofList]
  cases read : Pattern.readList cs ignoreCase with
  | error fault =>
    rw [read] at passes
    cases passes
  | ok p =>
    rw [read] at passes
    exact ⟨p, rfl, passes⟩

theorem Reads.mono {test' : Pattern → Bool} {entry : String × Bool}
    (weaker : ∀ p, test p = true → test' p = true) (reads : Reads test entry) :
    Reads test' entry := by
  obtain ⟨p, read, passes⟩ := reads
  exact ⟨p, read, weaker p passes⟩

/-! ## What matchers look for -/

/-- The matcher looks for some patterns, all of which pass the test. -/
def Matcher.Seeks (matcher : Matcher) (test : Pattern → Bool) : Prop :=
  ∃ ps : List Pattern, (∀ p ∈ ps, test p = true) ∧ ∀ text, matcher text = ps.any (·.matchesIn text)

/-- It finds what it looks for where the patterns are found again. -/
theorem Matcher.Seeks.mono {text longer : IndexedText} (seeks : matcher.Seeks test)
    (found : ∀ p, test p = true → p.matchesIn text = true → p.matchesIn longer = true)
    (here : matcher text = true) : matcher longer = true := by
  obtain ⟨ps, passes, same⟩ := seeks
  rw [same, List.any_eq_true] at here ⊢
  obtain ⟨p, listed, here⟩ := here
  exact ⟨p, listed, found p (passes p listed) here⟩

theorem Matcher.Seeks.congr {text text' : IndexedText} (seeks : matcher.Seeks test)
    (same : ∀ p, test p = true → p.matchesIn text = p.matchesIn text') :
    matcher text = matcher text' := by
  rw [Bool.eq_iff_iff]
  exact ⟨seeks.mono fun p passes here => same p passes ▸ here,
    seeks.mono fun p passes here => (same p passes).symm ▸ here⟩

namespace PatternEngine

/-- A pattern that can be read is compiled. -/
theorem exists_compile {text : String} (reads : Reads test (text, false)) :
    ∃ matcher, standard.compile text = .ok matcher ∧ matcher.Seeks test := by
  obtain ⟨p, read, passes⟩ := reads
  refine ⟨fun text => p.matchesIn text, ?_, [p], by simpa using passes, by simp⟩
  show (Pattern.read text false).map _ = _
  rw [show Pattern.read text false = .ok p from read]
  rfl

/-- A set of patterns that can be read is compiled. -/
theorem exists_compileSet {texts : List String}
    (reads : ∀ text ∈ texts, Reads test (text, ignoreCase)) :
    ∃ matcher, standard.compileSet texts ignoreCase = .ok matcher ∧ matcher.Seeks test := by
  obtain ⟨ps, related⟩ := exists_forall₂ (R := fun text p =>
    Pattern.read text ignoreCase = .ok p ∧ test p = true) reads
  have read : texts.mapM (Pattern.read · ignoreCase) = .ok ps :=
    mapM_eq_ok_iff.mpr (related.imp fun _ _ => And.left)
  refine ⟨fun text => ps.any (·.matchesIn text), ?_, ps, fun p listed => ?_, fun text => rfl⟩
  · show (texts.mapM (Pattern.read · ignoreCase)).map _ = _
    rw [read]
    rfl
  · obtain ⟨text, -, -, passes⟩ := exists_of_mem_forall₂ related listed
    exact passes

/-- Without any patterns there is no matcher, which makes no difference. -/
theorem exists_compileSet? {texts : List String}
    (reads : ∀ text ∈ texts, Reads test (text, ignoreCase)) :
    ∃ required, standard.compileSet? texts ignoreCase = .ok required ∧
      ∀ matcher ∈ required, matcher.Seeks test := by
  obtain ⟨matcher, compiled, seeks⟩ := exists_compileSet reads
  unfold compileSet?
  split
  · exact ⟨none, rfl, nofun⟩
  · rw [compiled]
    refine ⟨some matcher, rfl, fun other same => ?_⟩
    cases same
    exact seeks

end PatternEngine

/-! ## Profiles -/

/-- What a text is asked for to pass for a language. -/
def LanguageProfile.criteria (profile : LanguageProfile) : List Matcher :=
  profile.markers :: profile.requires.toList

def LanguageProfile.matchers (profile : LanguageProfile) : List Matcher :=
  profile.criteria ++ profile.signature :: profile.boosters.map (·.1)

namespace LanguageDefinition

/-- The patterns of a definition as they are written, and whether case is ignored in them from
their start. -/
def texts (definition : LanguageDefinition) : List (String × Bool) :=
  (definition.markers ++ definition.requires).map (·, definition.ignoreCase) ++
    (definition.signature, false) :: definition.boosters.map (·.1, false)

/-- What passes for a language is looked for by the patterns that are written for that. -/
theorem Compiles.criteria_seek (compiles : definition.Compiles .standard profile)
    (reads : ∀ text ∈ definition.markers ++ definition.requires,
      Reads test (text, definition.ignoreCase)) :
    ∀ matcher ∈ profile.criteria, matcher.Seeks test := by
  obtain ⟨markers, requires⟩ := List.forall_mem_append.mp reads
  obtain ⟨matcher, compiled, seeks⟩ := PatternEngine.exists_compileSet markers
  obtain ⟨required, compiled', seek⟩ := PatternEngine.exists_compileSet? requires
  rw [compiles.markers, Except.ok.injEq] at compiled
  rw [compiles.requires, Except.ok.injEq] at compiled'
  rw [LanguageProfile.criteria, List.forall_mem_cons, compiled, compiled']
  exact ⟨seeks, fun matcher listed => seek matcher (Option.mem_toList.mp listed)⟩

/-- The matchers of a profile look for the patterns that are written in its definition. -/
theorem Compiles.matchers_seek (compiles : definition.Compiles .standard profile)
    (reads : ∀ entry ∈ definition.texts, Reads test entry) :
    ∀ matcher ∈ profile.matchers, matcher.Seeks test := by
  rw [texts, List.forall_mem_append, List.forall_mem_cons, List.forall_mem_map,
    List.forall_mem_map] at reads
  obtain ⟨criteria, signature, boosters⟩ := reads
  rw [LanguageProfile.matchers, List.forall_mem_append, List.forall_mem_cons, List.forall_mem_map]
  refine ⟨compiles.criteria_seek criteria, ?_, fun booster held => ?_⟩
  · obtain ⟨matcher, compiled, seeks⟩ := PatternEngine.exists_compile signature
    rw [compiles.signature, Except.ok.injEq] at compiled
    exact compiled ▸ seeks
  · obtain ⟨written, listed, here, -⟩ := exists_of_mem_forall₂ compiles.boosters held
    obtain ⟨matcher, compiled, seeks⟩ := PatternEngine.exists_compile (boosters written listed)
    rw [here, Except.ok.injEq] at compiled
    exact compiled ▸ seeks

/-- A definition whose patterns can be read is compiled. -/
theorem exists_profile (reads : ∀ entry ∈ definition.texts, Reads test entry) :
    ∃ profile, definition.profile = .ok profile := by
  simp only [texts, List.map_append, List.forall_mem_append, List.forall_mem_cons,
    List.forall_mem_map] at reads
  obtain ⟨⟨markers, requires⟩, signature, boosters⟩ := reads
  obtain ⟨markers, compiledMarkers, -⟩ := PatternEngine.exists_compileSet markers
  obtain ⟨requires, compiledRequires, -⟩ := PatternEngine.exists_compileSet? requires
  obtain ⟨signature, compiledSignature, -⟩ := PatternEngine.exists_compile signature
  obtain ⟨boosters, compiledBoosters⟩ : ∃ boosters, List.Forall₂ (fun (written : String × Int)
      (booster : Matcher × Int) =>
        PatternEngine.standard.compile written.1 = .ok booster.1 ∧ written.2 = booster.2)
      definition.boosters boosters := by
    refine exists_forall₂ fun written listed => ?_
    obtain ⟨matcher, compiled, -⟩ := PatternEngine.exists_compile (boosters written listed)
    exact ⟨(matcher, written.2), compiled, rfl⟩
  exact ⟨⟨⟨definition.name⟩, definition.fileExtension, markers, requires, signature, boosters⟩,
    profile_eq_ok_iff.mpr ⟨rfl, rfl, compiledMarkers, compiledRequires, compiledSignature,
      compiledBoosters⟩⟩

end LanguageDefinition

/-! ## The catalogue -/

namespace Catalogue

/-- The pattern does not ask for the start of the text. -/
def startFree (p : Pattern) : Bool :=
  Anchor.textStart ∉ p.anchors

/-- The pattern asks for neither end of the text. -/
def openEnded (p : Pattern) : Bool :=
  Anchor.textStart ∉ p.anchors ∧ Anchor.textEnd ∉ p.anchors

/-- The languages of which no pattern asks for the end of the text. -/
def endFree : List LanguageDefinition :=
  [javascript, java, cpp, julia, go, swift, rust, csharp, typescript, kotlin, sql]

/-- The languages some of whose patterns ask for the end of the text. -/
def endBound : List LanguageDefinition :=
  [python, ruby, r, perl, lua, php]

theorem endFree_read :
    ∀ definition ∈ endFree, ∀ entry ∈ definition.texts, Reads openEnded entry := by
  simp only [endFree, javascript, java, cpp, julia, go, swift, rust, csharp, typescript, kotlin,
    sql, javascriptMarkers, LanguageDefinition.texts, List.map_cons, List.map_nil, List.cons_append,
    List.nil_append, List.forall_mem_cons, List.not_mem_nil, false_implies, implies_true, and_true]
  and_intros <;> exact .of_list (by decide +kernel)

theorem endBound_read :
    ∀ definition ∈ endBound, ∀ entry ∈ definition.texts, Reads startFree entry := by
  simp only [endBound, python, ruby, r, perl, lua, php, LanguageDefinition.texts, List.map_cons,
    List.map_nil, List.cons_append, List.nil_append, List.forall_mem_cons, List.not_mem_nil,
    false_implies, implies_true, and_true]
  and_intros <;> exact .of_list (by decide +kernel)

theorem all_subset : all ⊆ endFree ++ endBound := by
  simp [all, endFree, endBound]

theorem startFree_read :
    ∀ definition ∈ all, ∀ entry ∈ definition.texts, Reads startFree entry := by
  intro definition listed entry written
  rcases List.mem_append.mp (all_subset listed) with free | bound
  · refine (endFree_read definition free entry written).mono fun p passes => ?_
    simp only [openEnded, startFree, decide_eq_true_eq] at passes ⊢
    exact passes.1
  · exact endBound_read definition bound entry written

theorem exists_profile :
    ∀ definition ∈ all, ∃ profile, definition.profile = .ok profile := by
  intro definition listed
  exact LanguageDefinition.exists_profile (startFree_read definition listed)

end Catalogue

/-! ## The built-in registry -/

namespace Registry

theorem builtin_built : ofDefinitions Catalogue.all = .ok builtin := by
  obtain ⟨registry, built⟩ : ∃ registry, ofDefinitions Catalogue.all = .ok registry :=
    exists_ofDefinitions_iff.mpr Catalogue.exists_profile
  rw [builtin, built]
  rfl

/-- The built-in profiles are those of the catalogue. -/
theorem mem_builtin_iff :
    profile ∈ builtin.profiles ↔
      ∃ definition ∈ Catalogue.all, definition.Compiles .standard profile := by
  simp only [mem_profiles_iff builtin_built, LanguageDefinition.profile_eq_ok_iff]

theorem exists_mem_builtin (listed : definition ∈ Catalogue.all) :
    ∃ profile ∈ builtin.profiles, definition.profile = .ok profile := by
  obtain ⟨profile, read⟩ := Catalogue.exists_profile definition listed
  exact ⟨profile, (mem_profiles_iff builtin_built).mpr ⟨definition, listed, read⟩, read⟩

end Registry

end Polyglot
