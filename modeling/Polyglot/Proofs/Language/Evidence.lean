import Polyglot.Proofs.Language.Catalogue
import Polyglot.Proofs.Pattern.Transfer

/-!
# More lines are more evidence

A profile asks a text for patterns, and no pattern counts against the text: no weight of the
catalogue is negative (`Catalogue.weights_nonneg`). So a text in which every pattern of another is
found tells as much as the other or more (`TellsMore.of_matchers`). Among the built-in languages
this is so when lines are put before a text, and for those of which no pattern asks for the end of
the text when lines are put behind it too (**`adding_lines_keeps_evidence`**).
-/

namespace Polyglot

variable {definition : LanguageDefinition} {profile : LanguageProfile}

/-! ## Texts that tell more -/

/-- Whatever the one text shows of the language, the other shows. -/
structure LanguageProfile.TellsMore (profile : LanguageProfile) (code longer : String) : Prop where
  accepts : profile.accepts (.ofString code) = true → profile.accepts (.ofString longer) = true
  showsSignature : profile.showsSignature (.ofString code) = true →
    profile.showsSignature (.ofString longer) = true
  boosterScore :
    profile.boosterScore (.ofString code) ≤ profile.boosterScore (.ofString longer)

namespace LanguageProfile

variable {text longer : IndexedText}

theorem accepts_mono
    (found : ∀ matcher ∈ profile.criteria, matcher text = true → matcher longer = true)
    (accepted : profile.accepts text = true) : profile.accepts longer = true := by
  rw [criteria, List.forall_mem_cons] at found
  obtain ⟨markers, requires⟩ := found
  rw [accepts, Bool.and_eq_true, Option.all_eq_true] at accepted ⊢
  exact ⟨markers accepted.1, fun matcher required =>
    requires matcher (Option.mem_toList.mpr required) (accepted.2 matcher required)⟩

theorem boosterScore_mono (weights : ∀ booster ∈ profile.boosters, 0 ≤ booster.2)
    (found : ∀ booster ∈ profile.boosters, booster.1 text = true → booster.1 longer = true) :
    profile.boosterScore text ≤ profile.boosterScore longer := by
  rw [boosterScore, boosterScore]
  generalize profile.boosters = boosters at weights found
  induction boosters with
  | nil => exact Int.le_refl 0
  | cons booster boosters ih =>
    obtain ⟨matcher, weight⟩ := booster
    obtain ⟨nonneg, weights⟩ := List.forall_mem_cons.mp weights
    obtain ⟨kept, found⟩ := List.forall_mem_cons.mp found
    have rest := ih weights found
    rw [List.foldr_cons, List.foldr_cons]
    show (if matcher text then weight + _ else _) ≤ (if matcher longer then weight + _ else _)
    by_cases here : matcher text = true
    · rw [if_pos here, if_pos (kept here)]
      exact Int.add_le_add_left rest weight
    · rw [if_neg here]
      split
      · exact Int.le_trans rest (Int.le_add_of_nonneg_left nonneg)
      · exact rest

/-- It is enough that every single matcher finds something again. -/
theorem TellsMore.of_matchers {code longer : String}
    (weights : ∀ booster ∈ profile.boosters, 0 ≤ booster.2)
    (found : ∀ matcher ∈ profile.matchers,
      matcher (.ofString code) = true → matcher (.ofString longer) = true) :
    profile.TellsMore code longer := by
  rw [matchers, List.forall_mem_append, List.forall_mem_cons, List.forall_mem_map] at found
  obtain ⟨criteria, signature, boosters⟩ := found
  exact ⟨accepts_mono criteria, signature, boosterScore_mono weights boosters⟩

end LanguageProfile

/-! ## Lines before and behind -/

theorem IndexedText.ofString_behind_lines (front code : String) :
    ofString (front ++ "\n" ++ code) = ofList (front.toList ++ '\n' :: code.toList) := by
  rw [ofString, String.append_assoc, String.toList_append, String.toList_append]
  rfl

theorem IndexedText.ofString_among_lines (front code back : String) :
    ofString (front ++ "\n" ++ code ++ "\n" ++ back) =
      ofList (front.toList ++ '\n' :: (code.toList ++ '\n' :: back.toList)) := by
  rw [String.append_assoc, String.append_assoc, ofString_behind_lines, String.toList_append,
    String.toList_append]
  rfl

namespace Catalogue

theorem weights_nonneg : ∀ definition ∈ all, ∀ booster ∈ definition.boosters, 0 ≤ booster.2 := by
  decide

/-- The names of the languages that ask for no end of the text are those of no others. -/
theorem endBound_names :
    ∀ definition ∈ endBound, definition.name ∉ ["JavaScript", "Java", "C++", "Julia", "Go",
      "Swift", "Rust", "C#", "TypeScript", "Kotlin", "SQL"] := by
  decide

end Catalogue

theorem LanguageDefinition.Compiles.weights_nonneg
    (compiles : definition.Compiles .standard profile) (listed : definition ∈ Catalogue.all) :
    ∀ booster ∈ profile.boosters, 0 ≤ booster.2 := by
  intro booster held
  obtain ⟨written, there, -, weight⟩ := exists_of_mem_forall₂ compiles.boosters held
  exact weight ▸ Catalogue.weights_nonneg definition listed written there

/-- Lines in front of a snippet take no evidence away, and where no pattern of the language asks
for the end of the text, neither do lines behind it. -/
theorem adding_lines_keeps_evidence (listed : profile ∈ Registry.builtin.profiles)
    (front code back : String) :
    profile.TellsMore code (front ++ "\n" ++ code) ∧
    (profile.language.name ∈ ["JavaScript", "Java", "C++", "Julia", "Go", "Swift", "Rust", "C#",
        "TypeScript", "Kotlin", "SQL"] →
      profile.TellsMore code (front ++ "\n" ++ code ++ "\n" ++ back)) := by
  obtain ⟨definition, defined, compiles⟩ := Registry.mem_builtin_iff.mp listed
  have weights := compiles.weights_nonneg defined
  constructor
  · have seek := compiles.matchers_seek (Catalogue.startFree_read definition defined)
    refine .of_matchers weights fun matcher held => (seek matcher held).mono fun p free found => ?_
    rw [IndexedText.ofString_behind_lines]
    exact Pattern.matchesIn_behind_lines _ (of_decide_eq_true free) found
  · intro named
    have open' : definition ∈ Catalogue.endFree := by
      rw [compiles.language] at named
      rcases List.mem_append.mp (Catalogue.all_subset defined) with free | bound
      · exact free
      · exact absurd named (Catalogue.endBound_names definition bound)
    have seek := compiles.matchers_seek (Catalogue.endFree_read definition open')
    refine .of_matchers weights fun matcher held => (seek matcher held).mono fun p free found => ?_
    obtain ⟨startFree, endFree⟩ := of_decide_eq_true free
    rw [IndexedText.ofString_among_lines]
    exact Pattern.matchesIn_behind_lines _ startFree
      (Pattern.matchesIn_before_lines _ endFree found)

theorem adding_lines_keeps_evidence_go :
    ∃ profile ∈ Registry.builtin.profiles, profile.language = ⟨"Go"⟩ ∧
      profile.accepts (.ofString "package main") = true ∧
      profile.TellsMore "package main" "// entry\npackage main" ∧
      profile.accepts (.ofString "// entry\npackage main\nfunc main() {}") = true := by
  have defined : Catalogue.go ∈ Catalogue.all := by decide
  obtain ⟨profile, listed, read⟩ := Registry.exists_mem_builtin defined
  have accepted : Catalogue.go.profile.toOption.any
      (·.accepts (.ofString "package main")) = true := by decide
  rw [read] at accepted
  obtain ⟨behind, among⟩ :=
    adding_lines_keeps_evidence listed "// entry" "package main" "func main() {}"
  have named : profile.language = ⟨"Go"⟩ := LanguageDefinition.language_of_profile read
  refine ⟨profile, listed, named, accepted, behind, ?_⟩
  exact (among (by rw [named]; decide)).accepts accepted

end Polyglot
