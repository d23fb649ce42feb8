import Polyglot.Language.Detection
import Polyglot.Proofs.Language.Registry
import Polyglot.Proofs.Text.ByteOrder

/-!
# How candidates are ranked

Names are ordered by their bytes (`Language.le_iff`), and candidates by score and name; both orders
are total, transitive and antisymmetric, so that sorting leaves nothing open. The languages that a
text passes for are found by a pass over the profiles that merges equal names, and each of them is
listed once, with the score that `candidateIn` gives it (`mem_rankIn`, `nodup_languages_rankIn`,
`pairwise_rankIn`).

What a ranking depends on is said by `rankIn_congr`: which languages the text passes for, and which
profiles are on record for these.
-/

namespace Polyglot

/-! ## Orders -/

namespace Language

/-- The bytes of the name. -/
def nameBytes (language : Language) : List UInt8 :=
  Text.Utf8.encode language.name.toList

variable {a b c : Language}

theorem le_iff : a.le b = true ↔ a.nameBytes ≤ b.nameBytes := by
  rw [le, decide_eq_true_eq, ← List.not_lt, nameBytes, nameBytes, Text.Utf8.encode_lt_encode_iff,
    ← String.lt_iff]
  exact String.not_lt.symm

theorem le_total (a b : Language) : (a.le b || b.le a) = true := by
  rw [Bool.or_eq_true, le, le, decide_eq_true_eq, decide_eq_true_eq]
  exact String.le_total a.name b.name

theorem le_trans (h : a.le b = true) (h' : b.le c = true) : a.le c = true := by
  rw [le, decide_eq_true_eq] at h h' ⊢
  exact String.le_trans h h'

theorem le_antisymm (h : a.le b = true) (h' : b.le a = true) : a = b := by
  rw [le, decide_eq_true_eq] at h h'
  cases a
  cases b
  exact congrArg mk (String.le_antisymm h h')

end Language

namespace Candidate

variable {a b c : Candidate}

/-- Higher scores come first, and of equal ones the name whose bytes come first. -/
def Outranks (a b : Candidate) : Prop :=
  b.score < a.score ∨ a.score = b.score ∧ a.language.nameBytes < b.language.nameBytes

theorem precedes_iff :
    a.precedes b = true ↔
      b.score < a.score ∨ a.score = b.score ∧ a.language.le b.language = true := by
  simp only [precedes, Bool.or_eq_true, Bool.and_eq_true, decide_eq_true_eq, beq_iff_eq]

theorem precedes_total (a b : Candidate) : (a.precedes b || b.precedes a) = true := by
  rw [Bool.or_eq_true, precedes_iff, precedes_iff]
  have names := Language.le_total a.language b.language
  rw [Bool.or_eq_true] at names
  rcases Int.lt_trichotomy a.score b.score with less | same | greater
  · exact .inr (.inl less)
  · rcases names with first | second
    · exact .inl (.inr ⟨same, first⟩)
    · exact .inr (.inr ⟨same.symm, second⟩)
  · exact .inl (.inl greater)

theorem precedes_trans (h : a.precedes b = true) (h' : b.precedes c = true) :
    a.precedes c = true := by
  rw [precedes_iff] at h h' ⊢
  rcases h with better | ⟨same, names⟩
  · rcases h' with better' | ⟨same', -⟩
    · exact .inl (Int.lt_trans better' better)
    · exact .inl (same' ▸ better)
  · rcases h' with better' | ⟨same', names'⟩
    · exact .inl (same ▸ better')
    · exact .inr ⟨same.trans same', Language.le_trans names names'⟩

theorem precedes_antisymm (h : a.precedes b = true) (h' : b.precedes a = true) : a = b := by
  rw [precedes_iff] at h h'
  rcases h with better | ⟨same, names⟩
  · rcases h' with better' | ⟨same', -⟩ <;> omega
  · rcases h' with better' | ⟨-, names'⟩
    · omega
    · cases a
      cases b
      exact congrArg₂ mk (Language.le_antisymm names names') same

/-- Of two candidates the one that precedes the other outranks it. -/
theorem outranks_of_precedes (h : a.precedes b = true) (other : a ≠ b) : a.Outranks b := by
  rcases precedes_iff.mp h with better | ⟨same, names⟩
  · exact .inl better
  · refine .inr ⟨same, ?_⟩
    rcases List.le_iff_lt_or_eq.mp (Language.le_iff.mp names) with less | equal
    · exact less
    · have back : b.precedes a = true :=
        precedes_iff.mpr (.inr ⟨same.symm, Language.le_iff.mpr (equal ▸ List.le_refl _)⟩)
      exact absurd (precedes_antisymm h back) other

end Candidate

namespace Registry

variable {definitions : List LanguageDefinition} {registry other : Registry} {text : IndexedText}
  {language : Language} {candidate : Candidate}

/-! ## The languages that a text passes for -/

theorem nodup_eraseDups {α : Type} [DecidableEq α] : ∀ xs : List α, xs.eraseDups.Nodup
  | [] => by simp
  | x :: xs => by
    rw [List.eraseDups_cons, List.nodup_cons, List.mem_eraseDups]
    refine ⟨?_, nodup_eraseDups _⟩
    simp
termination_by xs => xs.length
decreasing_by exact Nat.lt_succ_of_le (List.length_filter_le _ _)

theorem mem_matchingIn :
    language ∈ registry.matchingIn text ↔
      ∃ profile ∈ registry.profiles, profile.language = language ∧ profile.accepts text = true := by
  rw [matchingIn, List.mem_mergeSort, List.mem_eraseDups, List.mem_map]
  simp only [List.mem_filter]
  constructor
  · rintro ⟨profile, ⟨listed, passes⟩, same⟩
    exact ⟨profile, listed, same, passes⟩
  · rintro ⟨profile, listed, same, passes⟩
    exact ⟨profile, ⟨listed, passes⟩, same⟩

/-- Equal names are merged. -/
theorem nodup_matchingIn (registry : Registry) (text : IndexedText) :
    (registry.matchingIn text).Nodup :=
  (List.mergeSort_perm _ _).nodup_iff.mpr (nodup_eraseDups _)

theorem pairwise_matchingIn (registry : Registry) (text : IndexedText) :
    (registry.matchingIn text).Pairwise fun a b => a.le b = true :=
  @List.pairwise_mergeSort _ Language.le (fun _ _ _ => Language.le_trans) Language.le_total _

/-- Which languages there are decides in which order they are. -/
theorem matchingIn_congr
    (same : ∀ language, language ∈ registry.matchingIn text ↔ language ∈ other.matchingIn text) :
    registry.matchingIn text = other.matchingIn text := by
  have perm : (registry.matchingIn text).Perm (other.matchingIn text) :=
    (List.perm_ext_iff_of_nodup (nodup_matchingIn _ _) (nodup_matchingIn _ _)).mpr same
  exact perm.eq_of_pairwise (fun _ _ _ _ => Language.le_antisymm) (pairwise_matchingIn _ _)
    (pairwise_matchingIn _ _)

/-! ## Candidates -/

/-- A language as a candidate; a lone one is not scored. -/
def candidateIn (registry : Registry) (text : IndexedText) (language : Language) : Candidate where
  language
  score := if (registry.matchingIn text).length < 2 then 0 else registry.scoreIn text language

/-- The candidates are the languages that the text passes for, put in order. -/
theorem rankIn_eq (registry : Registry) (text : IndexedText) :
    registry.rankIn text =
      ((registry.matchingIn text).map (registry.candidateIn text)).mergeSort
        Candidate.precedes := by
  unfold rankIn candidateIn
  simp only
  congr 1
  cases registry.matchingIn text with
  | nil => rfl
  | cons first others =>
    cases others with
    | nil => rfl
    | cons second others =>
      have contested : ¬ (first :: second :: others).length < 2 := by simp
      simp only [if_neg contested]

theorem rankIn_perm (registry : Registry) (text : IndexedText) :
    (registry.rankIn text).Perm ((registry.matchingIn text).map (registry.candidateIn text)) := by
  rw [rankIn_eq]
  exact List.mergeSort_perm _ _

theorem length_rankIn (registry : Registry) (text : IndexedText) :
    (registry.rankIn text).length = (registry.matchingIn text).length := by
  rw [(rankIn_perm registry text).length_eq, List.length_map]

theorem mem_rankIn :
    candidate ∈ registry.rankIn text ↔
      candidate.language ∈ registry.matchingIn text ∧
        candidate = registry.candidateIn text candidate.language := by
  rw [(rankIn_perm registry text).mem_iff, List.mem_map]
  constructor
  · rintro ⟨language, listed, rfl⟩
    exact ⟨listed, rfl⟩
  · rintro ⟨listed, same⟩
    exact ⟨candidate.language, listed, same.symm⟩

/-- Every language is listed once. -/
theorem nodup_languages_rankIn (registry : Registry) (text : IndexedText) :
    ((registry.rankIn text).map (·.language)).Nodup := by
  have perm := (rankIn_perm registry text).map (·.language)
  rw [List.map_map] at perm
  have same : (registry.matchingIn text).map ((·.language) ∘ registry.candidateIn text) =
      registry.matchingIn text := List.map_id _
  rw [same] at perm
  exact perm.nodup_iff.mpr (nodup_matchingIn registry text)

theorem pairwise_rankIn (registry : Registry) (text : IndexedText) :
    (registry.rankIn text).Pairwise Candidate.Outranks := by
  have sorted : (registry.rankIn text).Pairwise fun a b => a.precedes b = true := by
    rw [rankIn_eq]
    exact @List.pairwise_mergeSort _ Candidate.precedes (fun _ _ _ => Candidate.precedes_trans)
      Candidate.precedes_total _
  have distinct : (registry.rankIn text).Nodup :=
    (nodup_languages_rankIn registry text).of_map _
  exact sorted.imp₂ (fun _ _ => Candidate.outranks_of_precedes) distinct

/-- The languages that a text passes for and their profiles on record decide the ranking. -/
theorem rankIn_congr
    (same : ∀ language, language ∈ registry.matchingIn text ↔ language ∈ other.matchingIn text)
    (held : ∀ language ∈ registry.matchingIn text,
      registry.profile? language = other.profile? language) :
    registry.rankIn text = other.rankIn text := by
  have languages := matchingIn_congr same
  have candidates : (registry.matchingIn text).map (registry.candidateIn text) =
      (registry.matchingIn text).map (other.candidateIn text) := by
    refine List.map_congr_left fun language listed => ?_
    rw [candidateIn, candidateIn, scoreIn, scoreIn, languages, held language listed]
  rw [rankIn_eq, rankIn_eq, candidates, languages]

end Registry

end Polyglot
