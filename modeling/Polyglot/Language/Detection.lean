import Polyglot.Language.Registry

/-!
# Detection

Which language a snippet is written in. Every language is asked whether the snippet passes for it;
when several say yes, signatures and boosters decide, and the lexically smallest name among
equals. A lone candidate is not scored.
-/

namespace Polyglot

/-- Candidates are ordered by name. -/
def Language.le (a b : Language) : Bool :=
  a.name ≤ b.name

/-- A candidate and its score. -/
structure Candidate where
  language : Language
  score : Int
deriving DecidableEq, Repr

/-- Higher scores first, equal ones by name. -/
def Candidate.precedes (a b : Candidate) : Bool :=
  b.score < a.score || (a.score == b.score && a.language.le b.language)

namespace Registry

/-- The languages that the text passes for, each once, by name. -/
def matchingIn (registry : Registry) (text : IndexedText) : List Language :=
  ((registry.profiles.filter (·.accepts text)).map (·.language)).eraseDups.mergeSort Language.le

/-- The score of a candidate among others. -/
def scoreIn (registry : Registry) (text : IndexedText) (language : Language) : Int :=
  match registry.profile? language with
  | some profile => profile.score text
  | none => 0

/-- All candidates of a text, the best first. -/
def rankIn (registry : Registry) (text : IndexedText) : List Candidate :=
  let languages := registry.matchingIn text
  let scored : List Candidate := match languages with
    | [] => []
    | [language] => [⟨language, 0⟩]
    | _ => languages.map fun language => ⟨language, registry.scoreIn text language⟩
  scored.mergeSort Candidate.precedes

/-- The languages that a snippet passes for, each once, by name. -/
def matching (registry : Registry) (code : String) : List Language :=
  registry.matchingIn (.ofString code)

/-- All candidates for a snippet, the best first; the empty snippet has none. -/
def rank (registry : Registry) (code : String) : List Candidate :=
  if code.isEmpty then [] else registry.rankIn (.ofString code)

/-- The best candidate. -/
def detect (registry : Registry) (code : String) : Option Language :=
  (registry.rank code).head?.map (·.language)

end Registry

end Polyglot
