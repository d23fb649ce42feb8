import Polyglot.Pattern.Basic

/-!
# What a pattern spans

`Spans` says from which position of a text to which a pattern matches, without saying how a match
is found. A derivation of it looks at a text only where a set of characters has to contain the
character that comes next and where a condition is put on the two characters at a place, so it goes
through in every other text that passes the same tests in the same order, a number of positions
further on or not (`Spans.carry`).
-/

namespace Polyglot

/-- The character before a position of a text. -/
def charBefore (cs : List Char) : Nat → Option Char
  | 0 => none
  | i + 1 => cs[i]?

namespace Pattern

variable {p : Pattern} {cs ds : List Char} {i j shift : Nat}

/-- The pattern matches the text from one position to another. -/
inductive Spans (cs : List Char) : Pattern → Nat → Nat → Prop
  | empty {i : Nat} : Spans cs empty i i
  | char {set : CharSet} {i : Nat} {c : Char} (there : cs[i]? = some c)
      (member : set.contains c = true) : Spans cs (char set) i (i + 1)
  | anchor {a : Anchor} {i : Nat} (holds : a.holds (charBefore cs i) cs[i]? = true) :
      Spans cs (anchor a) i i
  | seq {p q : Pattern} {i k j : Nat} (first : Spans cs p i k) (second : Spans cs q k j) :
      Spans cs (seq p q) i j
  | left {p q : Pattern} {i j : Nat} (first : Spans cs p i j) : Spans cs (alt p q) i j
  | right {p q : Pattern} {i j : Nat} (second : Spans cs q i j) : Spans cs (alt p q) i j
  | stop {eager : Bool} {p : Pattern} {i : Nat} : Spans cs (loop eager p) i i
  | round {eager : Bool} {p : Pattern} {i k j : Nat} (once : Spans cs p i k)
      (more : Spans cs (loop eager p) k j) : Spans cs (loop eager p) i j
  | noTimes {p : Pattern} {i : Nat} : Spans cs (times 0 p) i i
  | oneTime {count : Nat} {p : Pattern} {i k j : Nat} (once : Spans cs p i k)
      (more : Spans cs (times count p) k j) : Spans cs (times (count + 1) p) i j
  | enough {eager : Bool} {count : Nat} {p : Pattern} {i : Nat} : Spans cs (upTo eager count p) i i
  | oneMore {eager : Bool} {count : Nat} {p : Pattern} {i k j : Nat} (once : Spans cs p i k)
      (more : Spans cs (upTo eager count p) k j) : Spans cs (upTo eager (count + 1) p) i j
  | group {index : Nat} {p : Pattern} {i j : Nat} (inside : Spans cs p i j) :
      Spans cs (group index p) i j

/-- A match that begins within a text ends within it. -/
theorem Spans.le_length (spans : Spans cs p i j) (within : i ≤ cs.length) : j ≤ cs.length := by
  induction spans with
  | empty | anchor _ | stop | noTimes | enough => exact within
  | char there _ => exact (List.getElem?_eq_some_iff.mp there).1
  | left _ ih | right _ ih | group _ ih => exact ih within
  | seq _ _ first second => exact second (first within)
  | round _ _ once more | oneTime _ _ once more | oneMore _ _ once more => exact more (once within)

/-- Fewer rounds than are allowed are allowed. -/
theorem Spans.upTo_succ {eager : Bool} {count : Nat} (spans : Spans cs (upTo eager count p) i j) :
    Spans cs (upTo eager (count + 1) p) i j := by
  induction count generalizing i with
  | zero =>
    cases spans with
    | enough => exact .enough
  | succ count ih =>
    cases spans with
    | enough => exact .enough
    | oneMore once more => exact .oneMore once (ih more)

/-! ## What a match depends on -/

/-- The sets that characters are taken from, wherever they stand in the pattern. -/
def sets : Pattern → List CharSet
  | empty | anchor _ => []
  | char set => [set]
  | seq p q | alt p q => p.sets ++ q.sets
  | loop _ p | times _ p | upTo _ _ p | group _ p => p.sets

/-- The conditions on places, wherever they stand in the pattern. -/
def anchors : Pattern → List Anchor
  | empty | char _ => []
  | anchor a => [a]
  | seq p q | alt p q => p.anchors ++ q.anchors
  | loop _ p | times _ p | upTo _ _ p | group _ p => p.anchors

/-- What passes the tests of a pattern in one text passes them in another. -/
structure Carries (sets : List CharSet) (anchors : List Anchor) (cs ds : List Char) (shift : Nat) :
    Prop where
  chars : ∀ set ∈ sets, ∀ i c, cs[i]? = some c → set.contains c = true →
    ∃ d, ds[shift + i]? = some d ∧ set.contains d = true
  places : ∀ a ∈ anchors, ∀ i ≤ cs.length, a.holds (charBefore cs i) cs[i]? = true →
    a.holds (charBefore ds (shift + i)) ds[shift + i]? = true

theorem Carries.mono {sets sets' : List CharSet} {anchors anchors' : List Anchor}
    (carries : Carries sets anchors cs ds shift) (fewer : sets' ⊆ sets)
    (fewer' : anchors' ⊆ anchors) : Carries sets' anchors' cs ds shift where
  chars set listed := carries.chars set (fewer listed)
  places a listed := carries.places a (fewer' listed)

/-- A match goes over to every text in which the tests of its pattern are passed again. -/
theorem Spans.carry (spans : Spans cs p i j) (within : i ≤ cs.length)
    (carries : Carries p.sets p.anchors cs ds shift) : Spans ds p (shift + i) (shift + j) := by
  -- the parts of a pattern test no more than the whole
  have first {p q : Pattern} (both : Carries (p.sets ++ q.sets) (p.anchors ++ q.anchors) cs ds
      shift) : Carries p.sets p.anchors cs ds shift :=
    both.mono (List.subset_append_left _ _) (List.subset_append_left _ _)
  have second {p q : Pattern} (both : Carries (p.sets ++ q.sets) (p.anchors ++ q.anchors) cs ds
      shift) : Carries q.sets q.anchors cs ds shift :=
    both.mono (List.subset_append_right _ _) (List.subset_append_right _ _)
  induction spans with
  | empty => exact .empty
  | char there member =>
    obtain ⟨d, there', member'⟩ := carries.chars _ List.mem_cons_self _ _ there member
    exact .char there' member'
  | anchor holds => exact .anchor (carries.places _ List.mem_cons_self _ within holds)
  | seq once _ ihp ihq =>
    exact .seq (ihp within (first carries)) (ihq (once.le_length within) (second carries))
  | left _ ih => exact .left (ih within (first carries))
  | right _ ih => exact .right (ih within (second carries))
  | stop => exact .stop
  | round once _ ihp ihq => exact .round (ihp within carries) (ihq (once.le_length within) carries)
  | noTimes => exact .noTimes
  | oneTime once _ ihp ihq =>
    exact .oneTime (ihp within carries) (ihq (once.le_length within) carries)
  | enough => exact .enough
  | oneMore once _ ihp ihq =>
    exact .oneMore (ihp within carries) (ihq (once.le_length within) carries)
  | group _ ih => exact .group (ih within carries)

end Pattern

end Polyglot
