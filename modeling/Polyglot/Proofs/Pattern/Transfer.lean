import Polyglot.Proofs.Pattern.Positions
import Polyglot.Proofs.Text.Lowercase

/-!
# Matches in other texts

A match goes over to every text that passes the tests of its pattern again. Two kinds of texts do.

To all anchors but two an end of the text is a line feed: lines begin and end there, and neither is
part of a word (`Anchor.holds_before`, `Anchor.holds_after`). So a text in which a pattern is found
can be put behind other lines if the pattern does not ask for the start of the text
(`matchesIn_behind_lines`), and before other lines if it does not ask for the end
(`matchesIn_before_lines`).

A set of characters ignores case if it is closed under change of case, made of such sets, or far
from the letters (`CharSet.ignoresCase`, `CharSet.contains_toLower`); no anchor sees the case of a
letter (`Anchor.holds_map_toLower`). So a pattern all of whose sets ignore case is found in a text
whenever it is found in one with the same letters in other cases (`matchesIn_eq_of_toLower`).
-/

namespace Polyglot

/-! ## Among more lines -/

namespace Anchor

variable {a : Anchor}

theorem wordAt_lineFeed : wordAt (some '\n') = false := by decide

/-- Before a place the start of the text counts as a line feed. -/
theorem holds_before (other : a ≠ textStart) (before after : Option Char) :
    a.holds (some (before.getD '\n')) after = a.holds before after := by
  cases before with
  | some c => rfl
  | none =>
    rw [Option.getD_none]
    cases a with
    | textStart => exact absurd rfl other
    | textEnd | lineStart | lineEnd => rfl
    | wordEdge | noWordEdge => rw [holds, wordAt_lineFeed]; rfl

/-- After a place the end of the text counts as a line feed. -/
theorem holds_after (other : a ≠ textEnd) (before after : Option Char) :
    a.holds before (some (after.getD '\n')) = a.holds before after := by
  cases after with
  | some c => rfl
  | none =>
    rw [Option.getD_none]
    cases a with
    | textEnd => exact absurd rfl other
    | textStart | lineStart | lineEnd => rfl
    | wordEdge | noWordEdge => rw [holds, wordAt_lineFeed]; rfl

end Anchor

variable {cs : List Char} {i : Nat}

/-- Behind other lines every character stands where it stood, the lines further on. -/
theorem getElem?_behind_lines (front cs : List Char) (i : Nat) :
    (front ++ '\n' :: cs)[front.length + 1 + i]? = cs[i]? := by
  rw [List.getElem?_append_right (by omega), Nat.add_assoc, Nat.add_sub_cancel_left, Nat.add_comm,
    List.getElem?_cons_succ]

theorem charBefore_behind_lines (front : List Char) (within : i ≤ cs.length) :
    charBefore (front ++ '\n' :: cs) (front.length + 1 + i) =
      some ((charBefore cs i).getD '\n') := by
  cases i with
  | zero => simp [charBefore]
  | succ i =>
    rw [← Nat.add_assoc, charBefore, getElem?_behind_lines, charBefore,
      List.getElem?_eq_getElem (by omega), Option.getD_some]

theorem getElem?_before_lines (within : i ≤ cs.length) (back : List Char) :
    (cs ++ '\n' :: back)[i]? = some (cs[i]?.getD '\n') := by
  rcases Nat.lt_or_eq_of_le within with inside | rfl
  · rw [List.getElem?_append_left inside, List.getElem?_eq_getElem inside, Option.getD_some]
  · simp

theorem charBefore_before_lines (within : i ≤ cs.length) (back : List Char) :
    charBefore (cs ++ '\n' :: back) i = charBefore cs i := by
  cases i with
  | zero => rfl
  | succ i => rw [charBefore, List.getElem?_append_left within, charBefore]

namespace Pattern

variable {p : Pattern}

theorem matchesIn_behind_lines (front : List Char) (free : Anchor.textStart ∉ p.anchors)
    (found : p.matchesIn (.ofList cs) = true) :
    p.matchesIn (.ofList (front ++ '\n' :: cs)) = true := by
  have carries : Carries p.sets p.anchors cs (front ++ '\n' :: cs) (front.length + 1) := by
    refine ⟨fun set _ i c there member => ⟨c, ?_, member⟩, fun a listed i within holds => ?_⟩
    · rw [getElem?_behind_lines, there]
    · have other : a ≠ .textStart := fun same => free (same ▸ listed)
      rwa [getElem?_behind_lines, charBefore_behind_lines front within, Anchor.holds_before other]
  refine matchesIn_of_carries carries ?_ found
  rw [List.length_append, List.length_cons]
  omega

theorem matchesIn_before_lines (back : List Char) (free : Anchor.textEnd ∉ p.anchors)
    (found : p.matchesIn (.ofList cs) = true) :
    p.matchesIn (.ofList (cs ++ '\n' :: back)) = true := by
  have carries : Carries p.sets p.anchors cs (cs ++ '\n' :: back) 0 := by
    refine ⟨fun set _ i c there member => ⟨c, ?_, member⟩, fun a listed i within holds => ?_⟩
    · rw [Nat.zero_add, getElem?_before_lines (List.getElem?_eq_some_iff.mp there).1.le, there,
        Option.getD_some]
    · have other : a ≠ .textEnd := fun same => free (same ▸ listed)
      rwa [Nat.zero_add, getElem?_before_lines within, charBefore_before_lines within,
        Anchor.holds_after other]
  refine matchesIn_of_carries carries ?_ found
  rw [List.length_append]
  omega

end Pattern

/-! ## Up to the case of ASCII letters -/

/-! ### Characters -/

theorem Text.toLower_eq_lineFeed_iff (c : Char) : c.toLower = '\n' ↔ c = '\n' := by
  rcases toLower_eq_self_or_capital c with same | capital
  · rw [same]
  · exact of_mem_capitals (P := fun c => c.toLower = '\n' ↔ c = '\n') (by decide) capital

namespace CharSet

variable {s : CharSet} {c : Char}

/-- No letter of ASCII is in the range. -/
def apartFromLetters (first last : Char) : Bool :=
  last.toNat < 0x41 || (0x5A < first.toNat && last.toNat < 0x61) || 0x7A < first.toNat

/-- Capitals and small letters of ASCII are in the set together, as far as its form tells. -/
def ignoresCase : CharSet → Bool
  | all | word | blank | digit | anyCase _ => true
  | range first last => apartFromLetters first last
  | compl s => s.ignoresCase
  | union s t | inter s t => s.ignoresCase && t.ignoresCase

theorem contains_range_toLower {first last : Char} (apart : apartFromLetters first last = true)
    (capital : c ∈ Text.capitals) :
    (range first last).contains c.toLower = (range first last).contains c := by
  have codes : 0x41 ≤ c.toNat ∧ c.toNat ≤ 0x5A ∧ 0x61 ≤ c.toLower.toNat ∧ c.toLower.toNat ≤ 0x7A :=
    Text.of_mem_capitals (P := fun c => 0x41 ≤ c.toNat ∧ c.toNat ≤ 0x5A ∧
      0x61 ≤ c.toLower.toNat ∧ c.toLower.toNat ≤ 0x7A) (by decide) capital
  simp only [apartFromLetters, Bool.or_eq_true, Bool.and_eq_true, decide_eq_true_eq] at apart
  have outside (d : Char) (letter : d.toNat < first.toNat ∨ last.toNat < d.toNat) :
      (range first last).contains d = false := by
    rw [contains, Bool.and_eq_false_iff, decide_eq_false_iff_not, decide_eq_false_iff_not]
    exact letter.imp Nat.not_le.mpr Nat.not_le.mpr
  rw [outside c (by omega), outside c.toLower (by omega)]

theorem contains_toLower (ignores : s.ignoresCase = true) (c : Char) :
    s.contains c.toLower = s.contains c := by
  rcases Text.toLower_eq_self_or_capital c with same | capital
  · rw [same]
  induction s with
  | all => rfl
  | range first last => exact contains_range_toLower ignores capital
  | word =>
    exact Text.of_mem_capitals (P := fun c => Text.isWord c.toLower = Text.isWord c) (by decide)
      capital
  | blank =>
    exact Text.of_mem_capitals (P := fun c => Text.isBlank c.toLower = Text.isBlank c) (by decide)
      capital
  | digit =>
    exact Text.of_mem_capitals (P := fun c => Text.isWordDigit c.toLower = Text.isWordDigit c)
      (by decide) capital
  | compl s ih => rw [contains, contains, ih ignores]
  | union s t ihs iht =>
    obtain ⟨first, second⟩ := Bool.and_eq_true_iff.mp ignores
    rw [contains, contains, ihs first, iht second]
  | inter s t ihs iht =>
    obtain ⟨first, second⟩ := Bool.and_eq_true_iff.mp ignores
    rw [contains, contains, ihs first, iht second]
  | anyCase s =>
    -- a letter and its variants are the same characters whichever of them comes first
    have same : (c.toLower :: Text.caseVariants c.toLower).Perm (c :: Text.caseVariants c) :=
      Text.of_mem_capitals
        (P := fun c => (c.toLower :: Text.caseVariants c.toLower).Perm (c :: Text.caseVariants c))
        (by decide +kernel) capital
    exact same.any_eq

end CharSet

/-! ### Places -/

theorem Anchor.wordAt_map_toLower (next : Option Char) :
    wordAt (next.map Char.toLower) = wordAt next := by
  cases next with
  | none => rfl
  | some c => exact CharSet.contains_toLower (s := .word) rfl c

theorem Anchor.holds_map_toLower (a : Anchor) (before after : Option Char) :
    a.holds (before.map Char.toLower) (after.map Char.toLower) = a.holds before after := by
  have lineFeed (next : Option Char) :
      (next.map Char.toLower == some '\n') = (next == some '\n') := by
    cases next with
    | none => rfl
    | some c =>
      rw [Option.map_some, Bool.eq_iff_iff, beq_iff_eq, beq_iff_eq, Option.some.injEq,
        Option.some.injEq, Text.toLower_eq_lineFeed_iff]
  cases a with
  | textStart | textEnd => rw [holds, holds, Option.isNone_map]
  | lineStart | lineEnd => rw [holds, holds, Option.isNone_map, lineFeed]
  | wordEdge | noWordEdge => rw [holds, holds, wordAt_map_toLower, wordAt_map_toLower]

theorem charBefore_map (cs : List Char) (i : Nat) :
    charBefore (cs.map Char.toLower) i = (charBefore cs i).map Char.toLower := by
  cases i with
  | zero => rfl
  | succ i => rw [charBefore, charBefore, List.getElem?_map]

/-! ### Patterns -/

namespace Pattern

variable {p : Pattern}

/-- Every character that the pattern takes, it takes in either case. -/
def ignoresCase (p : Pattern) : Bool :=
  p.sets.all CharSet.ignoresCase

theorem matchesIn_map_toLower (ignores : p.ignoresCase = true) (cs : List Char) :
    p.matchesIn (.ofList (cs.map Char.toLower)) = p.matchesIn (.ofList cs) := by
  rw [ignoresCase, List.all_eq_true] at ignores
  have small : Carries p.sets p.anchors cs (cs.map Char.toLower) 0 := by
    refine ⟨fun set listed i c there member => ⟨c.toLower, ?_, ?_⟩, fun a _ i _ holds => ?_⟩
    · rw [Nat.zero_add, List.getElem?_map, there, Option.map_some]
    · rwa [CharSet.contains_toLower (ignores set listed)]
    · rwa [Nat.zero_add, List.getElem?_map, charBefore_map, a.holds_map_toLower]
  have back : Carries p.sets p.anchors (cs.map Char.toLower) cs 0 := by
    refine ⟨fun set listed i c there member => ?_, fun a _ i _ holds => ?_⟩
    · rw [List.getElem?_map, Option.map_eq_some_iff] at there
      obtain ⟨d, there, rfl⟩ := there
      rw [CharSet.contains_toLower (ignores set listed)] at member
      exact ⟨d, by rwa [Nat.zero_add], member⟩
    · rw [List.getElem?_map, charBefore_map, a.holds_map_toLower] at holds
      rwa [Nat.zero_add]
  rw [Bool.eq_iff_iff]
  exact ⟨matchesIn_of_carries back (by simp), matchesIn_of_carries small (by simp)⟩

theorem matchesIn_eq_of_toLower {cs ds : List Char} (ignores : p.ignoresCase = true)
    (same : cs.map Char.toLower = ds.map Char.toLower) :
    p.matchesIn (.ofList cs) = p.matchesIn (.ofList ds) := by
  rw [← matchesIn_map_toLower ignores, same, matchesIn_map_toLower ignores]

end Pattern

end Polyglot
