import Polyglot.Text.Blank
import Polyglot.Text.CaseVariant
import Polyglot.Text.Word

/-!
# Patterns

Regular expressions over characters, and the sets of characters that they are made of.
-/

/-!
## Sets of characters

What a pattern may ask of one character: a Boolean combination of ranges and of the Unicode
classes for words, blanks and digits, and the closure of such a set under change of case.
-/

namespace Polyglot

inductive CharSet where
  | all
  | range (first last : Char)
  | word
  | blank
  | digit
  | compl (s : CharSet)
  | union (s t : CharSet)
  | inter (s t : CharSet)
  /-- Every character of `s`, and whatever differs from one in case only. -/
  | anyCase (s : CharSet)
deriving DecidableEq, Repr

namespace CharSet

def single (c : Char) : CharSet :=
  range c c

/-- No character at all. -/
def none : CharSet :=
  compl all

def ofList (sets : List CharSet) : CharSet :=
  sets.foldr union none

/-- What is in `s` but not in `t`. -/
def diff (s t : CharSet) : CharSet :=
  inter s (compl t)

/-- What is in exactly one of the two. -/
def symmDiff (s t : CharSet) : CharSet :=
  union (diff s t) (diff t s)

def contains : CharSet → Char → Bool
  | all, _ => true
  | range first last, c => first ≤ c && c ≤ last
  | word, c => Text.isWord c
  | blank, c => Text.isBlank c
  | digit, c => Text.isWordDigit c
  | compl s, c => !s.contains c
  | union s t, c => s.contains c || t.contains c
  | inter s t, c => s.contains c && t.contains c
  | anyCase s, c => s.contains c || (Text.caseVariants c).any s.contains

@[simp] theorem contains_single (c d : Char) : (single c).contains d = (d == c) := by
  rw [Bool.eq_iff_iff]
  simp only [single, contains, Bool.and_eq_true, decide_eq_true_eq, beq_iff_eq]
  exact ⟨fun h => Char.le_antisymm h.2 h.1, fun h => h ▸ ⟨Char.le_refl _, Char.le_refl _⟩⟩

end CharSet

end Polyglot

/-!
## Regular expressions

A pattern is a regular expression over characters with conditions on the place where it stands
(`Anchor`) and with groups that remember what they matched. A loop is eager or reluctant; that
decides which of several matches comes first and never whether there is one.
-/

namespace Polyglot

/-- A condition on the characters before and after a place in a text. -/
inductive Anchor where
  | textStart
  | textEnd
  /-- The start of the text or just after a line feed. -/
  | lineStart
  /-- The end of the text or just before a line feed. -/
  | lineEnd
  /-- A word character on exactly one side. -/
  | wordEdge
  | noWordEdge
deriving DecidableEq, Repr

namespace Anchor

def wordAt : Option Char → Bool
  | some c => Text.isWord c
  | none => false

/-- Does the condition hold between these two characters? `none` is an end of the text. -/
def holds (before after : Option Char) : Anchor → Bool
  | textStart => before.isNone
  | textEnd => after.isNone
  | lineStart => before.isNone || before == some '\n'
  | lineEnd => after.isNone || after == some '\n'
  | wordEdge => wordAt before != wordAt after
  | noWordEdge => wordAt before == wordAt after

end Anchor

inductive Pattern where
  | empty
  | char (set : CharSet)
  | anchor (a : Anchor)
  | seq (p q : Pattern)
  | alt (p q : Pattern)
  /-- Zero or more times `p`; an eager loop prefers more. -/
  | loop (eager : Bool) (p : Pattern)
  /-- Exactly `count` times `p`. -/
  | times (count : Nat) (p : Pattern)
  /-- At most `count` times `p`; an eager one prefers more. -/
  | upTo (eager : Bool) (count : Nat) (p : Pattern)
  | group (index : Nat) (p : Pattern)
deriving DecidableEq, Repr

namespace Pattern

def single (c : Char) : Pattern :=
  char (.single c)

def literal (cs : List Char) : Pattern :=
  cs.foldr (fun c p => seq (single c) p) empty

def sequence : List Pattern → Pattern
  | [] => empty
  | [p] => p
  | p :: ps => seq p (sequence ps)

/-- The first of the list that matches; a list without members is the empty pattern. -/
def choice : List Pattern → Pattern
  | [] => empty
  | [p] => p
  | p :: ps => alt p (choice ps)

def optional (eager : Bool) (p : Pattern) : Pattern :=
  if eager then alt p empty else alt empty p

def oneOrMore (eager : Bool) (p : Pattern) : Pattern :=
  seq p (loop eager p)

end Pattern

end Polyglot
