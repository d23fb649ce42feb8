import Polyglot.Pattern.Basic

/-!
# Matching by sets of positions

Whether a pattern matches anywhere in a text, for all starting points at once. A set of positions
is a natural number read bit by bit, so that taking one character from every position of a set is
one intersection and one shift, and the work grows with the pattern and the text but never with
the number of ways to match.

The text is indexed first: for each character that occurs, the set of its positions. Against
an index a pattern becomes a `Plan`, in which character sets and anchors have been replaced by the
positions where they hold.
-/

namespace Polyglot

/-- A set of positions in a text: position `i` belongs to it when bit `i` is set. -/
abbrev Positions := Nat

namespace Positions

/-- Positions `0` to `size`, that is every place between characters. -/
def upTo (size : Nat) : Positions :=
  Nat.pow 2 (size + 1) - 1

/-- Every position moved on by one character. -/
def next (s : Positions) : Positions :=
  s <<< 1

/-- Where a character stands in a text. -/
def ofChar (c : Char) : List Char → Positions
  | [] => 0
  | d :: rest => (if d = c then 1 else 0) + 2 * ofChar c rest

/-- What `step` reaches from a set in any number of rounds, at most `rounds`. -/
def closure (step : Positions → Positions) : (rounds : Nat) → Positions → Positions
  | 0, s => s
  | rounds + 1, s =>
    let wider := s ||| step s
    if wider = s then s else closure step rounds wider

/-- What `step` reaches from a set in exactly that number of rounds. Rounds that change nothing
are not carried out. -/
def iterate (step : Positions → Positions) : (rounds : Nat) → Positions → Positions
  | 0, s => s
  | rounds + 1, s =>
    let further := step s
    if further = s then s else iterate step rounds further

end Positions

/-- A text with the positions of each of its characters. -/
structure IndexedText where
  size : Nat
  places : List (Char × Positions)

namespace IndexedText

def ofList (cs : List Char) : IndexedText where
  size := cs.length
  places := cs.eraseDups.map fun c => (c, Positions.ofChar c cs)

def ofString (s : String) : IndexedText :=
  ofList s.toList

/-- The positions whose next character is in the set. -/
def positionsOf (text : IndexedText) (set : CharSet) : Positions :=
  text.places.foldl (fun s (c, places) => if set.contains c then s ||| places else s) 0

/-- The positions where an anchor holds. -/
def anchored (text : IndexedText) : Anchor → Positions
  | .textStart => 1
  | .textEnd => 1 <<< text.size
  | .lineStart => 1 ||| (text.positionsOf (.single '\n')).next
  | .lineEnd => text.positionsOf (.single '\n') ||| 1 <<< text.size
  | .wordEdge =>
    let words := text.positionsOf .word
    words ^^^ words.next
  | .noWordEdge =>
    let words := text.positionsOf .word
    Positions.upTo text.size ^^^ (words ^^^ words.next)

end IndexedText

/-- A pattern resolved against one text. -/
inductive Plan where
  | stay
  | step (places : Positions)
  | guard (places : Positions)
  | seq (p q : Plan)
  | alt (p q : Plan)
  | loop (p : Plan)
  | times (count : Nat) (p : Plan)
  | upTo (count : Nat) (p : Plan)

namespace Pattern

def plan (text : IndexedText) : Pattern → Plan
  | empty => .stay
  | char set => .step (text.positionsOf set)
  | anchor a => .guard (text.anchored a)
  | seq p q => .seq (p.plan text) (q.plan text)
  | alt p q => .alt (p.plan text) (q.plan text)
  | loop _ p => .loop (p.plan text)
  | times count p => .times count (p.plan text)
  | upTo _ count p => .upTo count (p.plan text)
  | group _ p => p.plan text

end Pattern

namespace Plan

/-- The positions where a match can end that begins in `s`, in a text of `size` characters. -/
def reach (size : Nat) : Plan → Positions → Positions
  | stay, s => s
  | step places, s => (s &&& places).next
  | guard places, s => s &&& places
  | seq p q, s =>
    let between := p.reach size s
    if between = 0 then 0 else q.reach size between
  | alt p q, s => p.reach size s ||| q.reach size s
  | loop p, s => Positions.closure (p.reach size) size s
  | times count p, s => Positions.iterate (p.reach size) count s
  | upTo count p, s => Positions.closure (p.reach size) count s

end Plan

/-- Does the pattern match somewhere in the text? -/
def Pattern.matchesIn (p : Pattern) (text : IndexedText) : Bool :=
  (p.plan text).reach text.size (Positions.upTo text.size) != 0

end Polyglot
