import Polyglot.Pattern.Basic

/-!
# Searching

The first match of a pattern in a text: the leftmost starting point, and there the match that the
order of alternatives and the eagerness of loops prefer. `ends` lists all matches from one place
in that order; a search takes the head of the list.
-/

namespace Polyglot

/-- A place in a text: the character before it, the text after it, and what the groups passed so
far have matched, the latest first. -/
structure Spot where
  before : Option Char
  rest : List Char
  groups : List (Nat × List Char)
deriving DecidableEq, Repr

namespace Spot

/-- The part of the text between two places, the second not before the first. -/
def textTo (start stop : Spot) : List Char :=
  start.rest.take (start.rest.length - stop.rest.length)

def after (spot : Spot) : Option Char :=
  spot.rest.head?

/-- Text taken by the latest round of a group. -/
def group? (spot : Spot) (index : Nat) : Option (List Char) :=
  (spot.groups.find? (·.1 == index)).map (·.2)

end Spot

namespace Pattern

/-- All ends of a repetition of `step`, in order of preference. A round that takes no character
would not change anything and is left out. -/
def rounds (eager : Bool) (step : Spot → List Spot) : (fuel : Nat) → Spot → List Spot
  | 0, spot => [spot]
  | fuel + 1, spot =>
    let further := (step spot).filter (fun stop => stop.rest.length < spot.rest.length)
      |>.flatMap (rounds eager step fuel)
    if eager then further ++ [spot] else spot :: further

/-- All ends of exactly `count` rounds of `step`. -/
def exactly (step : Spot → List Spot) : (count : Nat) → Spot → List Spot
  | 0, spot => [spot]
  | count + 1, spot => (step spot).flatMap (exactly step count)

/-- All ends of at most `count` rounds of `step`, in order of preference. -/
def atMost (eager : Bool) (step : Spot → List Spot) : (count : Nat) → Spot → List Spot
  | 0, spot => [spot]
  | count + 1, spot =>
    let further := (step spot).flatMap (atMost eager step count)
    if eager then further ++ [spot] else spot :: further

/-- The ends of all matches that begin at a spot, the preferred one first. -/
def ends : Pattern → Spot → List Spot
  | empty, spot => [spot]
  | char set, spot =>
    match spot.rest with
    | [] => []
    | c :: rest => if set.contains c then [{ spot with before := some c, rest := rest }] else []
  | anchor a, spot => if a.holds spot.before spot.after then [spot] else []
  | seq p q, spot => (p.ends spot).flatMap q.ends
  | alt p q, spot => p.ends spot ++ q.ends spot
  | loop eager p, spot => rounds eager p.ends spot.rest.length spot
  | times count p, spot => exactly p.ends count spot
  | upTo eager count p, spot => atMost eager p.ends count spot
  | group index p, spot =>
    (p.ends spot).map fun stop =>
      { stop with groups := (index, spot.textTo stop) :: stop.groups }

/-- The end of the first match in the text after `before`. -/
def firstFrom (p : Pattern) (before : Option Char) : List Char → Option Spot
  | [] => (p.ends ⟨before, [], []⟩).head?
  | c :: rest =>
    match p.ends ⟨before, c :: rest, []⟩ with
    | stop :: _ => some stop
    | [] => firstFrom p (some c) rest

/-- What a group matched in the first match. -/
def firstGroup? (p : Pattern) (index : Nat) (cs : List Char) : Option (List Char) :=
  (p.firstFrom none cs).bind (·.group? index)

/-- Where a match that takes at least one character ends, if the preferred one does. -/
def cut? (p : Pattern) (spot : Spot) :
    Option { stop : Spot // stop.rest.length < spot.rest.length } :=
  match p.ends spot with
  | [] => none
  | stop :: _ => if h : stop.rest.length < spot.rest.length then some ⟨stop, h⟩ else none

/-- The text with every match taken out, from left to right and without overlap. -/
def removeFrom (p : Pattern) (before : Option Char) (cs : List Char) : List Char :=
  match cs with
  | [] => []
  | c :: rest =>
    match p.cut? ⟨before, c :: rest, []⟩ with
    | some ⟨stop, _⟩ => removeFrom p stop.before stop.rest
    | none => c :: removeFrom p (some c) rest
termination_by cs.length
decreasing_by
  · rename_i shorter
    exact shorter
  · exact Nat.lt_succ_self rest.length

def removeAll (p : Pattern) (cs : List Char) : List Char :=
  p.removeFrom none cs

end Pattern

end Polyglot
