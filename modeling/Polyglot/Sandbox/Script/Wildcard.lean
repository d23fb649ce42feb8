import Polyglot.Sandbox.CharClass

/-!
# Wildcards

Patterns of the shell: `*` for any characters, `?` for one, sets in brackets. A character that is
quoted or stands behind a backslash stands for itself.
-/

namespace Polyglot.Shell

/-- A character and whether it stands for itself. -/
abbrev MarkedChar := Char × Bool

namespace Wildcard

/-- A backslash that is not quoted protects the next character. -/
def ofMarked : List MarkedChar → List MarkedChar
  | ('\\', false) :: (c, false) :: rest => (c, true) :: ofMarked rest
  | ('\\', false) :: (c, true) :: rest => ('\\', true) :: (c, false) :: ofMarked rest
  | ('\\', false) :: [] => [('\\', true)]
  | c :: rest => c :: ofMarked rest
  | [] => []

/-- The class that is named from after an opening bracket on, and what follows it. -/
def class? (pattern : List MarkedChar) : Option ((Char → Bool) × List MarkedChar) :=
  CharClass.named.findSome? fun (name, test) =>
    let text := (":" ++ name ++ ":]").toList.map (·, false)
    if text.isPrefixOf pattern then some (test, pattern.drop text.length) else none

/-- Octets above the first half come before all others in ranges. -/
def rank (c : Char) : Int :=
  if c.toNat < 128 then c.toNat else (c.toNat : Int) - 256

/-- Is a character in a set? The set is given from a member on. If it ends, what follows it is
given too. -/
def inSet (c : Char) : (fuel : Nat) → Bool → List MarkedChar → Option (Bool × List MarkedChar)
  | 0, _, _ => none
  | _, _, [] => none
  | fuel + 1, found, (member, quoted) :: rest =>
    let goOn (found : Bool) (rest : List MarkedChar) :=
      match rest with
      | (']', false) :: rest => some (found, rest)
      | rest => inSet c fuel found rest
    match if member == '[' && !quoted then class? rest else none with
    | some (test, rest) => goOn (found || test c) rest
    | none =>
      match rest with
      | ('-', false) :: (last, lastQuoted) :: more =>
        if last == ']' && !lastQuoted then goOn (found || c == member) rest
        else goOn (found || (rank member ≤ rank c && rank c ≤ rank last)) more
      | _ => goOn (found || c == member) rest

/-- Does a character match the set from after its opening bracket on? A set that never ends is
none. -/
def matchesSet? (c : Char) (pattern : List MarkedChar) : Option (Bool × List MarkedChar) :=
  match pattern with
  | ('!', false) :: rest => (inSet c (rest.length + 1) false rest).map fun (b, rest) => (!b, rest)
  | rest => inSet c (rest.length + 1) false rest

/-- Does the pattern match the whole text? -/
def coversFrom : (fuel : Nat) → List MarkedChar → List Char → Bool
  | 0, _, _ => false
  | _, [], cs => cs.isEmpty
  | fuel + 1, ('*', false) :: pattern, cs =>
    coversFrom fuel pattern cs || (match cs with
      | [] => false
      | _ :: rest => coversFrom fuel (('*', false) :: pattern) rest)
  | _, _ :: _, [] => false
  | fuel + 1, ('?', false) :: pattern, _ :: cs => coversFrom fuel pattern cs
  | fuel + 1, ('[', false) :: pattern, c :: cs =>
    match matchesSet? c pattern with
    | some (isIn, pattern) => isIn && coversFrom fuel pattern cs
    | none => c == '[' && coversFrom fuel pattern cs
  | fuel + 1, (p, _) :: pattern, c :: cs => c == p && coversFrom fuel pattern cs

def covers (pattern : List MarkedChar) (cs : List Char) : Bool :=
  let pattern := ofMarked pattern
  coversFrom (pattern.length + cs.length + 1) pattern cs

/-- Is there anything in a name with wildcards that does not stand for itself? -/
def isProper : List MarkedChar → Bool
  | [] => false
  | (c, quoted) :: rest =>
    if quoted then isProper rest
    else if c == '*' || c == '?' then true
    else if c == '[' then
      let inside := match rest with
        | ('!', false) :: more => more
        | more => more
      (inside.drop 1).contains (']', false) || isProper rest
    else isProper rest

/-- Cut what the pattern matches off one end of a text. A text of several parameters that NUL keeps
apart is looked at up to the first NUL: pieces that are tried from the left reach no further, and
a piece is compared up to its first NUL. -/
def cut {α : Type} (charOf : α → Char) (pattern : List MarkedChar) (atEnd longest : Bool)
    (cs : List α) : List α :=
  let first := (cs.takeWhile (charOf · != '\x00')).length
  let fromLeft := atEnd == longest
  let points := List.range ((if fromLeft then first else cs.length) + 1)
  let points := if fromLeft then points else points.reverse
  let removed (n : Nat) := if atEnd then cs.drop n else cs.take n
  let fits (n : Nat) := covers pattern (((removed n).map charOf).takeWhile (· != '\x00'))
  match points.find? fits with
  | some n => if atEnd then cs.take n else cs.drop n
  | none => cs

end Wildcard

end Polyglot.Shell
