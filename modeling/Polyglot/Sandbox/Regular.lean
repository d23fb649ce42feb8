import Polyglot.Sandbox.CharClass

/-!
# Basic regular expressions

Expressions whose operators other than `*`, `.`, brackets and anchors begin with a backslash. Of all
matches at a place the longest counts, and of those the one whose repetitions take most.
-/

namespace Polyglot

/-- A member of a set of characters. -/
inductive Regular.Member where
  | range (first last : Char)
  | named (name : String)
deriving DecidableEq, Repr

inductive Regular where
  | empty
  | any
  | oneOf (negated : Bool) (members : List Regular.Member)
  /-- The start of the text, or its end. -/
  | start
  | finish
  /-- The start of a line, or its end. -/
  | lineStart
  | lineEnd
  /-- Between a character of a word and another, or not. -/
  | border (isBorder : Bool)
  | wordStart
  | wordEnd
  | group (number : Nat) (inner : Regular)
  /-- What a group has matched. -/
  | back (number : Nat)
  | both (first second : Regular)
  | either (first second : Regular)
  | times (inner : Regular) (least : Nat) (most? : Option Nat)
deriving Repr

namespace Regular

def char (c : Char) : Regular :=
  oneOf false [.range c c]

def Member.has (c : Char) : Member → Bool
  | range first last => first ≤ c && c ≤ last
  | named name => ((CharClass.named.lookup name).map (· c)).getD false

/-! ## Reading -/

/-- Reading goes over the characters; groups are counted, and those that are complete are known. -/
structure ReaderState where
  rest : List Char
  groups : Nat := 0
  complete : List Nat := []

abbrev Reader := StateT ReaderState (Except String)

def Reader.fail {α : Type} (message : String) : Reader α :=
  throw message

def unclosedSet : String :=
  "Unmatched [, [^, [:, [., or [="

/-- The text up to a mark before a closing bracket, and what follows. -/
def delimited (mark : Char) : List Char → List Char → Option (List Char × List Char)
  | _, [] => none
  | read, c :: rest =>
    if c == mark && rest.head? == some ']' then some (read.reverse, rest.tail)
    else delimited mark (c :: read) rest

/-- One end of a range, or a class. -/
def setItem : List Char → Except String ((Char ⊕ String) × List Char)
  | [] => .error unclosedSet
  | '[' :: mark :: rest =>
    if mark == ':' || mark == '.' || mark == '=' then
      match delimited mark [] rest with
      | none => .error unclosedSet
      | some (name, rest) =>
        if mark == ':' then
          let name := String.ofList name
          if (CharClass.named.lookup name).isSome then .ok (.inr name, rest)
          else .error "Invalid character class name"
        else match name with
          | [c] => .ok (.inl c, rest)
          | _ => .error "Invalid collation character"
    else .ok (.inl '[', mark :: rest)
  | c :: rest => .ok (.inl c, rest)

/-- The members of a set, from one on. -/
def setMembers : (fuel : Nat) → (isFirst : Bool) → List Char →
    Except String (List Member × List Char)
  | 0, _, _ => .error unclosedSet
  | _, _, [] => .error unclosedSet
  | fuel + 1, isFirst, c :: rest =>
    if c == ']' && !isFirst then .ok ([], rest)
    else do
      let (item, rest) ← setItem (c :: rest)
      match item, rest with
      | .inr name, rest => do
        let (members, rest) ← setMembers fuel false rest
        return (.named name :: members, rest)
      | .inl first, '-' :: d :: more =>
        if d == ']' then do
          let (members, rest) ← setMembers fuel false rest
          return (.range first first :: members, rest)
        else do
          let (last, rest) ← setItem (d :: more)
          match last with
          | .inr _ => throw "Invalid range end"
          | .inl last => do
            let (members, rest) ← setMembers fuel false rest
            return (.range first last :: members, rest)
      | .inl first, rest => do
        let (members, rest) ← setMembers fuel false rest
        return (.range first first :: members, rest)

/-- A set from after its opening bracket. -/
def readSet : Reader Regular := do
  let s ← get
  let (negated, cs) := match s.rest with
    | '^' :: rest => (true, rest)
    | rest => (false, rest)
  if cs.isEmpty then throw "Invalid regular expression"
  match setMembers (cs.length + 1) true cs with
  | .error message => throw message
  | .ok (members, rest) => do
    set { s with rest }
    return oneOf negated members

def decimal (digits : List Char) : Nat :=
  digits.foldl (fun n c => 10 * n + (c.toNat - 48)) 0

/-- The bounds of a repetition, from after its opening brace. -/
def readBounds : Reader (Nat × Option Nat) := do
  let s ← get
  let first := s.rest.takeWhile Char.isDigit
  let rest := s.rest.drop first.length
  let (bounds?, rest) : Option (Nat × Option Nat) × List Char := match rest with
    | ',' :: rest =>
      let last := rest.takeWhile Char.isDigit
      (some (decimal first, if last.isEmpty then none else some (decimal last)),
        rest.drop last.length)
    | rest => (if first.isEmpty then none else some (decimal first, some (decimal first)), rest)
  if rest.isEmpty || rest == ['\\'] then throw "Unmatched \\\x7b"
  match bounds?, rest with
  | some (least, most?), '\\' :: '\x7d' :: rest => do
    if most?.any (· < least) then throw "Invalid content of \\\x7b\\\x7d"
    if 32767 < max least (most?.getD 0) then throw "Regular expression too big"
    set { s with rest }
    return (least, most?)
  | _, _ => throw "Invalid content of \\\x7b\\\x7d"

/-- Does an expression end here? -/
def endsHere : List Char → Bool
  | [] => true
  | '\\' :: ')' :: _ => true
  | '\\' :: '|' :: _ => true
  | _ => false

mutual

/-- Alternatives. -/
def alternatives (fuel : Nat) (inGroup : Bool) : Reader Regular :=
  match fuel with
  | 0 => Reader.fail "Regular expression too big"
  | fuel + 1 => do
    let first ← branch fuel inGroup true .empty
    match (← get).rest with
    | '\\' :: '|' :: rest => do
      modify fun s => { s with rest }
      return .either first (← alternatives fuel inGroup)
    | _ => return first

/-- Pieces one after another; `isFirst` says that none has come yet. -/
def branch (fuel : Nat) (inGroup isFirst : Bool) (done : Regular) : Reader Regular :=
  match fuel with
  | 0 => Reader.fail "Regular expression too big"
  | fuel + 1 => do
    match (← get).rest with
    | [] => return done
    | '\\' :: '|' :: _ => return done
    | '\\' :: ')' :: _ =>
      if inGroup then return done else Reader.fail "Unmatched ) or \\)"
    | '^' :: rest =>
      if isFirst then do
        modify fun s => { s with rest }
        branch fuel inGroup true .start
      else piece fuel inGroup done (.char '^') rest
    | c :: rest => do
      modify fun s => { s with rest }
      match c with
      | '\\' => do
        let inner ← escaped fuel
        piece fuel inGroup done inner (← get).rest
      | '[' => do
        let inner ← readSet
        piece fuel inGroup done inner (← get).rest
      | '.' => piece fuel inGroup done .any rest
      | '$' =>
        if endsHere rest then do
          modify fun s => { s with rest }
          branch fuel inGroup false (.both done .finish)
        else piece fuel inGroup done (.char '$') rest
      | c => piece fuel inGroup done (.char c) rest

/-- What stands after a backslash. -/
def escaped (fuel : Nat) : Reader Regular :=
  match fuel with
  | 0 => Reader.fail "Regular expression too big"
  | fuel + 1 => do
    match (← get).rest with
    | [] => Reader.fail "Trailing backslash"
    | c :: rest => do
      modify fun s => { s with rest }
      match c with
      | '(' => do
        modify fun s => { s with groups := s.groups + 1 }
        let number := (← get).groups
        let inner ← alternatives fuel true
        match (← get).rest with
        | '\\' :: ')' :: rest => do
          modify fun s => { s with rest, complete := number :: s.complete }
          return .group number inner
        | _ => Reader.fail "Unmatched ( or \\("
      | 'w' => return .oneOf false [.named "alnum", .range '_' '_']
      | 'W' => return .oneOf true [.named "alnum", .range '_' '_']
      | 's' => return .oneOf false [.named "space"]
      | 'S' => return .oneOf true [.named "space"]
      | 'b' => return .border true
      | 'B' => return .border false
      | '<' => return .wordStart
      | '>' => return .wordEnd
      | '\x60' => return .start
      | '\'' => return .finish
      | c =>
        if '1' ≤ c && c ≤ '9' then
          let number := c.toNat - 48
          if (← get).complete.contains number then return .back number
          else Reader.fail "Invalid back reference"
        else return .char c

/-- A piece with what repeats it, then the rest of the branch. -/
def piece (fuel : Nat) (inGroup : Bool) (done inner : Regular) (rest : List Char) :
    Reader Regular :=
  match fuel with
  | 0 => Reader.fail "Regular expression too big"
  | fuel + 1 => do
    match rest with
    | '*' :: rest => piece fuel inGroup done (.times inner 0 none) rest
    | '\\' :: '+' :: rest => piece fuel inGroup done (.times inner 1 none) rest
    | '\\' :: '?' :: rest => piece fuel inGroup done (.times inner 0 (some 1)) rest
    | '\\' :: '\x7b' :: rest => do
      modify fun s => { s with rest }
      let (least, most?) ← readBounds
      piece fuel inGroup done (.times inner least most?) (← get).rest
    | rest => do
      modify fun s => { s with rest }
      branch fuel inGroup false (.both done inner)

end

/-- Read an expression: it and the number of its groups, or what is wrong with it. -/
def parse (text : String) : Except String (Regular × Nat) :=
  let cs := text.toList
  match (alternatives (8 * cs.length + 8) false).run { rest := cs } with
  | .ok (r, s) => .ok (r, s.groups)
  | .error message => .error message

/-- The expression for texts of several lines: it is anchored at each of them, and what stands for
any character does not stand for the end of a line. -/
def inLines : Regular → Regular
  | any => oneOf true [.range '\n' '\n']
  | start => lineStart
  | finish => lineEnd
  | group number inner => group number inner.inLines
  | both first second => both first.inLines second.inLines
  | either first second => either first.inLines second.inLines
  | times inner least most? => times inner.inLines least most?
  | r => r

/-! ## Matching -/

/-- A place in a text, and where the groups begin and end that have matched. -/
structure Spot where
  place : Nat
  groups : List (Nat × Nat × Nat) := []
deriving DecidableEq, Repr

namespace Spot

def isWordAt (text : Array Char) (place : Nat) : Bool :=
  (text[place]?).any CharClass.isWord

def isWordBefore (text : Array Char) (place : Nat) : Bool :=
  place != 0 && isWordAt text (place - 1)

end Spot

/-- Where a match may end that begins at a place, longer repetitions first. -/
def ends (text : Array Char) : (fuel : Nat) → Regular → Spot → List Spot
  | 0, _, _ => []
  | _ + 1, empty, spot => [spot]
  | _ + 1, any, spot =>
    if spot.place < text.size then [{ spot with place := spot.place + 1 }] else []
  | _ + 1, oneOf negated members, spot =>
    match text[spot.place]? with
    | some c =>
      if members.any (·.has c) != negated then [{ spot with place := spot.place + 1 }] else []
    | none => []
  | _ + 1, start, spot => if spot.place = 0 then [spot] else []
  | _ + 1, finish, spot => if spot.place = text.size then [spot] else []
  | _ + 1, lineStart, spot =>
    if spot.place = 0 || text[spot.place - 1]? == some '\n' then [spot] else []
  | _ + 1, lineEnd, spot =>
    if spot.place = text.size || text[spot.place]? == some '\n' then [spot] else []
  | _ + 1, border isBorder, spot =>
    if (Spot.isWordAt text spot.place != Spot.isWordBefore text spot.place) == isBorder
    then [spot] else []
  | _ + 1, wordStart, spot =>
    if Spot.isWordAt text spot.place && !Spot.isWordBefore text spot.place then [spot] else []
  | _ + 1, wordEnd, spot =>
    if !Spot.isWordAt text spot.place && Spot.isWordBefore text spot.place then [spot] else []
  | fuel + 1, group number inner, spot =>
    (ends text fuel inner spot).map fun s =>
      { s with groups := (number, spot.place, s.place) :: s.groups.filter (·.1 != number) }
  | _ + 1, back number, spot =>
    match spot.groups.lookup number with
    | some (first, last) =>
      let length := last - first
      if (text.extract first last) == (text.extract spot.place (spot.place + length)) then
        [{ spot with place := spot.place + length }]
      else []
    | none => []
  | fuel + 1, both first second, spot =>
    ((ends text fuel first spot).flatMap (ends text fuel second)).eraseDups
  | fuel + 1, either first second, spot =>
    ends text fuel first spot ++ ends text fuel second spot
  | fuel + 1, times inner least most?, spot =>
    if most? = some 0 then [spot]
    else
      let next := (ends text fuel inner spot).filter fun s => spot.place < s.place || 0 < least
      let more := next.flatMap (ends text fuel (times inner (least - 1) (most?.map (· - 1))))
      (if least = 0 then more ++ [spot] else more).eraseDups

/-- The longest match at a place. -/
def matchAt (r : Regular) (text : Array Char) (place : Nat) : Option Spot :=
  (ends text (1000000 + text.size) r { place }).foldl
    (fun best? spot => match best? with
      | some best => if best.place < spot.place then some spot else some best
      | none => some spot) none

/-- The first match from a place on: where it begins, and where it ends. -/
def find (r : Regular) (text : Array Char) : (count place : Nat) → Option (Nat × Spot)
  | 0, _ => none
  | count + 1, place =>
    match r.matchAt text place with
    | some spot => some (place, spot)
    | none => find r text count (place + 1)

/-- The last match that begins before a place and goes no further. -/
def findLast (r : Regular) (text : Array Char) (place : Nat) : Option (Nat × Nat) :=
  let text := text.extract 0 place
  go text place
where
  go (text : Array Char) : Nat → Option (Nat × Nat)
    | 0 => none
    | place + 1 =>
      match r.matchAt text place with
      | some spot => some (place, spot.place)
      | none => go text place

/-- Does an expression match anywhere in a text? -/
def occursIn (r : Regular) (cs : List Char) : Bool :=
  (r.find cs.toArray (cs.length + 1) 0).isSome

end Regular

end Polyglot
