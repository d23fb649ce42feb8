import Polyglot.Sandbox.Regular
import Polyglot.Sandbox.Tool.Basic
import Polyglot.Sandbox.Tool.Quote

/-!
# Reckoning

The expressions of `expr`, given as one word after another: arithmetic on whole numbers of any size,
comparisons, choices and questions about texts. A part that has no say in the result is read but
not worked out.
-/

namespace Polyglot.Tool

/-- A value under way. -/
inductive Quantum where
  | number (n : Int)
  | text (text : String)
deriving DecidableEq, Repr

namespace Quantum

def toText : Quantum → String
  | number n => toString n
  | text t => t

/-- Does a text look like a whole number? -/
def isWhole (text : String) : Bool :=
  let cs := text.toList
  let digits := if cs.head? == some '-' then cs.tail else cs
  !digits.isEmpty && digits.all Char.isDigit

def number? : Quantum → Option Int
  | number n => some n
  | text t => if isWhole t then t.toInt? else none

/-- Nothing and zero count as false. -/
def isNull : Quantum → Bool
  | number n => n == 0
  | text t =>
    let cs := t.toList
    let digits := if cs.head? == some '-' then cs.tail else cs
    cs.isEmpty || (!digits.isEmpty && digits.all (· == '0'))

end Quantum

/-- The words from the place of reading on, and the word before them. -/
structure Expression where
  rest : List String
  before : String := ""

/-- Reading an expression, which may fail with a complaint. -/
abbrev Reckoning := StateT Expression (Except String)

namespace Reckoning

/-- Go on if the next word is a certain one. -/
def accept (word : String) : Reckoning Bool := do
  let s ← get
  match s.rest with
  | first :: rest =>
    if first == word then do
      set { rest, before := first : Expression }
      return true
    else return false
  | [] => return false

/-- The first of some words that comes next. -/
def acceptAny : List String → Reckoning (Option String)
  | [] => return none
  | word :: words => do
    if ← accept word then return some word else acceptAny words

def fail {α : Type} (text : String) : Reckoning α :=
  throw ("syntax error: " ++ text)

def insist : Reckoning Unit := do
  let s ← get
  if s.rest.isEmpty then fail ("missing argument after " ++ quoted s.before)

/-- The next word, whatever it is. -/
def next : Reckoning String := do
  insist
  let s ← get
  let word := s.rest.headD ""
  set { rest := s.rest.tail, before := word : Expression }
  return word

/-- What an expression matches at the start of a text: the part in its first group, or the length
if there is none. -/
def match? (text expression : String) : Reckoning Quantum := do
  match Regular.parse expression with
  | .error message => throw message
  | .ok (r, groups) =>
    let cs := text.toList.toArray
    match r.matchAt cs 0 with
    | none => return if groups = 0 then .number 0 else .text ""
    | some spot =>
      if groups = 0 then return .number spot.place
      match spot.groups.lookup 1 with
      | some (first, last) => return .text (String.ofList (cs.extract first last).toList)
      | none => return .text ""

/-- A number that two numbers make. -/
def combine (operator : String) (a b : Quantum) : Reckoning Quantum := do
  match a.number?, b.number? with
  | some a, some b =>
    match operator with
    | "+" => return .number (a + b)
    | "-" => return .number (a - b)
    | "*" => return .number (a * b)
    | operator =>
      if b == 0 then throw "division by zero"
      return .number (if operator == "/" then Int.tdiv a b else Int.tmod a b)
  | _, _ => throw "non-integer argument"

/-- Numbers are compared by value, all else letter by letter. -/
def compare (operator : String) (a b : Quantum) : Quantum :=
  let order := match a.number?, b.number? with
    | some a, some b => Ord.compare a b
    | _, _ => Ord.compare a.toText b.toText
  let holds : Bool := match operator with
    | "<" => order == .lt
    | "<=" => order != .gt
    | "!=" => order != .eq
    | ">=" => order != .lt
    | ">" => order == .gt
    | _ => order == .eq
  .number (if holds then 1 else 0)

/-- The place in a text of the first character out of some, from one; zero if there is none. -/
def indexOf (text characters : String) : Nat :=
  match text.toList.findIdx? characters.toList.contains with
  | some i => i + 1
  | none => 0

/-- A part of a text by the place of its first character and its length. -/
def part (text place length : Quantum) : Quantum :=
  match place.number?, length.number? with
  | some place, some length =>
    if place < 1 || length < 1 then .text ""
    else .text (String.ofList ((text.toText.toList.drop (place.toNat - 1)).take length.toNat))
  | _, _ => .text ""

/-- Operators that stand between two numbers, the loosest first. -/
def levels : List (List String) :=
  [["<=", "<", "==", "=", "!=", ">=", ">"], ["+", "-"], ["*", "/", "%"]]

mutual

/-- A choice: the first value unless it is null. -/
def choice (fuel : Nat) (counts : Bool) : Reckoning Quantum :=
  match fuel with
  | 0 => throw ""
  | fuel + 1 => do
    choices fuel counts (← both fuel counts)

def choices (fuel : Nat) (counts : Bool) (left : Quantum) : Reckoning Quantum :=
  match fuel with
  | 0 => throw ""
  | fuel + 1 => do
    if !(← accept "|") then return left
    let right ← both fuel (counts && left.isNull)
    let value := if !left.isNull then left else if right.isNull then .number 0 else right
    choices fuel counts value

/-- The first of two values if none is null. -/
def both (fuel : Nat) (counts : Bool) : Reckoning Quantum :=
  match fuel with
  | 0 => throw ""
  | fuel + 1 => do
    boths fuel counts (← level fuel counts levels)

def boths (fuel : Nat) (counts : Bool) (left : Quantum) : Reckoning Quantum :=
  match fuel with
  | 0 => throw ""
  | fuel + 1 => do
    if !(← accept "&") then return left
    let right ← level fuel (counts && !left.isNull) levels
    boths fuel counts (if left.isNull || right.isNull then .number 0 else left)

/-- Values with operators of one level between them. -/
def level (fuel : Nat) (counts : Bool) (operators : List (List String)) : Reckoning Quantum :=
  match fuel, operators with
  | 0, _ => throw ""
  | fuel + 1, [] => do
    matched fuel counts (← primary fuel counts)
  | fuel + 1, own :: tighter => do
    levelRest fuel counts own tighter (← level fuel counts tighter)

def levelRest (fuel : Nat) (counts : Bool) (own : List String) (tighter : List (List String))
    (left : Quantum) : Reckoning Quantum :=
  match fuel with
  | 0 => throw ""
  | fuel + 1 => do
    match ← acceptAny own with
    | none => return left
    | some operator => do
      let right ← level fuel counts tighter
      let value ←
        if !counts then pure (if own.contains "<" then .number 0 else left)
        else if own.contains "<" then pure (compare operator left right)
        else combine operator left right
      levelRest fuel counts own tighter value

def matched (fuel : Nat) (counts : Bool) (left : Quantum) : Reckoning Quantum :=
  match fuel with
  | 0 => throw ""
  | fuel + 1 => do
    if !(← accept ":") then return left
    let right ← primary fuel counts
    matched fuel counts (← if counts then match? left.toText right.toText else pure left)

/-- A word, or a question about words. -/
def primary (fuel : Nat) (counts : Bool) : Reckoning Quantum :=
  match fuel with
  | 0 => throw ""
  | fuel + 1 => do
    insist
    match ← acceptAny ["+", "length", "match", "index", "substr", "(", ")"] with
    | some "+" => return .text (← next)
    | some "length" => return .number (← primary fuel counts).toText.length
    | some "match" => do
      let left ← primary fuel counts
      let right ← primary fuel counts
      if counts then match? left.toText right.toText else return left
    | some "index" => do
      let left ← primary fuel counts
      let right ← primary fuel counts
      return .number (indexOf left.toText right.toText)
    | some "substr" => do
      let text ← primary fuel counts
      let place ← primary fuel counts
      let length ← primary fuel counts
      return part text place length
    | some "(" => do
      let value ← choice fuel counts
      let s ← get
      match s.rest with
      | [] => fail ("expecting ')' after " ++ quoted s.before)
      | word :: _ =>
        if !(← accept ")") then fail ("expecting ')' instead of " ++ quoted word)
        return value
    | some _ => fail "unexpected ')'"
    | none => return .text (← next)

end

/-- The value of an expression. -/
def evaluate (words : List String) : Except String Quantum := do
  let (value, s) ← (choice (16 * words.length + 32) true).run { rest := words }
  match s.rest with
  | [] => return value
  | word :: _ => throw ("syntax error: unexpected argument " ++ quoted word)

end Reckoning

/-- `expr`: the value of an expression. -/
def reckon : Tool := do
  let words := match (← read).arguments with
    | "--" :: rest => rest
    | rest => rest
  if words.isEmpty then Work.misuse "missing operand" 2
  match Reckoning.evaluate words with
  | .error message => Work.die message 2
  | .ok value => do
    Work.sayLine value.toText
    Work.setCode (if value.isNull then 1 else 0)

end Polyglot.Tool
