import Polyglot.Sandbox.Script.Basic

/-!
# Arithmetic in scripts

Whole numbers of 64 bits that wrap around, the operators of C without those that count up and
down, and assignments to variables. What is not needed for the result is read but not carried out.
-/

namespace Polyglot.Shell.Arithmetic

inductive Token where
  | number (n : Int)
  | name (name : String)
  | sign (text : String)
  | senseless
deriving DecidableEq, Repr

/-! ## Numerals -/

def largest : Int := 0x7fffffffffffffff

def wrap (n : Int) : Int :=
  n.bmod 0x10000000000000000

def isSpace (c : Char) : Bool :=
  c == ' ' || c == '\t' || c == '\n'

def digitValue (c : Char) : Nat :=
  if c.isDigit then c.toNat - 48
  else if 'a' ≤ c && c ≤ 'z' then c.toNat - 87
  else if 'A' ≤ c && c ≤ 'Z' then c.toNat - 55
  else 99

def ofDigits (base : Nat) (digits : List Char) : Nat :=
  digits.foldl (fun n c => base * n + digitValue c) 0

/-- The numeral at the start of a text, hexadecimal after `0x` and octal after `0`, and what
follows it. -/
def numeral (cs : List Char) : Nat × List Char :=
  let take (base : Nat) (cs : List Char) :=
    (ofDigits base (cs.takeWhile (digitValue · < base)), cs.dropWhile (digitValue · < base))
  match cs with
  | '0' :: x :: d :: rest =>
    if (x == 'x' || x == 'X') && digitValue d < 16 then take 16 (d :: rest) else take 8 cs
  | '0' :: _ => take 8 cs
  | _ => take 10 cs

/-- White space around numbers. -/
def isWide (c : Char) : Bool :=
  isSpace c || c == '\x0b' || c == '\x0c' || c == '\r'

/-- A whole number with white space around it and a sign before it; it must not be too large. Where
`isOptional` is set, nothing is zero. -/
def integer? (text : String) (base10 isOptional : Bool) : Option Int :=
  let cs := text.toList.dropWhile isWide
  let (negative, digits) := match cs with
    | '-' :: rest => (true, rest)
    | '+' :: rest => (false, rest)
    | rest => (false, rest)
  if !(digits.head?.any Char.isDigit) then
    if isOptional && text.toList.all isWide then some 0 else none
  else
    let (n, rest) :=
      if base10 then
        (ofDigits 10 (digits.takeWhile Char.isDigit), digits.dropWhile Char.isDigit)
      else numeral digits
    let value : Int := if negative then -(n : Int) else n
    if !rest.all isWide || value < -largest - 1 || largest < value then none else some value

/-! ## Tokens -/

/-- The operators with signs of more than one character, longer ones first. -/
def longSigns : List String :=
  ["<<=", ">>=", "==", "!=", "<=", ">=", "<<", ">>", "||", "&&", "*=", "/=", "%=", "+=", "-=",
    "&=", "^=", "|="]

/-- The tokens of an expression; nothing follows a character that means nothing. -/
def tokens : (fuel : Nat) → List Char → List Token
  | 0, _ => []
  | _, [] => []
  | fuel + 1, c :: rest =>
    if isSpace c then tokens fuel rest
    else if c.isDigit then
      let (n, rest) := numeral (c :: rest)
      .number (min (n : Int) largest) :: tokens fuel rest
    else if isNameStart c then
      let (name, rest) := splitName (c :: rest)
      .name (String.ofList name) :: tokens fuel rest
    else match longSigns.find? fun sign => sign.toList.isPrefixOf (c :: rest) with
      | some sign => .sign sign :: tokens fuel (rest.drop (sign.length - 1))
      | none =>
        if "=<>|&!()*/%+-~^?:".toList.contains c then
          .sign (String.singleton c) :: tokens fuel rest
        else [.senseless]

/-! ## Evaluation -/

/-- What is left of the expression, and the values assigned so far, the latest first. -/
structure State where
  rest : List Token
  assigned : List (String × Int) := []

inductive Fault where
  | malformed (text : String)
  | illegalNumber (text : String)
  /-- The processor has no answer. -/
  | trap

abbrev Eval := StateT State (Except Fault)

def truth (b : Bool) : Int :=
  if b then 1 else 0

/-- The operators between two operands, with ranks of which the lowest binds closest. -/
def ranks : List (String × Nat) :=
  [("*", 1), ("/", 1), ("%", 1), ("+", 2), ("-", 2), ("<<", 3), (">>", 3), ("<", 4), ("<=", 4),
    (">", 4), (">=", 4), ("==", 5), ("!=", 5), ("&", 6), ("^", 7), ("|", 8)]

def lowestRank : Nat := 8

/-- The operators that assign, with what they compute. -/
def assignments : List (String × String) :=
  [("<<=", "<<"), (">>=", ">>"), ("*=", "*"), ("/=", "/"), ("%=", "%"), ("+=", "+"), ("-=", "-"),
    ("&=", "&"), ("^=", "^"), ("|=", "|")]

def bits (n : Int) : Nat :=
  (n % 0x10000000000000000).toNat

def compute (operator : String) (a b : Int) : Eval Int :=
  match operator with
  | "==" => return truth (a == b)
  | "!=" => return truth (a != b)
  | "<=" => return truth (a ≤ b)
  | ">=" => return truth (b ≤ a)
  | "<" => return truth (a < b)
  | ">" => return truth (b < a)
  | "<<" => return wrap (a * (Nat.pow 2 (bits b % 64) : Nat))
  | ">>" => return a.fdiv (Nat.pow 2 (bits b % 64) : Nat)
  | "|" => return wrap ((bits a ||| bits b : Nat) : Int)
  | "^" => return wrap ((bits a ^^^ bits b : Nat) : Int)
  | "&" => return wrap ((bits a &&& bits b : Nat) : Int)
  | "+" => return wrap (a + b)
  | "-" => return wrap (a - b)
  | "*" => return wrap (a * b)
  | _ =>
    if b = 0 then throw (.malformed "division by zero")
    else if a = -largest - 1 && b = -1 then throw .trap
    else return wrap (if operator == "/" then a.tdiv b else a.tmod b)

/-- The value of a variable; what is no number is complained about. -/
def valueOf (lookup : String → Option String) (name : String) : Eval Int := do
  match (← get).assigned.lookup name with
  | some n => return n
  | none =>
    let text := (lookup name).getD ""
    match integer? text false true with
    | some n => return n
    | none => throw (.illegalNumber text)

/-- The token that comes next, which is taken. -/
def next? : Eval (Option Token) := do
  let s ← get
  set { s with rest := s.rest.tail }
  return s.rest.head?

/-- The sign that comes next, which stays where it is. -/
def peekSign : Eval String := do
  match (← get).rest with
  | .sign text :: _ => return text
  | _ => return ""

mutual

def primary (lookup : String → Option String) (live : Bool) (fuel : Nat) : Eval Int :=
  match fuel with
  | 0 => throw (.malformed "expecting primary")
  | fuel + 1 => do
    match ← next? with
    | some (.number n) => return n
    | some (.name name) => if live then valueOf lookup name else return 0
    | some (.sign "(") => do
      let value ← assignment lookup live fuel
      if (← next?) != some (.sign ")") then throw (.malformed "expecting ')'")
      return value
    | some (.sign "+") => primary lookup live fuel
    | some (.sign "-") => return wrap (-(← primary lookup live fuel))
    | some (.sign "!") => return truth ((← primary lookup live fuel) == 0)
    | some (.sign "~") => return -(← primary lookup live fuel) - 1
    | _ => throw (.malformed "expecting primary")

/-- Operators of at most the given rank after a first operand. -/
def binary (lookup : String → Option String) (live : Bool) (fuel rank : Nat) (first : Int) :
    Eval Int :=
  match fuel with
  | 0 => throw (.malformed "expecting primary")
  | fuel + 1 => do
    let sign ← peekSign
    match ranks.lookup sign with
    | none => return first
    | some r =>
      if rank < r then return first
      discard next?
      let operand ← primary lookup live fuel
      let second ← binary lookup live fuel (r - 1) operand
      let value ← if live then compute sign first second else pure second
      binary lookup live fuel rank value

def conjunction (lookup : String → Option String) (live : Bool) (fuel : Nat) : Eval Int :=
  match fuel with
  | 0 => throw (.malformed "expecting primary")
  | fuel + 1 => do
    let operand ← primary lookup live fuel
    let first ← binary lookup live fuel lowestRank operand
    if (← peekSign) == "&&" then do
      discard next?
      let second ← conjunction lookup (live && first != 0) fuel
      return truth (first != 0 && second != 0)
    return first

def disjunction (lookup : String → Option String) (live : Bool) (fuel : Nat) : Eval Int :=
  match fuel with
  | 0 => throw (.malformed "expecting primary")
  | fuel + 1 => do
    let first ← conjunction lookup live fuel
    if (← peekSign) == "||" then do
      discard next?
      let second ← disjunction lookup (live && first == 0) fuel
      return truth (first != 0 || second != 0)
    return first

/-- A choice by question mark and colon, or what it would choose by. -/
def choice (lookup : String → Option String) (live : Bool) (fuel : Nat) : Eval Int :=
  match fuel with
  | 0 => throw (.malformed "expecting primary")
  | fuel + 1 => do
    let test ← disjunction lookup live fuel
    if (← peekSign) == "?" then do
      discard next?
      let yes ← assignment lookup (live && test != 0) fuel
      if (← next?) != some (.sign ":") then throw (.malformed "expecting ':'")
      let no ← choice lookup (live && test == 0) fuel
      return if test != 0 then yes else no
    return test

/-- An assignment, or an expression without one at its top. -/
def assignment (lookup : String → Option String) (live : Bool) (fuel : Nat) : Eval Int :=
  match fuel with
  | 0 => throw (.malformed "expecting primary")
  | fuel + 1 => do
    match (← get).rest with
    | .name name :: .sign sign :: rest =>
      if sign == "=" || (assignments.lookup sign).isSome then do
        modify fun s => { s with rest }
        let operand ← assignment lookup live fuel
        if !live then return operand
        let value ← match assignments.lookup sign with
          | none => pure operand
          | some operator => do compute operator (← valueOf lookup name) operand
        modify fun s => { s with assigned := (name, value) :: s.assigned }
        return value
      else choice lookup live fuel
    | _ => choice lookup live fuel

end

/-- A whole expression. -/
def whole (lookup : String → Option String) (fuel : Nat) : Eval Int := do
  let value ← assignment lookup true fuel
  if !(← get).rest.isEmpty then throw (.malformed "expecting EOF")
  return value

/-- The value of an expression and the assignments that it makes, the latest first. -/
def evaluate (lookup : String → Option String) (text : String) :
    Except Fault (Int × List (String × Int)) :=
  let ts := tokens (text.length + 1) text.toList
  match (whole lookup (8 * ts.length + 16)).run { rest := ts } with
  | .ok (value, s) => .ok (value, s.assigned)
  | .error (.malformed message) =>
    .error (.malformed ("arithmetic expression: " ++ message ++ ": \"" ++ text ++ "\""))
  | .error fault => .error fault

end Polyglot.Shell.Arithmetic
