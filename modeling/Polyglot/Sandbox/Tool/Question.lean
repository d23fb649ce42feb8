import Polyglot.Sandbox.Tool.Basic
import Polyglot.Sandbox.Tool.Quote

/-!
# Questions

The expressions of `test`. How many words there are decides what they mean as long as there are few;
more are read as conditions joined by `!`, `-a`, `-o` and parentheses.
-/

namespace Polyglot.Tool

/-- The words of a question, and the place among them. -/
structure Question where
  words : Array String
  place : Nat := 0

/-- Answering a question, which may fail with a complaint. -/
abbrev Answer := StateT Question (ExceptT String Work)

namespace Answer

def fail {α : Type} (text : String) : Answer α :=
  throw text

def word? (offset : Nat) : Answer (Option String) := do
  let s ← get
  return s.words[s.place + offset]?

def word (offset : Nat) : Answer String := do
  return (← word? offset).getD ""

/-- There are too few words. -/
def beyond {α : Type} : Answer α := do
  let s ← get
  fail ("missing argument after " ++ quoted (s.words.back?.getD ""))

/-- Go on by one word, after which there must be another if `more` says so. -/
def advance (more : Bool) : Answer Unit := do
  modify fun s => { s with place := s.place + 1 }
  if more && (← word? 0).isNone then beyond

/-- How many words are left. -/
def left : Answer Nat := do
  let s ← get
  return s.words.size - s.place

def binaryOperators : List String :=
  ["=", "!=", "==", "-nt", "-ot", "-ef", "-eq", "-ne", "-lt", "-le", "-gt", "-ge"]

def isBinary (word : String) : Bool :=
  binaryOperators.contains word

/-- A whole number with blanks around it. -/
def whole (text : String) : Answer Int := do
  let cs := text.toList.dropWhile fun c => c == ' ' || c == '\t'
  let cs := (cs.reverse.dropWhile fun c => c == ' ' || c == '\t').reverse
  let (negative, digits) := match cs with
    | '-' :: rest => (true, rest)
    | '+' :: rest => (false, rest)
    | rest => (false, rest)
  match (String.ofList digits).toNat? with
  | some n =>
    if digits.all Char.isDigit then return if negative then -(n : Int) else n
    else fail ("invalid integer " ++ quoted text)
  | none => fail ("invalid integer " ++ quoted text)

def work {α : Type} (w : Work α) : Answer α :=
  StateT.lift (ExceptT.lift w)

/-- Was the first file changed after the second? One that is there is newer than one that is not. -/
def isNewer (first second : String) : Answer Bool := do
  let a? ← work (Work.look? first)
  let b? ← work (Work.look? second)
  match a?, b? with
  | some a, some b => return b.modified < a.modified
  | some _, none => return true
  | none, _ => return false

/-- A question about two words with an operator between them; the length of a text may stand for
either. -/
def binary (leftIsLength : Bool) : Answer Bool := do
  if leftIsLength then advance false
  let first ← word 0
  let operator ← word 1
  let isLength := (← word 2) == "-l" && (← word? 3).isSome
  let second ← if isLength then word 3 else word 2
  modify fun s => { s with place := s.place + if isLength then 4 else 3 }
  let number (isLength : Bool) (text : String) : Answer Int :=
    if isLength then return text.length else whole text
  let compare (f : Int → Int → Bool) : Answer Bool := do
    let a ← number leftIsLength first
    let b ← number isLength second
    return f a b
  match operator with
  | "=" => return first == second
  | "==" => return first == second
  | "!=" => return first != second
  | "-eq" => compare (· == ·)
  | "-ne" => compare (· != ·)
  | "-lt" => compare (· < ·)
  | "-le" => compare (· ≤ ·)
  | "-gt" => compare (· > ·)
  | "-ge" => compare (· ≥ ·)
  | "-nt" => isNewer first second
  | "-ot" => isNewer second first
  | _ => do
    let a ← work (Work.find first)
    let b ← work (Work.find second)
    match a, b with
    | .ok (_, m, _), .ok (_, n, _) => return m == n
    | _, _ => return false

/-- What a letter asks about a file. -/
def askFile (letter : Char) (node : Node) : Bool :=
  match letter with
  | 'x' => node.isDirectory || node.isExecutable
  | 'f' => node.isFile
  | 'd' => node.isDirectory
  | 'c' => match node.kind with
    | .device _ => true
    | _ => false
  | 'b' => false
  | 'S' => false
  | 'p' => match node.kind with
    | .fifo _ => true
    | _ => false
  | 'u' => node.mode &&& 0o4000 != 0
  | 'g' => node.mode &&& 0o2000 != 0
  | 'k' => node.mode &&& 0o1000 != 0
  | 's' => node.size != 0
  | 'O' => node.owner == 0
  | 'G' => node.group == 0
  | 'N' => node.accessed < node.modified
  | _ => true

/-- A question about one word. -/
def unary : Answer Bool := do
  let operator ← word 0
  match operator.toList with
  | ['-', letter] =>
    if !"erwxNOGfdsScbpLhugktnz".toList.contains letter then
      fail (quoted operator ++ ": unary operator expected")
    advance true
    let operand ← word 0
    advance false
    match letter with
    | 'n' => return !operand.isEmpty
    | 'z' => return operand.isEmpty
    | 't' => do
      discard <| whole operand
      return false
    | letter => do
      let isLink := letter == 'L' || letter == 'h'
      match ← work (Work.look? operand (!isLink)) with
      | some node => return if isLink then node.isLink else askFile letter node
      | none => return false
  | _ => fail (quoted operator ++ ": unary operator expected")

def isSwitch (word : String) : Bool :=
  word.length == 2 && word.toList.head? == some '-'

def oneWord : Answer Bool := do
  let text ← word 0
  advance false
  return !text.isEmpty

def twoWords : Answer Bool := do
  let first ← word 0
  if first == "!" then
    advance false
    return !(← oneWord)
  else if isSwitch first then unary
  else beyond

mutual

/-- The answer to a question of so many words. -/
def answer (fuel count : Nat) : Answer Bool :=
  match fuel with
  | 0 => return false
  | fuel + 1 => do
    let first ← word 0
    match count with
    | 1 => oneWord
    | 2 => twoWords
    | 3 => threeWords fuel
    | 4 =>
      if first == "!" then do
        advance true
        return !(← threeWords fuel)
      else if first == "(" && (← word 3) == ")" then do
        advance false
        let value ← twoWords
        advance false
        return value
      else disjunction fuel
    | _ => disjunction fuel

def threeWords (fuel : Nat) : Answer Bool :=
  match fuel with
  | 0 => return false
  | fuel + 1 => do
    let first ← word 0
    let second ← word 1
    if isBinary second then binary false
    else if first == "!" then do
      advance true
      return !(← twoWords)
    else if first == "(" && (← word 2) == ")" then do
      advance false
      let value ← oneWord
      advance false
      return value
    else if second == "-a" || second == "-o" then disjunction fuel
    else fail (quoted second ++ ": binary operator expected")

def disjunction (fuel : Nat) : Answer Bool :=
  match fuel with
  | 0 => return false
  | fuel + 1 => do
    let first ← conjunction fuel
    if (← word? 0) == some "-o" then do
      advance false
      let second ← disjunction fuel
      return first || second
    else return first

def conjunction (fuel : Nat) : Answer Bool :=
  match fuel with
  | 0 => return false
  | fuel + 1 => do
    let first ← term fuel
    if (← word? 0) == some "-a" then do
      advance false
      let second ← conjunction fuel
      return first && second
    else return first

def term (fuel : Nat) : Answer Bool :=
  match fuel with
  | 0 => return false
  | fuel + 1 => do
    match ← word? 0 with
    | none => beyond
    | some "!" => do
      advance true
      return !(← term fuel)
    | some "(" => do
      advance true
      let words ← left
      let s ← get
      let inner := (s.words.toList.drop (s.place + 1)).takeWhile (· != ")")
      let isClosed := inner.length + 1 < words
      let count := if 4 ≤ inner.length + 1 && !(isClosed && inner.length + 1 == 4) then words
        else inner.length + 1
      let value ← answer fuel count
      match ← word? 0 with
      | none => fail ("')' expected")
      | some found =>
        if found != ")" then fail ("')' expected, found " ++ quoted found)
        advance false
        return value
    | some first =>
      let count ← left
      if 4 ≤ count && first == "-l" && isBinary (← word 2) then binary true
      else if 3 ≤ count && isBinary (← word 1) then binary false
      else if isSwitch first then unary
      else oneWord

end

end Answer

/-- `test` and `[`: the code tells the answer. -/
def askQuestion : Tool := do
  let call ← read
  let isBracket := call.name.endsWith "["
  let words := call.arguments
  if isBracket && words.getLast? != some "]" then Work.die "missing ']'" 2
  let words := if isBracket then words.dropLast else words
  if words.isEmpty then Work.exit 1
  let run : Answer Bool := do
    let value ← Answer.answer (8 * words.length + 16) words.length
    match ← Answer.word? 0 with
    | some extra => Answer.fail ("extra argument " ++ quoted extra)
    | none => return value
  match ← (run.run { words := words.toArray }).run with
  | .error message => Work.die message 2
  | .ok (value, _) => Work.setCode (if value then 0 else 1)

end Polyglot.Tool
