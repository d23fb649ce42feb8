import Polyglot.Sandbox.FileTree.Change
import Polyglot.Sandbox.Script.Arithmetic

/-!
# Tests inside the shell

The expressions of `test`: questions about texts, numbers and files, joined by `!`, `-a`, `-o` and
parentheses. A word counts as an operator only where one can stand.
-/

namespace Polyglot.Shell.Testing

inductive Role where
  | unary
  | binary
  | junction
  | negation
  | parenthesis
deriving DecidableEq

def unaryOperators : List String :=
  ["-r", "-w", "-x", "-e", "-f", "-d", "-c", "-b", "-p", "-u", "-g", "-k", "-s", "-t", "-z", "-n",
    "-h", "-O", "-G", "-L", "-S"]

def binaryOperators : List String :=
  ["=", "!=", "<", ">", "-eq", "-ne", "-ge", "-gt", "-le", "-lt", "-nt", "-ot", "-ef"]

def role? (word : String) : Option Role :=
  if unaryOperators.contains word then some .unary
  else if binaryOperators.contains word then some .binary
  else if word == "-a" || word == "-o" then some .junction
  else if word == "!" then some .negation
  else if word == "(" || word == ")" then some .parenthesis
  else none

/-- Where the files are, and the place among the words. -/
structure State where
  tree : FileTree
  directory : Path
  words : List String
  place : Nat := 0

abbrev Test := StateT State (Except String)

def word? (offset : Nat) : Test (Option String) := do
  let s ← get
  return s.words[s.place + offset]?

def move (n : Nat) : Test Unit :=
  modify fun s => { s with place := s.place + n }

/-- The role of a word where it stands. An operator before a text counts as a text itself if a
binary operator follows, or nothing. -/
def roleAt (offset : Nat) : Test (Option Role) := do
  match ← word? offset with
  | none => return none
  | some word =>
    let next? ← word? (offset + 1)
    let isLast := (← word? (offset + 2)).isNone
    match role? word with
    | some .unary =>
      if next?.isNone || (!isLast && next?.bind role? == some .binary) then return none
      return some .unary
    | some .parenthesis =>
      if word == "(" && next?.isNone then return none
      return some .parenthesis
    | role? => return role?

def fail {α : Type} (operator message : String) : Test α :=
  throw (if operator.isEmpty then message else operator ++ ": " ++ message)

def integer (text : String) : Test Int := do
  match Arithmetic.integer? text true false with
  | some n => return n
  | none => throw ("Illegal number: " ++ text)

def node? (name : String) (last : Bool := true) : Test (Option Node) := do
  let s ← get
  return s.tree.look? s.directory name last

def askFile (operator : String) (node : Node) : Bool :=
  match operator with
  | "-x" => node.isDirectory || node.isExecutable
  | "-f" => node.isFile
  | "-d" => node.isDirectory
  | "-c" => match node.kind with
    | .device _ => true
    | _ => false
  | "-b" => false
  | "-p" => match node.kind with
    | .fifo _ => true
    | _ => false
  | "-S" => false
  | "-u" => node.mode &&& 0o4000 != 0
  | "-g" => node.mode &&& 0o2000 != 0
  | "-k" => node.mode &&& 0o1000 != 0
  | "-s" => node.size != 0
  | "-O" => node.owner == 0
  | "-G" => node.group == 0
  | _ => true

def unary (operator operand : String) : Test Bool := do
  match operator with
  | "-z" => return operand.isEmpty
  | "-n" => return !operand.isEmpty
  | "-t" => do
    discard <| integer operand
    return false
  | _ =>
    let isLink := operator == "-h" || operator == "-L"
    match ← node? operand (!isLink) with
    | some node => return if isLink then node.isLink else askFile operator node
    | none => return false

/-- Was the first file changed after the second? -/
def isNewer (first second : String) : Test Bool := do
  match ← node? first, ← node? second with
  | some a, some b => return b.modified < a.modified
  | _, _ => return false

def binary (first operator second : String) : Test Bool := do
  let compare (f : Int → Int → Bool) : Test Bool := return f (← integer first) (← integer second)
  match operator with
  | "=" => return first == second
  | "!=" => return first != second
  | "<" => return first < second
  | ">" => return second < first
  | "-eq" => compare (· == ·)
  | "-ne" => compare (· != ·)
  | "-ge" => compare (· ≥ ·)
  | "-gt" => compare (· > ·)
  | "-le" => compare (· ≤ ·)
  | "-lt" => compare (· < ·)
  | "-nt" => isNewer first second
  | "-ot" => isNewer second first
  | _ => do
    let s ← get
    match s.tree.find s.directory first, s.tree.find s.directory second with
    | .ok (_, a, _), .ok (_, b, _) => return a == b
    | _, _ => return false

mutual

def primary (fuel : Nat) (role : Option Role) : Test Bool :=
  match fuel with
  | 0 => return false
  | fuel + 1 => do
    match ← word? 0 with
    | none => return false
    | some word =>
      if role == some .parenthesis && word == "(" then do
        move 1
        let inner ← roleAt 0
        if inner == some .parenthesis && (← word? 0) == some ")" then return false
        let result ← disjunction fuel inner
        move 1
        if !((← roleAt 0) == some .parenthesis && (← word? 0) == some ")") then
          fail "" "closing paren expected"
        return result
      else if role == some .unary then do
        move 1
        match ← word? 0 with
        | some operand => unary word operand
        | none => fail word "argument expected"
      else if (← roleAt 1) == some .binary then do
        let operator := (← word? 1).getD ""
        match ← word? 2 with
        | some second => do
          move 2
          binary word operator second
        | none => fail operator "argument expected"
      else return !word.isEmpty

def negation (fuel : Nat) (role : Option Role) : Test Bool :=
  match fuel with
  | 0 => return false
  | fuel + 1 => do
    if role != some .negation then primary fuel role
    else do
      let role ← roleAt 1
      if (← word? 1).isSome then do
        move 1
        return !(← negation fuel role)
      else return true

/-- Further operands of a junction, each behind the operator. -/
def conjunction (fuel : Nat) (role : Option Role) : Test Bool :=
  match fuel with
  | 0 => return false
  | fuel + 1 => do
    let first ← negation fuel role
    if (← word? 1) == some "-a" then do
      move 2
      let second ← conjunction fuel (← roleAt 0)
      return first && second
    else return first

def disjunction (fuel : Nat) (role : Option Role) : Test Bool :=
  match fuel with
  | 0 => return false
  | fuel + 1 => do
    let first ← conjunction fuel role
    if (← word? 1) == some "-o" then do
      move 2
      let second ← disjunction fuel (← roleAt 0)
      return first || second
    else return first

end

/-- The words without an exclamation mark or parentheses around them all, and whether the answer is
to be turned round. What the words are is clear where there are only three. -/
def simplify : (fuel : Nat) → (turned : Bool) → List String → Bool × List String × Bool
  | 0, turned, words => (turned, words, false)
  | fuel + 1, turned, words =>
    let isBinary := words.length == 3 && ((words[1]?).bind role? == some .binary)
    if isBinary then (turned, words, true)
    else if words.length == 3 || words.length == 4 then
      if words.head? == some "(" && words.getLast? == some ")" then
        (turned, words.tail.dropLast, false)
      else if words.head? == some "!" then simplify fuel true words.tail
      else (turned, words, false)
    else (turned, words, false)

/-- The answer to an expression, or what is wrong with it. -/
def evaluate (tree : FileTree) (directory : Path) (words : List String) : Except String Bool := do
  let (turned, words, isPlain) := simplify 4 false words
  if words.isEmpty then return turned
  let run : Test Bool := do
    let role ← if isPlain then pure none else roleAt 0
    let result ← disjunction (4 * words.length + 8) role
    match ← word? 0, ← word? 1 with
    | some word, some _ => fail word "unexpected operator"
    | _, _ => return result
  let (result, _) ← run.run { tree, directory, words }
  return result != turned

end Polyglot.Shell.Testing
