import Polyglot.Sandbox.Script.Basic

/-!
# Tokens of scripts

Words and signs, what marks where each of them ends, and the state of a reader that goes over the
octets of a script. While the value of an alias is read, the text around it waits.
-/

namespace Polyglot.Shell

/-- A mistake in a script, the line of it, and what is left of the text. -/
structure ScriptFault where
  line : Nat
  message : String
  rest : List Char := []
deriving DecidableEq, Repr

inductive Token where
  | word
  | redirection
  | newline
  | ending
  | sign (text : String)
  /-- A word of the language itself. -/
  | keyword (text : String)
deriving DecidableEq, Repr

namespace Token

/-- How a token is called in complaints. -/
def name : Token → String
  | word => "word"
  | redirection => "redirection"
  | newline => "newline"
  | ending => "end of file"
  | sign text => "\"" ++ text ++ "\""
  | keyword text => "\"" ++ text ++ "\""

def keywords : List String :=
  ["!", "\x7b", "\x7d", "case", "do", "done", "elif", "else", "esac", "fi", "for", "if", "in",
    "then", "until", "while"]

/-- Tokens that no command begins with and that end a list of commands. -/
def endsList : Token → Bool
  | ending => true
  | sign text => [")", ";;"].contains text
  | keyword text => ["do", "done", "elif", "else", "esac", "fi", "then", "\x7d"].contains text
  | _ => false

end Token

/-- What to look out for when a token is read. -/
structure Lookout where
  /-- Line ends are passed over. -/
  newlines : Bool := false
  keywords : Bool := false
  aliases : Bool := false

namespace Lookout

def none : Lookout := {}
def command : Lookout := { keywords := true, aliases := true }
def anywhere : Lookout := { newlines := true, keywords := true, aliases := true }
def keyword : Lookout := { newlines := true, keywords := true }
def aliased : Lookout := { aliases := true }

end Lookout

/-- A text in the script that is still to come. -/
structure PendingDocument where
  number : Nat
  delimiter : List Char
  /-- Whether the text has expansions. -/
  expands : Bool
  /-- Whether tabs at the start of lines are dropped. -/
  dropsTabs : Bool

/-- The text around the value of an alias. -/
structure Surroundings where
  name : String
  rest : List Char
  /-- The value ends with a blank, so that the next word may be an alias too. -/
  goesOn : Bool

structure ReaderState where
  rest : List Char
  around : List Surroundings := []
  line : Nat := 1
  /-- The last token. -/
  token : Token := .newline
  /-- The last token is to be read again. -/
  isBack : Bool := false
  /-- The last word, and its text if nothing in it is special. -/
  word : Word := []
  plain? : Option String := none
  /-- Sign and channel of the last redirection. -/
  redirection : String × Option Nat := ("", none)
  /-- The next word may be an alias. -/
  aliasNext : Bool := false
  /-- Dollar signs and backquotes mean nothing. -/
  isDelimiter : Bool := false
  pending : List PendingDocument := []
  documents : List (Nat × Word) := []
  /-- The number of the next document. -/
  nextDocument : Nat := 0
  aliases : List (String × String) := []

abbrev Reader := StateT ReaderState (Except ScriptFault)

namespace Reader

def fail {α : Type} (message : String) : Reader α := do
  let s ← get
  throw ⟨s.line, "Syntax error: " ++ message, s.rest⟩

def setRest (rest : List Char) : Reader Unit :=
  modify fun s => { s with rest }

/-- Count the line feeds that were passed over. -/
def countLines (cs : List Char) : Reader Unit :=
  modify fun s => { s with line := s.line + cs.count '\n' }

/-! ## Characters -/

/-- Go on with the text around an alias whose value has been read. -/
def leaveAlias (s : ReaderState) : ReaderState :=
  match s.around with
  | [] => s
  | outer :: around =>
    { s with rest := outer.rest, around, aliasNext := s.aliasNext || outer.goesOn }

/-- Leave all aliases that have been read to their ends. -/
def leaveAliases : (fuel : Nat) → Reader Unit
  | 0 => pure ()
  | fuel + 1 => do
    let s ← get
    if s.rest.isEmpty && !s.around.isEmpty then
      set (leaveAlias s)
      leaveAliases fuel

/-- Drop line ends behind backslashes. -/
def joinLines : (fuel : Nat) → Reader Unit
  | 0 => pure ()
  | fuel + 1 => do
    match (← get).rest with
    | '\\' :: '\n' :: rest => do
      countLines ['\n']
      setRest rest
      joinLines fuel
    | _ => pure ()

/-- The next character, which stays where it is. -/
def peek? (joins : Bool := true) : Reader (Option Char) := do
  leaveAliases ((← get).around.length + 1)
  if joins then joinLines ((← get).rest.length + 1)
  return (← get).rest.head?

/-- Pass over the next character. -/
def skip : Reader Unit :=
  modify fun s => { s with rest := s.rest.tail }

/-- The next character of a word without quotes. The value of an alias ends a word unless a blank
ends it. -/
def peekBare? : Reader (Option Char) := do
  let s ← get
  match s.rest, s.around with
  | [], outer :: _ => if outer.goesOn then peek? else return none
  | _, _ => peek?

/-- Parameters whose name is one sign. -/
def isSpecialParameter (c : Char) : Bool :=
  ['@', '*', '#', '?', '-', '$', '!'].contains c

/-- Characters that end a word without quotes. -/
def endsWord (c : Char) : Bool :=
  [' ', '\t', '\n', ';', '&', '|', '<', '>', '(', ')'].contains c

/-! ## Tokens -/

def unexpected {α : Type} (wanted? : Option Token) : Reader α := do
  fail ((← get).token.name ++ " unexpected" ++ (match wanted? with
    | some token => " (expecting " ++ token.name ++ ")"
    | none => ""))

/-- The last token is to be read again. -/
def pushBack : Reader Unit :=
  modify fun s => { s with isBack := true }

/-- Note a token as the last one. -/
def found (token : Token) : Reader Token := do
  modify fun s => { s with token }
  return token

/-- A part of a word from characters in reverse order. -/
def flush (bare : List Char) (parts : List WordPart) : List WordPart :=
  if bare.isEmpty then parts else .bare (String.ofList bare.reverse) :: parts

/-- The first of some signs with which a text begins, and what follows it. -/
def takeSign (signs : List String) (cs : List Char) : Option (String × List Char) :=
  signs.findSome? fun sign =>
    if sign.toList.isPrefixOf cs then some (sign, cs.drop sign.length) else none

/-- What a word is without its quotes. -/
def unquote : List WordPart → List Char
  | [] => []
  | .bare text :: parts => text.toList ++ unquote parts
  | .quoted text :: parts => text.toList ++ unquote parts
  | .doubleQuoted inner :: parts => inner.flatMap (fun
      | .bare text => text.toList
      | .quoted text => text.toList
      | _ => []) ++ unquote parts
  | _ :: parts => unquote parts

/-- The text of a word in which nothing is special. -/
def plainText? : List WordPart → Option String
  | [] => some ""
  | [.bare text] => some text
  | _ => none

/-- The lines of a document up to its delimiter, what follows that, and how many line ends the
delimiter took. A line that is continued by a backslash cannot be followed by the delimiter. -/
def documentBody (document : PendingDocument) :
    (fuel : Nat) → List Char → List Char × List Char × Nat
  | 0, cs => (cs, [], 0)
  | _ + 1, [] => ([], [], 0)
  | fuel + 1, cs =>
    let cs := if document.dropsTabs then cs.dropWhile (· == '\t') else cs
    let line := cs.takeWhile (· != '\n')
    let after := cs.drop (line.length + 1)
    if line == document.delimiter then
      ([], after, if line.length < cs.length then 1 else 0)
    else
      let (body, rest, ends) := continued document fuel cs
      (body, rest, ends)
where
  /-- Copy a line, with those that continue it. -/
  continued (document : PendingDocument) :
      (fuel : Nat) → List Char → List Char × List Char × Nat
  | 0, cs => (cs, [], 0)
  | _ + 1, [] => ([], [], 0)
  | fuel + 1, '\\' :: c :: rest =>
    if document.expands then
      let (body, rest, ends) := continued document fuel rest
      ('\\' :: c :: body, rest, ends)
    else if c == '\n' then
      let (body, rest, ends) := documentBody document fuel rest
      ('\\' :: c :: body, rest, ends)
    else
      let (body, rest, ends) := continued document fuel (c :: rest)
      ('\\' :: body, rest, ends)
  | fuel + 1, '\n' :: rest =>
    let (body, rest, ends) := documentBody document fuel rest
    ('\n' :: body, rest, ends)
  | fuel + 1, c :: rest =>
    let (body, rest, ends) := continued document fuel rest
    (c :: body, rest, ends)

/-- The characters up to a backquote, with the backslashes before backquotes, dollar signs and
backslashes taken out; then what follows the backquote. -/
def untilBackquote (inDouble : Bool) : List Char → Option (List Char × List Char)
  | [] => none
  | '\x60' :: rest => some ([], rest)
  | '\\' :: '\n' :: rest => untilBackquote inDouble rest
  | ['\\'] => none
  | '\\' :: c :: rest =>
    (untilBackquote inDouble rest).map fun (inner, rest) =>
      if ['\x60', '$', '\\'].contains c || (inDouble && c == '"') then (c :: inner, rest)
      else ('\\' :: c :: inner, rest)
  | c :: rest => (untilBackquote inDouble rest).map fun (inner, rest) => (c :: inner, rest)

/-- Find a name among the aliases, unless its value is being read. -/
def alias? (s : ReaderState) (name : String) : Option String :=
  if s.around.any (·.name == name) then none else s.aliases.lookup name

/-- Read the value of an alias in place of its name. -/
def enterAlias (name value : String) : Reader Unit :=
  modify fun s =>
    if value.isEmpty then s
    else
      let goesOn := value.endsWith " " || value.endsWith "\t"
      { s with rest := value.toList, around := ⟨name, s.rest, goesOn⟩ :: s.around }

end Reader

end Polyglot.Shell
