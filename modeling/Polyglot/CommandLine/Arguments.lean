import Polyglot.Number.Decimal

/-!
# Reading arguments

Options with long names and letters, flags, and words. A value is attached to its option or is
the next argument, which then must not look like an option. Whatever does not fit the grammar is
refused at the first argument that does not.
-/

namespace Polyglot.CommandLine

/-- What may stand as the value of an option. -/
inductive ValueRule where
  | text
  /-- Paths are not empty. -/
  | path
  | number
deriving DecidableEq, Repr

def ValueRule.admits : ValueRule → String → Bool
  | text, _ => true
  | path, value => !value.isEmpty
  | number, value => (Single.read? value).isSome

inductive OptionKind where
  | flag
  | valued (rule : ValueRule)
  /-- Ask for help, whatever else is asked for. -/
  | help
  /-- Ask for the version, whatever else is asked for. -/
  | version
deriving DecidableEq, Repr

structure OptionSpec where
  name : String
  letter : Option Char := none
  kind : OptionKind
  isRequired : Bool := false
  summary : String := ""
  /-- The value that counts where none is given. -/
  stock : Option String := none
deriving DecidableEq, Repr

/-- Why arguments do not lead to a task. -/
inductive Refusal where
  | usage
  /-- Help is wanted, about a task or about all of them. -/
  | help (topic : Option String)
  | version
deriving DecidableEq, Repr

/-- What is understood in one stretch of the arguments. -/
structure Grammar where
  /-- The task that the options belong to. -/
  topic : Option String := none
  options : List OptionSpec
  /-- How many words there may be. -/
  wordLimit : Nat
  /-- The first word ends the stretch. -/
  endsAtWord : Bool := false

/-- Arguments that were understood. -/
structure Found where
  /-- Options with their values; flags have none. -/
  options : List (String × String) := []
  words : List String := []
  /-- The option whose value comes next. -/
  awaiting : Option OptionSpec := none
  /-- From here on everything is a word. -/
  onlyWords : Bool := false

namespace Found

def value? (found : Found) (name : String) : Option String :=
  found.options.lookup name

def has (found : Found) (name : String) : Bool :=
  (found.value? name).isSome

/-- Put an option down, which must not be there already. -/
def put (found : Found) (option : OptionSpec) (value : String) : Except Refusal Found :=
  if found.has option.name then .error .usage
  else .ok { found with options := (option.name, value) :: found.options, awaiting := none }

/-- Put an option down with a value that its rule admits. -/
def putValue (found : Found) (option : OptionSpec) (rule : ValueRule) (value : String) :
    Except Refusal Found :=
  if rule.admits value then found.put option value else .error .usage

end Found

namespace Grammar

def named? (grammar : Grammar) (name : String) : Option OptionSpec :=
  grammar.options.find? (·.name == name)

def lettered? (grammar : Grammar) (letter : Char) : Option OptionSpec :=
  grammar.options.find? (·.letter == some letter)

/-- A flag, or one of the options that end the reading. -/
def takeFlag (grammar : Grammar) (found : Found) (option : OptionSpec) : Except Refusal Found :=
  match option.kind with
  | .help => .error (.help grammar.topic)
  | .version => .error .version
  | _ => found.put option ""

/-- An option written out, with the value attached to it. -/
def takeNamed (grammar : Grammar) (found : Found) (option : OptionSpec) (attached : Option String) :
    Except Refusal Found :=
  match option.kind, attached with
  | .valued rule, some value => found.putValue option rule value
  | .valued _, none => .ok { found with awaiting := some option }
  | _, some _ => .error .usage
  | _, none => grammar.takeFlag found option

/-- Letters after one dash: flags, and at last perhaps an option with its value. -/
def takeLetters (grammar : Grammar) (found : Found) : List Char → Except Refusal Found
  | [] => .ok found
  | letter :: rest =>
    match grammar.lettered? letter with
    | none => .error .usage
    | some option =>
      match option.kind with
      | .valued rule =>
        match rest with
        | [] => .ok { found with awaiting := some option }
        | '=' :: value => found.putValue option rule (String.ofList value)
        | value => found.putValue option rule (String.ofList value)
      | _ =>
        match grammar.takeFlag found option with
        | .error refusal => .error refusal
        | .ok found => takeLetters grammar found rest

/-- A word, if there is room for it. No word is empty. -/
def takeWord (grammar : Grammar) (found : Found) (word : String) : Except Refusal Found :=
  if word.isEmpty || grammar.wordLimit ≤ found.words.length then .error .usage
  else if found.onlyWords && grammar.endsAtWord then .error .usage
  else .ok { found with words := found.words ++ [word] }

/-- An argument that looks like an option. -/
def takeOption (grammar : Grammar) (found : Found) : List Char → Except Refusal Found
  | ['-'] => .ok { found with onlyWords := true }
  | '-' :: rest =>
    let name := rest.takeWhile (· != '=')
    let attached := match rest.dropWhile (· != '=') with
      | '=' :: value => some (String.ofList value)
      | _ => none
    match grammar.named? (String.ofList name) with
    | some option => grammar.takeNamed found option attached
    | none => .error .usage
  | letters => grammar.takeLetters found letters

/-- One argument more. -/
def take (grammar : Grammar) (found : Found) (argument : String) : Except Refusal Found :=
  match found.onlyWords, argument.toList with
  | false, '-' :: c :: rest =>
    if found.awaiting.isSome then .error .usage else grammar.takeOption found (c :: rest)
  | _, _ =>
    match found.awaiting with
    | some option =>
      match option.kind with
      | .valued rule => found.putValue option rule argument
      | _ => .error .usage
    | none => grammar.takeWord found argument

/-- Is every option there that must be? -/
def isComplete (grammar : Grammar) (found : Found) : Bool :=
  grammar.options.all fun option => !option.isRequired || found.has option.name

/-- Read arguments to the end or to the word that ends the stretch; what follows it is left. -/
def read (grammar : Grammar) (found : Found) : List String → Except Refusal (Found × List String)
  | [] =>
    if found.awaiting.isSome || !grammar.isComplete found then .error .usage else .ok (found, [])
  | argument :: rest =>
    match grammar.take found argument with
    | .error refusal => .error refusal
    | .ok found =>
      if grammar.endsAtWord && !found.words.isEmpty then .ok (found, rest)
      else read grammar found rest

end Grammar

end Polyglot.CommandLine
