import Polyglot.Text.Utf8

/-!
# Shell scripts

The language of the shell as trees: words with their quotes and expansions, redirections, and
commands simple and compound.
-/

namespace Polyglot.Shell

/-- What to do with the value of a parameter. -/
inductive ParameterUse where
  | value
  | length
  /-- Take the word if the parameter is unset or, as asked, empty. -/
  | orElse (ifEmpty : Bool)
  /-- Take the word and assign it, under the same conditions. -/
  | orAssign (ifEmpty : Bool)
  /-- Stop with the word as complaint, under the same conditions. -/
  | orComplain (ifEmpty : Bool)
  /-- Take the word under the opposite conditions. -/
  | inStead (ifEmpty : Bool)
  /-- Cut off what the word matches, at the start or at the end. -/
  | cut (atEnd longest : Bool)
  /-- Nobody can make sense of what is asked. -/
  | senseless
deriving DecidableEq, Repr

/-- Tests of a loop: go on while the test succeeds, or until it does. -/
inductive LoopKind where
  | whileTrue
  | untilTrue
deriving DecidableEq, Repr

/-- How a redirection opens a file. -/
inductive FileUse where
  | read
  | write
  /-- Write even to a file that is protected by an option of the shell. -/
  | overwrite
  | append
  | readWrite
deriving DecidableEq, Repr

mutual

inductive WordPart where
  /-- Characters without quotes. -/
  | bare (text : String)
  /-- Characters in single quotes or after a backslash. -/
  | quoted (text : String)
  | doubleQuoted (parts : List WordPart)
  | parameter (name : String) (use : ParameterUse) (word : List WordPart)
  /-- The output of a script. -/
  | output (script : Script)
  | arithmetic (parts : List WordPart)

/-- A redirection of a channel to a file, to another channel, or from a text in the script, which is
known by its number. -/
inductive Redirection where
  | file (use : FileUse) (channel : Nat) (target : List WordPart)
  | duplicate (channel : Nat) (source : List WordPart)
  | document (channel : Nat) (number : Nat)

inductive Script where
  /-- No command at all. -/
  | nothing
  | simple (line : Nat) (assignments : List (List WordPart)) (words : List (List WordPart))
      (redirections : List Redirection)
  | pipeline (inBackground : Bool) (scripts : List Script)
  | negation (script : Script)
  | both (first second : Script)
  | either (first second : Script)
  | sequence (first second : Script)
  | background (script : Script) (redirections : List Redirection)
  | branch (test yes no : Script)
  | loop (kind : LoopKind) (test body : Script)
  /-- A loop over words, or over all parameters. -/
  | each (line : Nat) (name : String) (words : Option (List (List WordPart))) (body : Script)
  | choose (line : Nat) (word : List WordPart) (arms : List (List (List WordPart) × Script))
  | function (line : Nat) (name : String) (body : Script)
  | redirected (line : Nat) (script : Script) (redirections : List Redirection)
  | subshell (line : Nat) (script : Script) (redirections : List Redirection)

end

instance : Inhabited Script := ⟨.nothing⟩

abbrev Word := List WordPart

namespace Script

def isNothing : Script → Bool
  | nothing => true
  | _ => false

/-- The same to be done in the background. -/
def inBackground : Script → Script
  | pipeline _ scripts => pipeline true scripts
  | redirected _ script redirections => background script redirections
  | script => background script []

/-- One after the other. -/
def andThen : Script → Script → Script
  | nothing, second => second
  | first, second => sequence first second

end Script

/-! ## Names -/

def isNameStart (c : Char) : Bool :=
  c.isAlpha || c == '_'

def isNamePart (c : Char) : Bool :=
  c.isAlphanum || c == '_'

/-- The name that a text begins with, and what follows it. -/
def splitName (cs : List Char) : List Char × List Char :=
  match cs with
  | [] => ([], [])
  | c :: _ => if isNameStart c then (cs.takeWhile isNamePart, cs.dropWhile isNamePart) else ([], cs)

def isName (text : String) : Bool :=
  let (name, rest) := splitName text.toList
  !name.isEmpty && rest.isEmpty

/-- Does a word look like `name=value`? -/
def Word.isAssignment : Word → Bool
  | .bare text :: _ =>
    let (name, rest) := splitName text.toList
    !name.isEmpty && rest.head? == some '='
  | _ => false

end Polyglot.Shell
