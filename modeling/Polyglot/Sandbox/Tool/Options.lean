import Polyglot.Sandbox.Tool.Basic
import Polyglot.Sandbox.Tool.Quote

/-!
# Options and choices

How tools read their arguments: letters after one hyphen, which may be bundled, and words after
two, which may be shortened as long as they stay unambiguous. A letter or a word may want a value.
Options may stand among the other arguments, up to two hyphens alone; some tools stop at the first
argument that is no option.

The values of some options are words out of a list. Words may be shortened as long as they stay
unambiguous, and several words may mean the same.
-/

namespace Polyglot

/-- Does an option take a value? -/
inductive ValueNeed where
  | never
  | always
  /-- Only if it is attached. -/
  | attached
deriving DecidableEq, Repr

/-- The options that a tool knows. -/
structure OptionTable where
  /-- The letters; a colon after one says that it takes a value, two that the value may be
  missing. -/
  letters : String
  /-- Long names with the letter or name that they stand for. A long name ends in an equals sign
  if it takes a value, and in a question mark if the value may be missing. -/
  words : List (String × String) := []
  /-- Options end at the first argument that is none. -/
  stopsEarly : Bool := false
  /-- Other arguments count as options of the name `operand` up to two hyphens alone. -/
  marksOperands : Bool := false
  /-- The code for mistakes. -/
  misuseCode : Nat := 1

/-- An option that was given: a letter, or a name that has no letter. -/
structure GivenOption where
  key : String
  value? : Option String := none
  /-- The value stood in the same argument as the letter. -/
  isAttached : Bool := false
deriving DecidableEq, Repr

namespace GivenOption

def value (option : GivenOption) : String :=
  option.value?.getD ""

end GivenOption

namespace OptionTable

def needIn (c : Char) : List Char → Option ValueNeed
  | [] => none
  | d :: rest =>
    let colons := (rest.takeWhile (· == ':')).length
    if d == c && c != ':' then
      some (if colons == 0 then .never else if colons == 1 then .always else .attached)
    else needIn c rest

def need? (table : OptionTable) (c : Char) : Option ValueNeed :=
  needIn c table.letters.toList

/-- A long name: its text, whether it takes a value, and what it stands for. -/
def readWord (word key : String) : String × ValueNeed × String :=
  if word.endsWith "=" then ((word.dropEnd 1).toString, .always, key)
  else if word.endsWith "?" then ((word.dropEnd 1).toString, .attached, key)
  else (word, .never, key)

/-- All long names; every tool knows two more. -/
def allWords (table : OptionTable) : List (String × ValueNeed × String) :=
  (table.words ++ [("help", "help"), ("version", "version")]).map fun (word, key) =>
    readWord word key

/-- What is wrong with an option. -/
inductive Fault where
  | invalidLetter (c : Char)
  | missingValue (c : Char)
  | unknownWord (text : String)
  | ambiguousWord (text : String) (possible : List String)
  | missingWordValue (word : String)
  | needlessValue (word : String)

def Fault.message : Fault → String
  | invalidLetter c => "invalid option -- '" ++ String.singleton c ++ "'"
  | missingValue c => "option requires an argument -- '" ++ String.singleton c ++ "'"
  | unknownWord text => "unrecognized option '--" ++ text ++ "'"
  | ambiguousWord text possible =>
    "option '--" ++ text ++ "' is ambiguous; possibilities:" ++
      String.join (possible.map fun word => " '--" ++ word ++ "'")
  | missingWordValue word => "option '--" ++ word ++ "' requires an argument"
  | needlessValue word => "option '--" ++ word ++ "' doesn't allow an argument"

/-- The long name that a text means. -/
def findWord (table : OptionTable) (text : String) : Except Fault (String × ValueNeed × String) :=
  let words := table.allWords
  match words.find? (·.1 == text) with
  | some word => .ok word
  | none =>
    match words.filter fun word => text.toList.isPrefixOf word.1.toList with
    | [] => .error (.unknownWord text)
    | first :: others =>
      if others.all fun word => word.2 == first.2 then .ok first
      else .error (.ambiguousWord text ((first :: others).map (·.1)))

/-- What was understood: options in order, other arguments, and the mistake that ended it. -/
structure Reading where
  options : List GivenOption := []
  operands : List String := []
  fault? : Option Fault := none

def Reading.andThen (options : List GivenOption) (reading : Reading) : Reading :=
  { reading with options := options ++ reading.options }

/-- An option with the letters behind it as its value, if there are any. -/
def withLetters (c : Char) (letters : List Char) : GivenOption :=
  if letters.isEmpty then { key := String.singleton c }
  else { key := String.singleton c, value? := some (String.ofList letters), isAttached := true }

/-- The options in a bundle of letters, and the letter that wants the next argument. -/
def bundle (table : OptionTable) :
    List Char → List GivenOption × Option Char × Option Fault
  | [] => ([], none, none)
  | c :: letters =>
    match table.need? c with
    | none => ([], none, some (.invalidLetter c))
    | some .never =>
      let (options, open?, fault?) := bundle table letters
      ({ key := String.singleton c } :: options, open?, fault?)
    | some .always =>
      if letters.isEmpty then ([], some c, none)
      else ([withLetters c letters], none, none)
    | some .attached => ([withLetters c letters], none, none)

/-- A word after two hyphens: the option, or the option that wants the next argument. -/
def takeWord (table : OptionTable) (text : String) :
    Except Fault (GivenOption ⊕ String × String) :=
  let cs := text.toList
  let name := String.ofList (cs.takeWhile (· != '='))
  let value? := match cs.dropWhile (· != '=') with
    | _ :: value => some (String.ofList value)
    | [] => none
  match table.findWord name with
  | .error fault => .error fault
  | .ok (word, need, key) =>
    match need, value? with
    | .never, some _ => .error (.needlessValue word)
    | .always, none => .ok (.inr (word, key))
    | _, _ => .ok (.inl { key, value? })

/-- Read arguments from here on. -/
def readFrom (table : OptionTable) : List String → Reading
  | [] => {}
  | "--" :: rest => { operands := rest }
  | argument :: rest =>
    let operand : Reading :=
      if table.stopsEarly then { operands := argument :: rest }
      else if table.marksOperands then
        (readFrom table rest).andThen [{ key := "operand", value? := some argument }]
      else
        let reading := readFrom table rest
        { reading with operands := argument :: reading.operands }
    match argument.toList with
    | '-' :: '-' :: text =>
      match table.takeWord (String.ofList text) with
      | .error fault => { fault? := some fault }
      | .ok (.inl option) => (readFrom table rest).andThen [option]
      | .ok (.inr (word, key)) =>
        match rest with
        | [] => { fault? := some (.missingWordValue word) }
        | value :: rest => (readFrom table rest).andThen [{ key, value? := some value }]
    | '-' :: c :: letters =>
      match table.bundle (c :: letters) with
      | (options, _, some fault) => { options, fault? := some fault }
      | (options, none, none) => (readFrom table rest).andThen options
      | (options, some c, none) =>
        match rest with
        | [] => { options, fault? := some (.missingValue c) }
        | value :: rest =>
          (readFrom table rest).andThen (options ++ [{ key := String.singleton c, value? := some value }])
    | _ => operand

end OptionTable

namespace Work

/-- Go through the options that were given, then on to the other arguments. Mistakes count where
they stand. -/
def optionsOf {σ : Type} (table : OptionTable) (arguments : List String) (start : σ)
    (step : σ → GivenOption → Work σ) : Work (σ × List String) := do
  let reading := table.readFrom arguments
  let settings ← reading.options.foldlM step start
  match reading.fault? with
  | some fault => misuse fault.message table.misuseCode
  | none => return (settings, reading.operands)

def options {σ : Type} (table : OptionTable) (start : σ) (step : σ → GivenOption → Work σ) :
    Work (σ × List String) := do
  optionsOf table (← read).arguments start step

/-- The options that were given, as they are. -/
def optionList (table : OptionTable) : Work (List GivenOption × List String) :=
  options table [] fun given option => return given ++ [option]

end Work

/-! ## Choices -/

/-- What an option may be set to: words with what they mean. -/
abbrev Choices (α : Type) := List (List String × α)

namespace Choices

/-- The meanings of all words that begin with a text; a whole word counts alone. -/
def matching {α : Type} (choices : Choices α) (text : String) : List α :=
  match choices.find? (·.1.contains text) with
  | some (_, value) => [value]
  | none =>
    (choices.filter fun (words, _) =>
      words.any fun word => text.toList.isPrefixOf word.toList).map (·.2)

/-- The words, those that mean the same on one line. -/
def listing {α : Type} (choices : Choices α) : String :=
  String.join (choices.map fun (words, _) =>
    "  - " ++ ", ".intercalate (words.map fun word => "'" ++ word ++ "'") ++ "\n")

end Choices

namespace Work

/-- The meaning of a word that an option was given. -/
def choice {α : Type} (option text : String) (choices : Choices α) (code : Nat := 1) : Work α := do
  match choices.matching text with
  | [value] => return value
  | found => do
    complain ((if found.isEmpty then "invalid" else "ambiguous") ++ " argument " ++
      Tool.quoted text ++ " for '" ++ option ++ "'")
    murmur ("Valid arguments are:\n" ++ choices.listing)
    hint
    exit code

end Work

end Polyglot
