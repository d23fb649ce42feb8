import Polyglot.Sandbox.Tool.Concatenation
import Polyglot.Sandbox.Tool.Options
import Polyglot.Sandbox.Tool.Quantity

/-!
# Repeated lines

Leaving out, counting or showing lines that are repeated one after another.
-/

namespace Polyglot.Tool

/-- Where empty lines stand between groups of lines. -/
inductive GroupMark where
  | none
  | prepend
  | append
  | separate
  | both
deriving DecidableEq, Repr

structure RepeatSettings where
  counts : Bool := false
  /-- Show lines that are not repeated. -/
  singles : Bool := true
  /-- Show one of the lines that are. -/
  repeated : Bool := true
  /-- Show all of them. -/
  allRepeated? : Option GroupMark := Option.none
  /-- Show all lines in groups. -/
  groups? : Option GroupMark := Option.none
  ignoresCase : Bool := false
  skippedFields : Nat := 0
  skippedChars : Nat := 0
  compared? : Option Nat := Option.none
  mark : Char := '\n'
  /-- An option was given that does not go with groups. -/
  selects : Bool := false
  /-- The number of fields to skip was given as one. -/
  hasFieldCount : Bool := false
  /-- The input and the output. -/
  files : List String := []

namespace RepeatSettings

def options : OptionTable where
  letters := "0123456789Dcdf:is:uw:z"
  marksOperands := true
  words := [("count", "c"), ("repeated", "d"), ("all-repeated?", "all"), ("group?", "group"),
    ("ignore-case", "i"), ("unique", "u"), ("skip-fields=", "f"), ("skip-chars=", "s"),
    ("check-chars=", "w"), ("zero-terminated", "z")]

/-- A size; one that is too large is as good as none. -/
def size (complaint text : String) : Work Nat :=
  match Quantity.unsigned "" text with
  | .ok n => return n
  | .error .overflow => return Quantity.greatest
  | .error _ => Work.die (text ++ ": " ++ complaint)

/-- A number of characters to skip among the operands, after a plus sign. -/
def skipped? (operand : String) : Option Nat :=
  match operand.toList with
  | '+' :: digits =>
    match Quantity.unsigned "" operand with
    | .ok n => if digits.all Char.isDigit then some n else none
    | .error _ => none
  | _ => none

def withFile (settings : RepeatSettings) (file : String) : Work RepeatSettings := do
  if settings.files.length = 2 then Work.misuse ("extra operand " ++ quoted file)
  return { settings with files := settings.files ++ [file] }

def step (settings : RepeatSettings) (option : GivenOption) : Work RepeatSettings := do
  match option.key with
  | "c" => return { settings with counts := true, selects := true }
  | "d" => return { settings with singles := false, selects := true }
  | "D" =>
    return { settings with singles := false, allRepeated? := some .none, selects := true }
  | "all" => do
    let mark ← Work.choice "--all-repeated" (option.value?.getD "none")
      [(["none"], GroupMark.none), (["prepend"], .prepend), (["separate"], .separate)]
    return { settings with singles := false, allRepeated? := some mark, selects := true }
  | "group" => do
    let mark ← Work.choice "--group" (option.value?.getD "separate")
      [(["prepend"], GroupMark.prepend), (["append"], .append), (["separate"], .separate),
        (["both"], .both)]
    return { settings with groups? := some mark }
  | "i" => return { settings with ignoresCase := true }
  | "u" => return { settings with repeated := false, selects := true }
  | "f" => return { settings with
      skippedFields := ← size "invalid number of fields to skip" option.value
      hasFieldCount := true }
  | "s" => return { settings with
      skippedChars := ← size "invalid number of bytes to skip" option.value }
  | "w" => return { settings with
      compared? := some (← size "invalid number of bytes to compare" option.value) }
  | "z" => return { settings with mark := '\x00' }
  | "operand" =>
    match skipped? option.value with
    | some n => return { settings with skippedChars := n }
    | Option.none => settings.withFile option.value
  | digit =>
    let before := if settings.hasFieldCount then 0 else settings.skippedFields
    return { settings with
      skippedFields := before * 10 + decimal digit.toList
      hasFieldCount := false }

/-- A line without some fields at its start. -/
def withoutFields : (count : Nat) → List Char → List Char
  | 0, cs => cs
  | _, [] => []
  | count + 1, cs => withoutFields count
    ((cs.dropWhile CharClass.isBlank).dropWhile (!CharClass.isBlank ·))

/-- What is compared of a line. -/
def key (settings : RepeatSettings) (line : List Char) : List Char :=
  let cs := (withoutFields (min settings.skippedFields line.length) line).drop
    settings.skippedChars
  let cs := match settings.compared? with
    | some n => cs.take n
    | Option.none => cs
  if settings.ignoresCase then cs.map Char.toUpper else cs

/-- Lines that follow one another and are the same to the settings. -/
def runs (settings : RepeatSettings) (lines : List (List Char)) : List (List (List Char)) :=
  lines.foldr
    (fun line runs => match runs with
      | (next :: run) :: others =>
        if settings.key line == settings.key next then (line :: next :: run) :: others
        else [line] :: (next :: run) :: others
      | others => [line] :: others)
    []

/-- The lines that are shown. -/
def shown (settings : RepeatSettings) (runs : List (List (List Char))) : List (List Char) :=
  match settings.groups?, settings.allRepeated? with
  | some mark, _ =>
    let body := (runs.intersperse [[]]).flatten
    let isOpen := mark == .prepend || mark == .both
    let isClosed := mark == .append || mark == .both
    if runs.isEmpty then []
    else (if isOpen then [[]] else []) ++ body ++ (if isClosed then [[]] else [])
  | Option.none, some mark =>
    let runs := if settings.repeated then runs.filter (1 < ·.length) else []
    match mark with
    | .prepend => runs.flatMap ([] :: ·)
    | .separate => (runs.intersperse [[]]).flatten
    | _ => runs.flatten
  | Option.none, Option.none =>
    let kept := runs.filter fun run =>
      if run.length = 1 then settings.singles else settings.repeated
    kept.map fun run =>
      let line := run.headD []
      if settings.counts then (padLeft 7 (toString run.length) ++ " ").toList ++ line else line

end RepeatSettings

/-- `uniq`: lines without those that repeat the line before. -/
def dropRepeats : Tool := do
  let (settings, operands) ← Work.options RepeatSettings.options ({} : RepeatSettings)
    RepeatSettings.step
  let settings ← operands.foldlM RepeatSettings.withFile settings
  if settings.groups?.isSome && settings.selects then
    Work.misuse "--group is mutually exclusive with -c/-d/-D/-u"
  if settings.allRepeated?.isSome && settings.counts then
    Work.misuse "printing all duplicated lines and repeat counts is meaningless"
  let input := settings.files.headD "-"
  let output := settings.files[1]?.getD "-"
  -- the output is emptied before anything is read
  let refuse {α : Type} (file : String) (e : SystemError) : Work α :=
    Work.die (shellName file ++ ": " ++ e.reason)
  if input != "-" then
    match ← Work.find input with
    | .ok _ => pure ()
    | .error e => refuse input e
  if output != "-" then
    match ← Work.writeFile output "" with
    | .ok () => pure ()
    | .error e => refuse output e
  match ← Work.streamFile input with
  | .error .isADirectory => Work.die ("error reading " ++ shellQuoted input)
  | .error e => refuse input e
  | .ok cs => do
    let lines := settings.shown (settings.runs (textPieces settings.mark cs))
    let text := String.ofList (lines.flatMap (· ++ [settings.mark]))
    if output == "-" then Work.say text
    else
      match ← Work.writeFile output text with
      | .ok () => pure ()
      | .error e => refuse output e

end Polyglot.Tool
