import Polyglot.Sandbox.Tool.Concatenation
import Polyglot.Sandbox.Tool.Quantity

/-!
# Sorted files side by side

Telling which lines two files have in common, and joining lines that agree in a field. Both files
must be sorted; that they are is looked at as soon as it matters.
-/

namespace Polyglot.Tool

/-- The order of octets. -/
def compareChars : List Char → List Char → Ordering
  | [], [] => .eq
  | [], _ => .lt
  | _, [] => .gt
  | a :: as, b :: bs => if a == b then compareChars as bs else if a < b then .lt else .gt

/-- When the order of the files is looked at. -/
inductive OrderCheck where
  /-- Once a line has no partner. -/
  | whenNeeded
  | always
  | never
deriving DecidableEq, Repr

/-- The two files that a tool wants. -/
def twoFiles (operands : List String) : Work (String × String) := do
  match operands with
  | [first, second] => return (first, second)
  | [] => Work.misuse "missing operand"
  | [first] => Work.misuse ("missing operand after " ++ quoted first)
  | _ :: _ :: extra :: _ => Work.misuse ("extra operand " ++ quoted extra)

/-- The lines of two files, of which one may be the standard input. -/
def linesOfBoth (mark : Char) (first second : String) :
    Work (List (List Char) × List (List Char)) := do
  let linesOf (operand : String) : Work (List (List Char)) := do
    match ← Work.readFile operand with
    | .ok cs => return textPieces mark cs
    | .error e => Work.die (shellName operand ++ ": " ++ e.reason)
  return (← linesOf first, ← linesOf second)

/-! ## Lines in common -/

structure CommonSettings where
  showsFirst : Bool := true
  showsSecond : Bool := true
  showsBoth : Bool := true
  check : OrderCheck := .whenNeeded
  joint? : Option String := none
  mark : Char := '\n'
  total : Bool := false

namespace CommonSettings

def options : OptionTable where
  letters := "123z"
  words := [("check-order", "check"), ("nocheck-order", "nocheck"), ("output-delimiter=", "joint"),
    ("total", "total"), ("zero-terminated", "z")]

def step (settings : CommonSettings) (option : GivenOption) : Work CommonSettings :=
  match option.key with
  | "1" => return { settings with showsFirst := false }
  | "2" => return { settings with showsSecond := false }
  | "3" => return { settings with showsBoth := false }
  | "check" => return { settings with check := .always }
  | "nocheck" => return { settings with check := .never }
  | "joint" => do
    if settings.joint?.any (· != option.value) then
      Work.die "multiple output delimiters specified"
    return { settings with joint? := some option.value }
  | "total" => return { settings with total := true }
  | "z" => return { settings with mark := '\x00' }
  | _ => return settings

def joint (settings : CommonSettings) : String :=
  match settings.joint? with
  | some "" => "\x00"
  | some joint => joint
  | none => "\t"

/-- A line in the column for the first file, the second, or both. -/
def column (settings : CommonSettings) (column : Nat) (line : List Char) : String :=
  let first := if settings.showsFirst && 1 < column then settings.joint else ""
  let second := if settings.showsSecond && 2 < column then settings.joint else ""
  let isShown := match column with
    | 1 => settings.showsFirst
    | 2 => settings.showsSecond
    | _ => settings.showsBoth
  if isShown then first ++ second ++ String.ofList line ++ String.singleton settings.mark else ""

end CommonSettings

/-- A file that is gone through: the line before, the lines to come, and whether it was told that it
is not sorted. -/
structure SortedSource where
  before? : Option (List Char) := none
  lines : List (List Char)
  isDisordered : Bool := false

namespace SortedSource

/-- Whether a line comes before one that it should follow. -/
def isWrong : Option (List Char) → Option (List Char) → Bool
  | some a, some b => compareChars a b == .gt
  | _, _ => false

/-- Go on to the next line. At the end, the last two are looked at once more. -/
def advance (source : SortedSource) (settings : CommonSettings) (number : Nat)
    (looks : Bool) : Work SortedSource := do
  let current? := source.lines.head?
  let next? := source.lines.tail.head?
  let wrong := if next?.isSome then isWrong current? next? else isWrong source.before? current?
  let source := { source with before? := current?, lines := source.lines.tail }
  if looks && wrong && !source.isDisordered then do
    Work.fault ("file " ++ toString number ++ " is not in sorted order")
    if settings.check = .always then Work.exit 1
    return { source with isDisordered := true }
  return source

end SortedSource

/-- Go through both files. The numbers are of lines only in the first, in the second, in both. -/
def compareFrom (settings : CommonSettings) : (fuel : Nat) → (unpaired : Bool) →
    SortedSource → SortedSource → Nat × Nat × Nat → Work (Bool × Nat × Nat × Nat)
  | 0, _, first, second, totals => return (first.isDisordered || second.isDisordered, totals)
  | fuel + 1, unpaired, first, second, (n₁, n₂, n₃) => do
    let order : Option (Ordering × List Char) := match first.lines, second.lines with
      | [], [] => none
      | [], b :: _ => some (.gt, b)
      | a :: _, [] => some (.lt, a)
      | a :: _, b :: _ => some (compareChars a b, if compareChars a b == .gt then b else a)
    match order with
    | none => return (first.isDisordered || second.isDisordered, n₁, n₂, n₃)
    | some (order, line) => do
      let (column, totals) := match order with
        | .lt => (1, n₁ + 1, n₂, n₃)
        | .gt => (2, n₁, n₂ + 1, n₃)
        | .eq => (3, n₁, n₂, n₃ + 1)
      Work.say (settings.column column line)
      let unpaired := unpaired || order != .eq
      let looks := settings.check == .always || (settings.check == .whenNeeded && unpaired)
      let first ← if order != .gt then first.advance settings 1 looks else pure first
      let second ← if order != .lt then second.advance settings 2 looks else pure second
      compareFrom settings fuel unpaired first second totals

/-- `comm`: the lines of two sorted files in columns. -/
def commonLines : Tool := do
  let (settings, operands) ← Work.options CommonSettings.options ({} : CommonSettings)
    CommonSettings.step
  let (first, second) ← twoFiles operands
  let (a, b) ← linesOfBoth settings.mark first second
  let (isDisordered, n₁, n₂, n₃) ← compareFrom settings (a.length + b.length + 1) false
    { lines := a } { lines := b } (0, 0, 0)
  if settings.total then
    Work.say (settings.joint.intercalate [toString n₁, toString n₂, toString n₃, "total"] ++
      String.singleton settings.mark)
  if isDisordered then Work.die "input is not in sorted order"

/-! ## Joining -/

/-- What is shown of a pair: the field that agrees, or a field of one of the files. -/
inductive JoinField where
  | key
  | field (file index : Nat)
deriving DecidableEq, Repr

/-- What an argument that is no option may turn out to be once there are more than two files. -/
inductive OperandKind where
  | file
  /-- The field of a file. -/
  | fieldOf (file : Nat)
  | format
deriving DecidableEq, Repr

structure JoinSettings where
  unpaired : List Nat := []
  showsPairs : Bool := true
  filler? : Option String := none
  ignoresCase : Bool := false
  field₁? : Option Nat := none
  field₂? : Option Nat := none
  format? : Option (List JoinField) := none
  isAutomatic : Bool := false
  separator? : Option Char := none
  check : OrderCheck := .whenNeeded
  header : Bool := false
  mark : Char := '\n'
  operands : List (String × OperandKind) := []
  /-- What the next argument that is no option may be. -/
  expected : OperandKind := .file
  /-- How often a file was named right behind the letter for both, and no field after it. -/
  bare₁ : Int := 0
  bare₂ : Int := 0

namespace JoinSettings

def options : OptionTable where
  letters := "a:e:i1:2:j:o:t:v:z"
  marksOperands := true
  words := [("ignore-case", "i"), ("check-order", "check"), ("nocheck-order", "nocheck"),
    ("zero-terminated", "z"), ("header", "header")]

def fieldNumber (text : String) : Work Nat :=
  match Quantity.unsigned "" text with
  | .ok 0 => Work.die ("invalid field number: " ++ quoted text)
  | .ok n => return n - 1
  | .error .overflow => return Quantity.greatest
  | .error _ => Work.die ("invalid field number: " ++ quoted text)

def withField (old? : Option Nat) (new : Nat) : Work (Option Nat) := do
  match old? with
  | some old =>
    if old != new then
      Work.die ("incompatible join fields " ++ toString old ++ ", " ++ toString new)
    return some new
  | none => return some new

/-- One field of a format. -/
def formatField (text : String) : Work JoinField :=
  match text.toList with
  | ['0'] => return .key
  | '0' :: _ => Work.die ("invalid field specifier: " ++ quoted text)
  | c :: '.' :: rest =>
    if c == '1' || c == '2' then do
      return .field (c.toNat - 48) (← fieldNumber (String.ofList rest))
    else Work.die ("invalid file number in field spec: " ++ quoted text)
  | c :: _ =>
    if c == '1' || c == '2' then Work.die ("invalid field specifier: " ++ quoted text)
    else Work.die ("invalid file number in field spec: " ++ quoted text)
  | [] => Work.die ("invalid file number in field spec: " ++ quoted text)

/-- The fields of a format, between commas and blanks. -/
def formatFields (text : String) : Work (List JoinField) :=
  let isGap (c : Char) := c == ',' || CharClass.isBlank c
  ((text.toList.map fun c => if isGap c then ',' else c).splitOn ',').mapM fun piece =>
    formatField (String.ofList piece)

/-- Note the field of a file, or of both. -/
def withFields (settings : JoinSettings) (files : List Nat) (n : Nat) : Work JoinSettings := do
  let settings ← if files.contains 1 then
      pure { settings with field₁? := ← withField settings.field₁? n } else pure settings
  if files.contains 2 then return { settings with field₂? := ← withField settings.field₂? n }
  else return settings

def withFormat (settings : JoinSettings) (text : String) : Work JoinSettings := do
  return { settings with format? := some (settings.format?.getD [] ++ (← formatFields text)) }

/-- Take an argument that is no option. The first one that need not be a file gives way. -/
def withOperand (settings : JoinSettings) (name : String) : Work JoinSettings := do
  let next := (name, settings.expected)
  let settings ← match settings.operands with
    | [(a, .file), (b, kind)] => do
      if kind = .file then Work.misuse ("extra operand " ++ quoted name)
      pure { ← resolve settings kind b with operands := [(a, .file), next] }
    | [(a, kind), b] => do pure { ← resolve settings kind a with operands := [b, next] }
    | operands => pure { settings with operands := operands ++ [next] }
  return { settings with expected := if next.2 = .format then .format else .file }
where
  resolve (settings : JoinSettings) (kind : OperandKind) (text : String) : Work JoinSettings :=
    match kind with
    | .file => return settings
    | .format => settings.withFormat text
    | .fieldOf file => do
      let settings := if file = 1 then { settings with bare₁ := settings.bare₁ - 1 }
        else { settings with bare₂ := settings.bare₂ - 1 }
      settings.withFields [file] (← fieldNumber text)

/-- Take what was named as a file behind the letter for both as a field of both. -/
def withBareFields (settings : JoinSettings) : Work JoinSettings := do
  let settings ← if settings.bare₁ != 0 then settings.withFields [1, 2] 0 else pure settings
  if settings.bare₂ != 0 then settings.withFields [1, 2] 1 else return settings

def step (settings : JoinSettings) (option : GivenOption) : Work JoinSettings := do
  let text := option.value
  let plain := { settings with expected := .file }
  match option.key with
  | "operand" => settings.withOperand text
  | "a" => return { plain with unpaired := (← fileNumber text) :: settings.unpaired }
  | "v" => return { plain with
      unpaired := (← fileNumber text) :: settings.unpaired, showsPairs := false }
  | "e" => do
    if settings.filler?.any (· != text) then
      Work.die "conflicting empty-field replacement strings"
    return { plain with filler? := some text }
  | "i" => return { plain with ignoresCase := true }
  | "1" => plain.withFields [1] (← fieldNumber text)
  | "2" => plain.withFields [2] (← fieldNumber text)
  | "j" => do
    if option.isAttached && text == "1" then
      return { settings with expected := .fieldOf 1, bare₁ := settings.bare₁ + 1 }
    if option.isAttached && text == "2" then
      return { settings with expected := .fieldOf 2, bare₂ := settings.bare₂ + 1 }
    plain.withFields [1, 2] (← fieldNumber text)
  | "o" => do
    if text == "auto" then return { plain with isAutomatic := true }
    return { ← settings.withFormat text with expected := .format }
  | "t" => do
    let c ← match text.toList with
      | [] => pure '\n'
      | [c] => pure c
      | ['\\', '0'] => pure '\x00'
      | _ => Work.die ("multi-character tab " ++ quoted text)
    if settings.separator?.any (· != c) then Work.die "incompatible tabs"
    return { plain with separator? := some c }
  | "check" => return { plain with check := .always }
  | "nocheck" => return { plain with check := .never }
  | "header" => return { plain with header := true }
  | "z" => return { plain with mark := '\x00' }
  | _ => return plain
where
  fileNumber (text : String) : Work Nat :=
    match Quantity.unsigned "" text with
    | .ok 1 => return 1
    | .ok 2 => return 2
    | _ => Work.die ("invalid field number: " ++ quoted text)

/-- The fields of a line. -/
def fields (settings : JoinSettings) (line : List Char) : List (List Char) :=
  match settings.separator? with
  | some '\n' => [line]
  | some c => if line.isEmpty then [] else line.splitOn c
  | none =>
    let isGap (c : Char) := CharClass.isBlank c || c == '\n'
    ((line.map fun c => if isGap c then '\n' else c).splitOn '\n').filter (!·.isEmpty)

def fieldOf (settings : JoinSettings) (file : Nat) : Nat :=
  (if file = 1 then settings.field₁? else settings.field₂?).getD 0

/-- The field of a line that is compared. -/
def key (settings : JoinSettings) (file : Nat) (fields : List (List Char)) : List Char :=
  let key := (fields[settings.fieldOf file]?).getD []
  if settings.ignoresCase then key.map Char.toUpper else key

/-- What is written for a pair of lines, of which one may be missing. -/
def pair (settings : JoinSettings) (counts : Nat × Nat) (first? second? : Option (List (List Char))) :
    String :=
  let filled (text? : Option (List Char)) : List Char :=
    match text? with
    | some (c :: cs) => c :: cs
    | _ => (settings.filler?.getD "").toList
  let first := first?.getD []
  let second := second?.getD []
  let keyField : List Char := match first? with
    | some fields => filled fields[settings.fieldOf 1]?
    | none => filled second[settings.fieldOf 2]?
  let others (file count : Nat) (fields : List (List Char)) : List (List Char) :=
    let count := if settings.isAutomatic then count else fields.length
    ((List.range count).filter (· != settings.fieldOf file)).map fun i => filled fields[i]?
  let shown : List (List Char) := match settings.format? with
    | some format => format.map fun
      | .key => keyField
      | .field file index => filled (if file = 1 then first[index]? else second[index]?)
    | none => keyField :: others 1 counts.1 first ++ others 2 counts.2 second
  let joint := match settings.separator? with
    | some '\n' => ' '
    | some c => c
    | none => ' '
  String.ofList ((shown.intersperse [joint]).flatten ++ [settings.mark])

end JoinSettings

/-- A file whose lines are joined: the next lines with their fields, and what was looked at. -/
structure JoinSource where
  name : String
  lines : List (List Char × List (List Char))
  /-- The number of the next line. -/
  number : Nat := 1
  isDisordered : Bool := false

namespace JoinSource

/-- Go on by some lines, looking at the order of each one and the one after it. -/
def advance (settings : JoinSettings) (file : Nat) (looks : Bool) :
    (count : Nat) → JoinSource → Work JoinSource
  | 0, source => return source
  | count + 1, source => do
    match source.lines with
    | [] => return source
    | (_, fields) :: rest => do
      let next := { source with lines := rest, number := source.number + 1 }
      match rest with
      | (line, following) :: _ =>
        let wrong := compareChars (settings.key file fields) (settings.key file following) == .gt
        if looks && wrong && !source.isDisordered then do
          Work.fault (source.name ++ ":" ++ toString next.number ++ ": is not sorted: " ++
            String.ofList line)
          if settings.check = .always then Work.exit 1
          advance settings file looks count { next with isDisordered := true }
        else advance settings file looks count next
      | [] => advance settings file looks count next

/-- Go through the lines that are left, which have no partners. -/
def finish (settings : JoinSettings) (file : Nat) (looks : Bool)
    (shown : List (List Char) → String) : (count : Nat) → JoinSource → Work JoinSource
  | 0, source => return source
  | count + 1, source => do
    match source.lines with
    | [] => return source
    | (_, fields) :: _ => do
      if settings.unpaired.contains file then Work.say (shown fields)
      finish settings file looks shown count (← source.advance settings file looks 1)

/-- How many lines there are whose key is this one. -/
def run (settings : JoinSettings) (file : Nat) (key : List Char) (source : JoinSource) : Nat :=
  (source.lines.takeWhile fun (_, fields) => settings.key file fields == key).length

end JoinSource

/-- Join from here on. -/
def joinFrom (settings : JoinSettings) (counts : Nat × Nat) : (fuel : Nat) → (unpaired : Bool) →
    JoinSource → JoinSource → Work Bool
  | 0, _, first, second => return first.isDisordered || second.isDisordered
  | fuel + 1, unpaired, first, second => do
    let looks (unpaired : Bool) :=
      settings.check == .always || (settings.check == .whenNeeded && unpaired)
    match first.lines, second.lines with
    | (_, a) :: _, (_, b) :: _ => do
      let key := settings.key 1 a
      match compareChars key (settings.key 2 b) with
      | .lt => do
        if settings.unpaired.contains 1 then Work.say (settings.pair counts (some a) none)
        let first ← first.advance settings 1 (looks unpaired) 1
        joinFrom settings counts fuel true first second
      | .gt => do
        if settings.unpaired.contains 2 then Work.say (settings.pair counts none (some b))
        let second ← second.advance settings 2 (looks unpaired) 1
        joinFrom settings counts fuel true first second
      | .eq => do
        let n := first.run settings 1 key
        let m := second.run settings 2 key
        let firsts := first.lines.take n
        let seconds := second.lines.take m
        let first ← first.advance settings 1 (looks unpaired) n
        let second ← second.advance settings 2 (looks unpaired) m
        if settings.showsPairs then
          firsts.forM fun (_, a) => seconds.forM fun (_, b) =>
            Work.say (settings.pair counts (some a) (some b))
        joinFrom settings counts fuel unpaired first second
    | _, _ => do
      let first ← first.finish settings 1 (looks unpaired)
        (fun a => settings.pair counts (some a) none) first.lines.length
      let second ← second.finish settings 2 (looks unpaired)
        (fun b => settings.pair counts none (some b)) second.lines.length
      return first.isDisordered || second.isDisordered

/-- `join`: the lines of two sorted files that agree in a field. -/
def joinLines : Tool := do
  let (settings, operands) ← Work.options JoinSettings.options ({} : JoinSettings)
    JoinSettings.step
  let settings ← operands.foldlM
    (fun (settings : JoinSettings) operand => { settings with expected := .file }.withOperand operand)
    settings
  let (name₁, name₂) ← match settings.operands with
    | [(a, _), (b, _)] => pure (a, b)
    | [] => Work.misuse "missing operand"
    | _ => Work.misuse ("missing operand after " ++ quoted ((← read).arguments.getLastD ""))
  let settings ← settings.withBareFields
  if name₁ == "-" && name₂ == "-" then Work.die "both files cannot be standard input"
  let (a, b) ← linesOfBoth settings.mark name₁ name₂
  let source (name : String) (lines : List (List Char)) : JoinSource :=
    { name, lines := lines.map fun line => (line, settings.fields line) }
  let first := source name₁ a
  let second := source name₂ b
  let width (s : JoinSource) : Nat := ((s.lines.head?.map fun (_, fields) => fields.length)).getD 0
  let counts := (width first, width second)
  let skipHeader (s : JoinSource) : JoinSource :=
    { s with lines := s.lines.tail, number := s.number + 1 }
  let (first, second) ← if settings.header && !(a.isEmpty && b.isEmpty) then do
      Work.say (settings.pair counts (first.lines.head?.map (·.2)) (second.lines.head?.map (·.2)))
      pure (skipHeader first, skipHeader second)
    else pure (first, second)
  if ← joinFrom settings counts (a.length + b.length + 1) false first second then
    Work.die "input is not in sorted order"

end Polyglot.Tool
