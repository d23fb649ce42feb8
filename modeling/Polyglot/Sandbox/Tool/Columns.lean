import Polyglot.Sandbox.Tool.Concatenation
import Polyglot.Sandbox.Tool.Quantity

/-!
# Columns

Taking columns out of lines, and putting lines side by side.
-/

namespace Polyglot.Tool

/-! ## Ranges of columns -/

/-- Columns from one on to another, or to the end. -/
structure ColumnRange where
  first : Nat
  last? : Option Nat
deriving DecidableEq, Repr

namespace ColumnRange

def has (range : ColumnRange) (n : Nat) : Bool :=
  range.first ≤ n && range.last?.all (n ≤ ·)

/-- Put a range that is not before another into it if they overlap. -/
def merge (ranges : List ColumnRange) (range : ColumnRange) : List ColumnRange :=
  match ranges with
  | last :: others =>
    if last.last?.all (range.first ≤ ·) then
      let end? := match last.last?, range.last? with
        | some a, some b => some (max a b)
        | _, _ => none
      ⟨last.first, end?⟩ :: others
    else range :: ranges
  | [] => [range]

/-- Ranges in order, of which none overlap. -/
def sorted (ranges : List ColumnRange) : List ColumnRange :=
  ((ranges.mergeSort fun a b => a.first ≤ b.first).foldl merge []).reverse

/-- The columns from one on that are in none of some sorted ranges. -/
def complementFrom (next : Nat) : List ColumnRange → List ColumnRange
  | [] => [⟨next, none⟩]
  | range :: ranges =>
    let before := if next < range.first then [⟨next, some (range.first - 1)⟩] else []
    before ++ (match range.last? with
      | some last => complementFrom (last + 1) ranges
      | none => [])

end ColumnRange

/-- How a list of columns is called in complaints, and whether a hyphen alone means all. -/
structure ColumnWords where
  numberedFrom : String
  badRange : String
  badValue : String
  tooLarge : String
  missing : String
  allowsDash : Bool := false

def fieldWords : ColumnWords where
  numberedFrom := "fields are numbered from 1"
  badRange := "invalid field range"
  badValue := "invalid field value"
  tooLarge := "field number"
  missing := "missing list of fields"

def positionWords : ColumnWords where
  numberedFrom := "byte/character positions are numbered from 1"
  badRange := "invalid byte or character range"
  badValue := "invalid byte/character position"
  tooLarge := "byte/character offset"
  missing := "missing list of byte/character positions"

/-- Reading a list of columns: what has been read of the range under way. -/
structure ColumnReading where
  dashed : Bool := false
  left : Bool := false
  right : Bool := false
  start : Nat := 1
  value : Nat := 0
  digits : List Char := []
  ranges : List ColumnRange := []

namespace ColumnReading

def finishRange (words : ColumnWords) (r : ColumnReading) : Except String ColumnReading :=
  let add (range : ColumnRange) : Except String ColumnReading :=
    .ok { ranges := range :: r.ranges }
  if r.dashed then
    if !r.left && !r.right && !words.allowsDash then .error "invalid range with no endpoint: -"
    else if !r.right then add ⟨r.start, none⟩
    else if r.value < r.start then .error "invalid decreasing range"
    else add ⟨r.start, some r.value⟩
  else if r.value = 0 then .error words.numberedFrom
  else add ⟨r.value, some r.value⟩

def step (words : ColumnWords) (r : ColumnReading) (c : Char) (rest : List Char) :
    Except String ColumnReading :=
  if c == '-' then
    if r.dashed then .error words.badRange
    else if r.left && r.value = 0 then .error words.numberedFrom
    else
      .ok { r with dashed := true, start := if r.left then r.value else 1, value := 0, digits := [] }
  else if c == ',' || CharClass.isBlank c then r.finishRange words
  else if c.isDigit then
    let value := 10 * r.value + (c.toNat - 48)
    let digits := r.digits ++ [c]
    if Quantity.greatest ≤ value then
      let number := digits ++ rest.takeWhile Char.isDigit
      .error (words.tooLarge ++ " " ++ quoted (String.ofList number) ++ " is too large")
    else
      .ok { r with
        value, digits
        left := r.left || !r.dashed
        right := r.right || r.dashed }
  else .error (words.badValue ++ " " ++ quoted (String.ofList (c :: rest)))

def readFrom (words : ColumnWords) : ColumnReading → List Char → Except String ColumnReading
  | r, [] => r.finishRange words
  | r, c :: rest => do readFrom words (← r.step words c rest) rest

end ColumnReading

/-- Read a list of columns. -/
def columnRanges (words : ColumnWords) (text : String) : Except String (List ColumnRange) := do
  let r ← ColumnReading.readFrom words {} text.toList
  return ColumnRange.sorted r.ranges.reverse

/-! ## Taking columns -/

structure CutSettings where
  byFields : Bool := true
  list? : Option String := none
  delimiter? : Option Char := none
  onlyDelimited : Bool := false
  complement : Bool := false
  joint? : Option String := none
  mark : Char := '\n'

namespace CutSettings

def options : OptionTable where
  letters := "b:c:d:f:nsz"
  words := [("bytes=", "b"), ("characters=", "c"), ("fields=", "f"), ("delimiter=", "d"),
    ("only-delimited", "s"), ("output-delimiter=", "joint"), ("complement", "complement"),
    ("zero-terminated", "z")]

def withList (settings : CutSettings) (byFields : Bool) (text : String) : Work CutSettings := do
  if settings.list?.isSome then Work.misuse "only one list may be specified"
  return { settings with list? := some text, byFields }

def step (settings : CutSettings) (option : GivenOption) : Work CutSettings :=
  match option.key with
  | "b" => settings.withList false option.value
  | "c" => settings.withList false option.value
  | "f" => settings.withList true option.value
  | "d" =>
    match option.value.toList with
    | [] => return { settings with delimiter? := some '\x00' }
    | [c] => return { settings with delimiter? := some c }
    | _ => Work.misuse "the delimiter must be a single character"
  | "s" => return { settings with onlyDelimited := true }
  | "joint" => return { settings with joint? := some option.value }
  | "complement" => return { settings with complement := true }
  | "z" => return { settings with mark := '\x00' }
  | _ => return settings

/-- The octets of a line that are in ranges; a joint stands between ranges. -/
def cutPositions (settings : CutSettings) (ranges : List ColumnRange) (line : List Char) :
    List Char :=
  let parts := ranges.map fun range =>
    let rest := line.drop (range.first - 1)
    match range.last? with
    | some last => rest.take (last + 1 - range.first)
    | none => rest
  let joint := (settings.joint?.getD "").toList
  ((parts.filter (!·.isEmpty)).intersperse joint).flatten

/-- The fields of a line that are in ranges, or nothing if the line is left out. -/
def cutFields (settings : CutSettings) (ranges : List ColumnRange) (line : List Char) :
    Option (List Char) :=
  let delimiter := settings.delimiter?.getD '\t'
  let fields := line.splitOn delimiter
  if fields.length ≤ 1 then (if settings.onlyDelimited then none else some line)
  else
    let kept := (fields.zipIdx 1).filter fun (_, n) => ranges.any (·.has n)
    let joint := (settings.joint?.map String.toList).getD [delimiter]
    some (((kept.map (·.1)).intersperse joint).flatten)

end CutSettings

/-- `cut`: some columns of each line. -/
def cutColumns : Tool := do
  let (settings, operands) ← Work.options CutSettings.options ({} : CutSettings) CutSettings.step
  let list ← match settings.list? with
    | some list => pure list
    | none => Work.misuse "you must specify a list of bytes, characters, or fields"
  if !settings.byFields && settings.delimiter?.isSome then
    Work.misuse "an input delimiter may be specified only when operating on fields"
  if !settings.byFields && settings.onlyDelimited then
    Work.misuse "suppressing non-delimited lines makes sense\n\tonly when operating on fields"
  let ranges ← match columnRanges (if settings.byFields then fieldWords else positionWords) list with
    | .ok ranges => pure ranges
    | .error message => Work.misuse message
  let ranges := if settings.complement then ColumnRange.complementFrom 1 ranges else ranges
  let operands := if operands.isEmpty then ["-"] else operands
  operands.forM fun operand => do
    match ← Work.streamFile operand with
    | .error e => Work.fault (shellName operand ++ ": " ++ e.reason)
    | .ok cs =>
      let lines := (textPieces settings.mark cs).filterMap fun line =>
        if settings.byFields then settings.cutFields ranges line
        else some (settings.cutPositions ranges line)
      Work.say (String.ofList (lines.flatMap (· ++ [settings.mark])))

/-! ## Side by side -/

/-- The delimiters in a list with escapes; `\0` is no character at all. Nothing if a backslash stands
at the end. -/
def delimiters? : List Char → Option (List (List Char))
  | [] => some []
  | ['\\'] => none
  | '\\' :: c :: rest =>
    let delimiter := match c with
      | '0' => []
      | 'b' => ['\x08']
      | 'f' => ['\x0c']
      | 'n' => ['\n']
      | 'r' => ['\r']
      | 't' => ['\t']
      | 'v' => ['\x0b']
      | c => [c]
    (delimiters? rest).map (delimiter :: ·)
  | c :: rest => (delimiters? rest).map ([c] :: ·)

/-- Put texts together with delimiters that are used in turn. -/
def joinInTurn (delimiters : List (List Char)) (texts : List (List Char)) : List Char :=
  let count := max 1 delimiters.length
  (texts.zipIdx.map fun (text, i) =>
    if i = 0 then text else ((delimiters[(i - 1) % count]?).getD []) ++ text).flatten

/-- The next line of each source. Sources that are the standard input share its lines. -/
def nextRow : List (Option (List (List Char))) → (input : List (List Char)) →
    List (Option (List Char)) × List (Option (List (List Char))) × List (List Char)
  | [], input => ([], [], input)
  | some lines :: sources, input =>
    let (row, sources, input) := nextRow sources input
    (lines.head? :: row, some lines.tail :: sources, input)
  | none :: sources, input =>
    let (row, sources, rest) := nextRow sources input.tail
    (input.head? :: row, none :: sources, rest)

/-- Rows until no source has a line. -/
def pasteRows (delimiters : List (List Char)) (mark : Char) :
    (fuel : Nat) → List (Option (List (List Char))) → List (List Char) → List Char
  | 0, _, _ => []
  | fuel + 1, sources, input =>
    let (row, sources, input) := nextRow sources input
    if row.all (·.isNone) then []
    else
      joinInTurn delimiters (row.map (·.getD [])) ++ mark ::
        pasteRows delimiters mark fuel sources input

def pasteOptions : OptionTable where
  letters := "d:sz"
  words := [("serial", "s"), ("delimiters=", "d"), ("zero-terminated", "z")]

/-- `paste`: the lines of files side by side, or one after another in one line. -/
def pasteLines : Tool := do
  let (options, operands) ← Work.optionList pasteOptions
  let list := ((options.filter (·.key == "d")).getLast?.map (·.value)).getD "\t"
  let list := if list.isEmpty then "\\0" else list
  let mark := if options.any (·.key == "z") then '\x00' else '\n'
  let delimiters ← match delimiters? list.toList with
    | some delimiters => pure delimiters
    | none => Work.die ("delimiter list ends with an unescaped backslash: " ++ list)
  let operands := if operands.isEmpty then ["-"] else operands
  let linesOf (operand : String) : Work (Except SystemError (List (List Char))) := do
    return (← Work.streamFile operand).map (textPieces mark)
  if options.any (·.key == "s") then
    operands.forM fun operand => do
      match ← linesOf operand with
      | .error e => Work.fault (shellName operand ++ ": " ++ e.reason)
      | .ok lines => Work.say (String.ofList (joinInTurn delimiters lines ++ [mark]))
  else
    let sources ← operands.mapM fun operand => do
      if operand == "-" then return none
      else match ← linesOf operand with
        | .error e =>
          if e = .isADirectory then do
            Work.fault (shellName operand ++ ": " ++ e.reason)
            return some []
          else Work.die (shellName operand ++ ": " ++ e.reason)
        | .ok lines => return some lines
    let input ← if operands.contains "-" then
        match ← linesOf "-" with
        | .ok lines => pure lines
        | .error e => do
          Work.fault ("-: " ++ e.reason)
          pure []
      else pure []
    let count := input.length + (sources.map fun s => (s.map (·.length)).getD 0).foldl (· + ·) 1
    Work.say (String.ofList (pasteRows delimiters mark count sources input))

end Polyglot.Tool
