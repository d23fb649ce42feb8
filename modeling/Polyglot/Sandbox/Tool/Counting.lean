import Polyglot.Sandbox.Regular
import Polyglot.Sandbox.Tool.Concatenation
import Polyglot.Sandbox.Tool.Options
import Polyglot.Sandbox.Tool.Quantity

/-!
# Counting

Numbers of lines, words and octets, and numbers in front of lines.
-/

namespace Polyglot.Tool

/-! ## Lines, words and octets -/

/-- What was counted. -/
structure Tally where
  lines : Nat := 0
  words : Nat := 0
  octets : Nat := 0
  /-- The width of the widest line. -/
  width : Nat := 0

def Tally.add (a b : Tally) : Tally where
  lines := a.lines + b.lines
  words := a.words + b.words
  octets := a.octets + b.octets
  width := max a.width b.width

/-- Counting goes on in a line, and maybe in a word. -/
structure TallyState where
  tally : Tally := {}
  column : Nat := 0
  inWord : Bool := false

namespace TallyState

def endWord (state : TallyState) : TallyState :=
  if state.inWord then
    { state with inWord := false, tally := { state.tally with words := state.tally.words + 1 } }
  else state

def endLine (state : TallyState) : TallyState :=
  { state with column := 0, tally := { state.tally with
    width := max state.tally.width state.column } }

/-- Count a character. What cannot be seen is no part of a word. -/
def count (state : TallyState) (c : Char) : TallyState :=
  match c with
  | '\n' =>
    let state := state.endLine.endWord
    { state with tally := { state.tally with lines := state.tally.lines + 1 } }
  | '\r' => state.endLine.endWord
  | '\x0c' => state.endLine.endWord
  | '\t' => { state with column := state.column + 8 - state.column % 8 }.endWord
  | ' ' => { state with column := state.column + 1 }.endWord
  | '\x0b' => state.endWord
  | c =>
    if CharClass.isPrint c then { state with column := state.column + 1, inWord := true }
    else state

end TallyState

def Tally.of (cs : List Char) : Tally :=
  let state := (cs.foldl TallyState.count {}).endLine.endWord
  { state.tally with octets := cs.length }

/-- What is shown of the counts, in this order. -/
structure TallySettings where
  lines : Bool := false
  words : Bool := false
  chars : Bool := false
  octets : Bool := false
  width : Bool := false
  /-- When the sums are shown. -/
  total : String := "auto"
  /-- A file with the names of files. -/
  source? : Option String := none

namespace TallySettings

def shown (settings : TallySettings) (tally : Tally) : List Nat :=
  (if settings.lines then [tally.lines] else []) ++ (if settings.words then [tally.words] else []) ++
    (if settings.chars then [tally.octets] else []) ++
    (if settings.octets then [tally.octets] else []) ++
    (if settings.width then [tally.width] else [])

def step (settings : TallySettings) (option : GivenOption) : Work TallySettings :=
  match option.key with
  | "c" => return { settings with octets := true }
  | "m" => return { settings with chars := true }
  | "l" => return { settings with lines := true }
  | "L" => return { settings with width := true }
  | "w" => return { settings with words := true }
  | "files" => return { settings with source? := some option.value }
  | "total" => do
    let words := ["auto", "always", "only", "never"]
    return { settings with
      total := ← Work.choice "--total" option.value (words.map fun word => ([word], word)) }
  | _ => return settings

/-- Counts in fields of one width, and a name after them. -/
def line (settings : TallySettings) (width : Nat) (tally : Tally) (name? : Option String) :
    String :=
  " ".intercalate ((settings.shown tally).map fun n => padLeft width (toString n)) ++
    (match name? with
      | some name => " " ++ (if name.toList.contains '\n' then shellName name else name)
      | none => "") ++ "\n"

end TallySettings

def tallyOptions : OptionTable where
  letters := "clLmw"
  words := [("bytes", "c"), ("chars", "m"), ("lines", "l"), ("words", "w"), ("files0-from=", "files"),
    ("max-line-length", "L"), ("total=", "total")]

/-- How wide the fields must be: enough for the sizes of all files, and more for what has none. -/
def tallyWidth (operands : List String) : Work Nat := do
  let call ← read
  let tree ← Work.getTree
  let nodes ← operands.mapM fun operand => do
    if operand == "-" then return some (call.inputNode?.bind tree.nodeAt?)
    else return (← Work.look? operand).map some
  let sizes := nodes.filterMap id |>.map fun node? => match node? with
    | some node => if node.isFile then some node.size else none
    | none => none
  let total := (sizes.filterMap id).foldl (· + ·) 0
  let least := if sizes.any (·.isNone) then 7 else 1
  return max least (toString total).length

/-- The names of the files to be counted. -/
def tallyOperands (settings : TallySettings) (operands : List String) : Work (List String) := do
  match settings.source? with
  | none => return operands
  | some source => do
    match operands with
    | operand :: _ => do
      Work.complain ("extra operand " ++ quoted operand)
      Work.murmur "file operands cannot be combined with --files0-from\n"
      Work.hint
      Work.exit 1
    | [] =>
      match ← Work.readFile source with
      | .error e =>
        Work.die ("cannot open " ++ shellQuoted source ++ " for reading: " ++ e.reason)
      | .ok cs => return (textPieces '\x00' cs).map String.ofList

/-- `wc`: how many lines, words and octets files have. -/
def countAll : Tool := do
  let (settings, given) ← Work.options tallyOptions ({} : TallySettings) TallySettings.step
  let isPlain := (settings.shown {}).isEmpty
  let settings := if isPlain then { settings with lines := true, words := true, octets := true }
    else settings
  let given ← tallyOperands settings given
  let operands := if given.isEmpty && settings.source?.isNone then ["-"] else given
  let isSimple := (settings.shown {}).length == 1 && operands.length == 1
  let isNarrow := isSimple || settings.total == "only" || settings.source? == some "-"
  let width ← if isNarrow then pure 1 else tallyWidth operands
  let total ← operands.foldlM
    (fun (total : Tally) operand => do
      let name? := if given.isEmpty then none else some operand
      if operand.isEmpty then
        Work.fault "invalid zero-length file name"
        return total
      let tally? ← match ← Work.readFile operand with
        | .ok cs => pure (some (Tally.of cs))
        | .error e => do
          Work.fault (shellName operand ++ ": " ++ e.reason)
          pure (if e = .isADirectory then some {} else none)
      match tally? with
      | none => return total
      | some tally => do
        if settings.total != "only" then Work.say (settings.line width tally name?)
        return total.add tally)
    {}
  let showsTotal : Bool := match settings.total with
    | "auto" => 1 < operands.length
    | "never" => false
    | _ => true
  if showsTotal then
    Work.say (settings.line width total (if settings.total == "only" then none else some "total"))

/-! ## Numbers in front of lines -/

/-- Which lines have numbers. -/
inductive NumberStyle where
  | all
  | full
  | none
  | matching (expression : Regular)

structure NumberSettings where
  header : NumberStyle := .none
  body : NumberStyle := .full
  footer : NumberStyle := .none
  first : Int := 1
  increment : Int := 1
  /-- Numbers go on from section to section. -/
  goesOn : Bool := false
  /-- Of empty lines in a row every so many-th has a number. -/
  joined : Nat := 1
  separator : String := "\t"
  width : Nat := 6
  format : String := "rn"
  delimiter : List Char := ['\\', ':']
  isWrong : Bool := false

namespace NumberSettings

def numberOptions : OptionTable where
  letters := "h:b:f:v:i:pl:s:w:n:d:"
  words := [("header-numbering=", "h"), ("body-numbering=", "b"), ("footer-numbering=", "f"),
    ("starting-line-number=", "v"), ("line-increment=", "i"), ("no-renumber", "p"),
    ("join-blank-lines=", "l"), ("number-separator=", "s"), ("number-width=", "w"),
    ("number-format=", "n"), ("section-delimiter=", "d")]

/-- The style that a text means. -/
def style? (text : String) : Work (Option NumberStyle) := do
  match text.toList with
  | ['a'] => return some .all
  | ['t'] => return some .full
  | ['n'] => return some .none
  | 'p' :: pattern =>
    match Regular.parse (String.ofList pattern) with
    | .ok (r, _) => return some (.matching r)
    | .error message => Work.die message
  | _ => return none

def withStyle (settings : NumberSettings) (part text : String)
    (change : NumberStyle → NumberSettings) : Work NumberSettings := do
  match ← style? text with
  | some style => return change style
  | none => do
    Work.complain ("invalid " ++ part ++ " numbering style: " ++ quoted text)
    return { settings with isWrong := true }

def step (settings : NumberSettings) (option : GivenOption) : Work NumberSettings := do
  let text := option.value
  match option.key with
  | "h" => settings.withStyle "header" text fun style => { settings with header := style }
  | "b" => settings.withStyle "body" text fun style => { settings with body := style }
  | "f" => settings.withStyle "footer" text fun style => { settings with footer := style }
  | "v" => return { settings with
      first := ← Work.signedQuantity "" "invalid starting line number" text }
  | "i" => return { settings with
      increment := ← Work.signedQuantity "" "invalid line number increment" text }
  | "p" => return { settings with goesOn := true }
  | "l" => return { settings with
      joined := ← Work.quantity "" "invalid line number of blank lines" text 1 }
  | "s" => return { settings with separator := text }
  | "w" => do
    let width ← Work.quantity "" "invalid line number field width" text 1 0x7fffffff
    Work.insistOnBound width
    return { settings with width }
  | "n" =>
    if ["ln", "rn", "rz"].contains text then return { settings with format := text }
    else do
      Work.complain ("invalid line numbering format: " ++ quoted text)
      return { settings with isWrong := true }
  | "d" =>
    return { settings with
      delimiter := if text.length == 1 then text.toList ++ [':'] else text.toList }
  | _ => return settings

def number (settings : NumberSettings) (n : Int) : String :=
  let digits := toString n
  match settings.format with
  | "ln" => padRight settings.width digits
  | "rz" =>
    let digits := toString n.natAbs
    let sign := if n < 0 then "-" else ""
    sign ++ String.ofList (List.replicate (settings.width - sign.length - digits.length) '0') ++
      digits
  | _ => padLeft settings.width digits

end NumberSettings

structure NumberState where
  number : Int
  style : NumberStyle
  blank : Nat := 0

/-- A line with or without a number, or the start of a section. -/
def numberLine (settings : NumberSettings) (state : NumberState) (line : List Char) :
    NumberState × String :=
  let delimiter := settings.delimiter
  let isSection (times : Nat) := 2 ≤ delimiter.length &&
    line == (List.replicate times delimiter).flatten
  let enter (style : NumberStyle) : NumberState × String :=
    ({ state with style, number := if settings.goesOn then state.number else settings.first }, "\n")
  let text := String.ofList line ++ "\n"
  let plain := String.ofList (List.replicate (settings.width + settings.separator.length) ' ') ++ text
  let numbered := settings.number state.number ++ settings.separator ++ text
  let counted := { state with number := state.number + settings.increment }
  if isSection 3 then enter settings.header
  else if isSection 2 then enter settings.body
  else if isSection 1 then enter settings.footer
  else match state.style with
    | .all =>
      if settings.joined ≤ 1 || !line.isEmpty || state.blank + 1 == settings.joined then
        ({ counted with blank := 0 }, numbered)
      else ({ state with blank := state.blank + 1 }, plain)
    | .full => if line.isEmpty then (state, plain) else (counted, numbered)
    | .none => (state, plain)
    | .matching r => if r.occursIn line then (counted, numbered) else (state, plain)

/-- `nl`: files with numbers in front of their lines. -/
def numberLines : Tool := do
  let (settings, operands) ← Work.options NumberSettings.numberOptions ({} : NumberSettings)
    NumberSettings.step
  if settings.isWrong then do
    Work.hint
    Work.exit 1
  let operands := if operands.isEmpty then ["-"] else operands
  discard <| operands.foldlM
    (fun (state : NumberState) operand => do
      match ← Work.streamFile operand with
      | .error e => do
        Work.fault (shellName operand ++ ": " ++ e.reason)
        return state
      | .ok cs =>
        (textLines cs).foldlM
          (fun state line => do
            let (state, text) := numberLine settings state line
            Work.say text
            return state)
          state)
    { number := settings.first, style := settings.body }

end Polyglot.Tool
