import Polyglot.Number.Directive
import Polyglot.Sandbox.Regular
import Polyglot.Sandbox.Tool.Dividing

/-!
# Sections of a file

A file cut at given lines and at lines that match expressions. Each section gets a file of its own,
and its size is told. If a line is not there, all files are removed again.
-/

namespace Polyglot.Tool

/-- Where a section ends. -/
inductive SectionEnd where
  /-- Before a line with some number. -/
  | line (number : Nat)
  /-- At a line that matches, or so many lines after or before it. -/
  | matching (expression : Regular) (offset : Int) (skips : Bool)

structure SectionPattern where
  /-- The pattern as it was given. -/
  text : String
  place : SectionEnd
  /-- How often it counts again; without a number, as often as possible. -/
  repeats? : Option Nat := some 0

structure SectionSettings where
  beginning : String := "xx"
  /-- The layout of the number in a name. -/
  layout? : Option (String × Directive × String) := none
  width : Nat := 2
  keepsFiles : Bool := false
  isQuiet : Bool := false
  leavesEmpty : Bool := false
  /-- Lines that match belong to no section. -/
  leavesMatched : Bool := false

namespace SectionSettings

def options : OptionTable where
  letters := "f:b:kn:sqz"
  words := [("digits=", "n"), ("quiet", "q"), ("silent", "q"), ("keep-files", "k"),
    ("elide-empty-files", "z"), ("prefix=", "f"), ("suffix-format=", "b"),
    ("suppress-matched", "matched")]

/-- A layout: text with one directive for a whole number in it. -/
def readLayout : (fuel : Nat) → (before : List Char) → List Char →
    Except String (String × Directive × List Char)
  | 0, _, _ => .error "missing % conversion specification in suffix"
  | _, _, [] => .error "missing % conversion specification in suffix"
  | fuel + 1, before, '%' :: '%' :: rest => readLayout fuel ('%' :: before) rest
  | _, before, '%' :: rest =>
    let flags := rest.takeWhile ("-'0# +".toList.contains ·)
    let rest := rest.drop flags.length
    let width := rest.takeWhile Char.isDigit
    let rest := rest.drop width.length
    let (precision?, rest) := match rest with
      | '.' :: rest =>
        let digits := rest.takeWhile Char.isDigit
        (some (decimal digits), rest.drop digits.length)
      | rest => (none, rest)
    match rest with
    | [] => .error "missing conversion specifier in suffix"
    | c :: rest =>
      let plain : Directive := { conversion := if c == 'd' || c == 'i' then 'u' else c }
      let directive := flags.foldl Directive.withFlag plain
      if "diuoxX".toList.contains c then
        .ok (String.ofList before.reverse, { directive with width := decimal width, precision? },
          rest)
      else .error ("invalid conversion specifier in suffix: " ++ String.singleton c)
  | fuel + 1, before, c :: rest => readLayout fuel (c :: before) rest

/-- The text after a directive, in which there must be no other. -/
def readEnd : List Char → Except String (List Char)
  | [] => .ok []
  | '%' :: '%' :: rest => (readEnd rest).map ('%' :: ·)
  | '%' :: _ => .error "too many % conversion specifications in suffix"
  | c :: rest => (readEnd rest).map (c :: ·)

def step (settings : SectionSettings) (option : GivenOption) : Work SectionSettings := do
  match option.key with
  | "f" => return { settings with beginning := option.value }
  | "b" =>
    match readLayout (option.value.length + 1) [] option.value.toList with
    | .error complaint => Work.die complaint
    | .ok (before, directive, rest) =>
      match readEnd rest with
      | .error complaint => Work.die complaint
      | .ok after => return { settings with layout? := some (before, directive, String.ofList after) }
  | "k" => return { settings with keepsFiles := true }
  | "n" =>
    match Quantity.unsigned "" option.value with
    | .ok width => do
      Work.insistOnBound width
      return { settings with width }
    | .error _ => Work.die ("invalid number: " ++ quoted option.value)
  | "z" => return { settings with leavesEmpty := true }
  | "matched" => return { settings with leavesMatched := true }
  | _ => return { settings with isQuiet := true }

/-- The name of a section's file. -/
def name (settings : SectionSettings) (n : Nat) : String :=
  settings.beginning ++ match settings.layout? with
    | some (before, directive, after) =>
      before ++ String.ofList (directive.unsigned n) ++ after
    | none =>
      String.ofList (({ conversion := 'u', zeros := true, width := settings.width } :
        Directive).unsigned n)

/-! ## Reading patterns -/

/-- An expression between two marks, and maybe an offset. -/
def readExpression (text : String) : Work SectionEnd := do
  let mark := text.toList.headD '/'
  let after := text.toList.reverse.takeWhile (· != mark)
  if after.length + 1 = text.length then
    Work.die (text ++ ": closing delimiter '" ++ String.singleton mark ++ "' missing")
  let inside := (text.toList.drop 1).take (text.length - after.length - 2)
  let expression ← match Regular.parse (String.ofList inside) with
    | .ok (expression, _) => pure expression
    | .error e => Work.die (quoted text ++ ": invalid regular expression: " ++ e)
  if after.isEmpty then return .matching expression 0 (mark == '%')
  match Quantity.signed "" (String.ofList after.reverse) with
  | .ok offset => return .matching expression offset (mark == '%')
  | .error _ => Work.die (quoted text ++ ": integer expected after delimiter")

def readRepeats (text : String) : Work (Option Nat) := do
  let inside := ((text.drop 1).dropEnd 1).toString
  if !text.endsWith "\x7d" then
    Work.die (quoted text ++ ": '\x7d' is required in repeat count")
  if inside == "*" then return none
  match Quantity.unsigned "" inside with
  | .ok n => return some n
  | .error _ =>
    Work.die (quoted ("\x7b" ++ inside) ++ "\x7d: integer required between '\x7b' and '\x7d'")

/-- Patterns with the counts of repetitions that follow some of them. -/
def withRepeats : List String → List (String × Option String)
  | text :: next :: rest =>
    if next.startsWith "\x7b" then (text, some next) :: withRepeats rest
    else (text, none) :: withRepeats (next :: rest)
  | [text] => [(text, none)]
  | [] => []

/-- A line number, which should be greater than the one before. -/
def readLine (before : Nat) (text : String) : Work SectionEnd := do
  match Quantity.unsigned "" text with
  | .error _ => Work.die (quoted text ++ ": invalid pattern")
  | .ok number =>
    if number = 0 then Work.die (text ++ ": line number must be greater than zero")
    if number < before then
      Work.die ("line number " ++ quoted text ++ " is smaller than preceding line number, " ++
        toString before)
    if number = before then
      Work.complain ("warning: line number " ++ quoted text ++
        " is the same as preceding line number")
    return .line number

def readPatterns (texts : List String) : Work (List SectionPattern) := do
  let (_, patterns) ← (withRepeats texts).foldlM
    (fun (before, patterns) (text, repeats?) => do
      let isExpression := text.startsWith "/" || text.startsWith "%"
      let place ← if isExpression then readExpression text else readLine before text
      let repeats? ← match repeats? with
        | some repeats => readRepeats repeats
        | none => pure (some 0)
      let before := match place with
        | .line number => number
        | .matching .. => before
      return (before, patterns ++ [{ text, place, repeats? : SectionPattern }]))
    ((0, []) : Nat × List SectionPattern)
  return patterns

end SectionSettings

/-! ## Cutting -/

/-- How far cutting has come. -/
structure SectionState where
  /-- The lines that belong to no section yet. -/
  rest : List (List Char)
  /-- How many lines came before them. -/
  passed : Nat := 0
  /-- The line up to which was searched. -/
  searched : Nat := 0
  /-- The sections that are finished, latest first. -/
  done : List String := []
  /-- What the section in work has so far, if there is one. -/
  current? : Option (List Char) := none

namespace SectionState

/-- Go on with a new section. -/
def start (state : SectionState) : SectionState :=
  { state with current? := some [] }

/-- Move lines to the section in work, or leave them if there is none. -/
def take (state : SectionState) (count : Nat) : SectionState :=
  let passed := state.passed + min count state.rest.length
  { state with
    rest := state.rest.drop count
    passed
    searched := if count = 0 then state.searched else max state.searched passed
    current? := state.current?.map (· ++ (state.rest.take count).flatten) }

/-- Finish the section in work. -/
def close (state : SectionState) : SectionState :=
  match state.current? with
  | some octets => { state with done := String.ofList octets :: state.done, current? := none }
  | none => state

/-- Leave a line out. -/
def dropOne (state : SectionState) : SectionState :=
  let current? := state.current?
  { { state with current? := none }.take 1 with current? }

end SectionState

/-- Why cutting stops. -/
inductive SectionStop where
  /-- There is nothing more to cut. -/
  | finished
  /-- Something is not there. The complaint may come before all that was told. -/
  | missing (complaint : String) (early : Bool)

def onRepetition (n : Nat) : String :=
  if n = 0 then "" else " on repetition " ++ toString n

/-- Cut before a line. -/
def cutAtLine (settings : SectionSettings) (number n : Nat) (state : SectionState) :
    SectionState × Option SectionStop :=
  let last := number * (n + 1)
  let state := state.start
  let missing := SectionStop.missing
    (quoted (toString number) ++ ": line number out of range" ++ onRepetition n) true
  let needed := last - 1 - state.passed
  if state.rest.isEmpty && settings.leavesMatched then (state, some missing)
  else if state.rest.length < needed then (state.take needed, some missing)
  else
    let state := (state.take needed).close
    let isOut := state.rest.isEmpty && !settings.leavesMatched
    (if settings.leavesMatched then state.dropOne else state, if isOut then some missing else none)

/-- Cut at a line that matches. -/
def cutAtMatch (settings : SectionSettings) (pattern : SectionPattern) (expression : Regular)
    (offset : Int) (skips : Bool) (n : Nat) (state : SectionState) :
    SectionState × Option SectionStop :=
  let state := if skips then state else state.start
  let unsearched := state.rest.drop (state.searched - state.passed)
  let isMatch (line : List Char) : Bool :=
    expression.occursIn (if line.getLast? == some '\n' then line.dropLast else line)
  match unsearched.findIdx? isMatch with
  | none =>
    let state := (state.take state.rest.length).close
    (state, some (if pattern.repeats?.isNone then .finished
      else .missing (quoted pattern.text ++ ": match not found" ++ onRepetition n) true))
  | some i =>
    let found := state.searched + i + 1
    let stop := (found : Int) + offset
    let out := SectionStop.missing (quoted pattern.text ++ ": line number out of range") false
    let state := if 0 ≤ offset then state.take (found - 1 - state.passed) else state
    let state := { state with searched := found }
    if stop < state.passed + 1 then (state, some out)
    else
      let lines := (stop - (state.passed + 1)).toNat
      if state.rest.length < lines then (state.take lines, some out)
      else
        let state := (state.take lines).close
        let state := if 0 < offset then { state with searched := stop.toNat } else state
        (if settings.leavesMatched then state.dropOne else state, none)

/-- Cut at one pattern as often as it says. -/
def cutRepeatedly (settings : SectionSettings) (pattern : SectionPattern) :
    (fuel n : Nat) → SectionState → SectionState × Option SectionStop
  | 0, _, state => (state, none)
  | fuel + 1, n, state =>
    let (state, stop?) := match pattern.place with
      | .line number => cutAtLine settings number n state
      | .matching expression offset skips =>
        cutAtMatch settings pattern expression offset skips n state
    match stop? with
    | some stop => (state, some stop)
    | none => cutRepeatedly settings pattern fuel (n + 1) state

def cutAll (settings : SectionSettings) : List SectionPattern → SectionState →
    SectionState × Option SectionStop
  | [], state => (((state.start).take state.rest.length).close, none)
  | pattern :: patterns, state =>
    let times := match pattern.repeats? with
      | some n => n + 1
      | none => state.rest.length + 2
    match cutRepeatedly settings pattern times 0 state with
    | (state, some stop) => (state, some stop)
    | (state, none) => cutAll settings patterns state

/-- Make the files of sections, or only tell of them. -/
def saveSections (settings : SectionSettings) (saves : Bool) (sections : List String) :
    Work Unit := do
  sections.zipIdx.forM fun (text, n) => do
    if saves then
      match ← Work.writeFile (settings.name n) text with
      | .ok () => pure ()
      | .error e => Work.die (shellName (settings.name n) ++ ": " ++ e.reason)
    if !settings.isQuiet then Work.sayLine (toString text.length)

/-- `csplit`: the sections of a file. -/
def splitSections : Tool := do
  let (settings, operands) ← Work.options SectionSettings.options ({} : SectionSettings)
    SectionSettings.step
  match operands with
  | [] => Work.misuse "missing operand"
  | [source] => Work.misuse ("missing operand after " ++ quoted source)
  | source :: patterns => do
    let peeked ← Work.find source
    if source != "-" then
      match peeked with
      | .error e =>
        Work.die ("cannot open " ++ shellQuoted source ++ " for reading: " ++ e.reason)
      | .ok _ => pure ()
    let patterns ← SectionSettings.readPatterns patterns
    match ← Work.readFile source with
    | .error e => do
      Work.complain ("read error: " ++ e.reason)
      saveSections settings settings.keepsFiles [""]
      Work.exit 1
    | .ok cs =>
      let lines := Cut.records '\n' cs
      let (state, stop?) := cutAll settings patterns { rest := lines }
      let sections (state : SectionState) : List String :=
        let all := state.done.reverse
        if settings.leavesEmpty then all.filter (!·.isEmpty) else all
      match stop? with
      | some (.missing complaint early) => do
        -- complaints about patterns are not held back, unlike what is told of sections
        if early then Work.complain complaint
        saveSections settings settings.keepsFiles
          (sections (if early then state.close else state))
        if !early then
          Work.complain complaint
          match state.current? with
          | some octets =>
            if !settings.isQuiet then Work.sayLine (toString octets.length)
          | none => pure ()
        Work.setCode 1
      | _ => saveSections settings true (sections state)

end Polyglot.Tool
