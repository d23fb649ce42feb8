import Polyglot.Sandbox.Tool.Concatenation
import Polyglot.Sandbox.Tool.Quantity

/-!
# Tabs and folding

Replacing tabs by blanks, and blanks by tabs; breaking long lines, and turning lines round.
-/

namespace Polyglot.Tool

/-- Where the columns are to which tabs go. -/
structure TabStops where
  /-- Columns that are named, in order. -/
  columns : List Nat := []
  /-- After those, every column that is a multiple of this. -/
  multiple? : Option Nat := none
  /-- After those, columns so far apart, counted from the last one. -/
  step? : Option Nat := none

namespace TabStops

/-- The next column, if there is one. -/
def next? (stops : TabStops) (column : Nat) : Option Nat :=
  match stops.columns.find? (column < ·) with
  | some stop => some stop
  | none =>
    match stops.multiple?, stops.step? with
    | some n, _ => some (column + n - column % n)
    | none, some n =>
      let last := stops.columns.getLast?.getD 0
      some (column + n - (column - last) % n)
    | none, none => none

/-- Note a number after the sign that came last. A number that says how the columns go on comes
only once. -/
def withNumber (stops : TabStops) (sign? : Option Char) (n : Nat) : Except String TabStops :=
  let isSet (value? : Option Nat) : Bool := value?.any (· != 0)
  match sign? with
  | none => .ok { stops with columns := stops.columns ++ [n] }
  | some '/' =>
    if isSet stops.multiple? then .error "'/' specifier only allowed with the last value"
    else .ok { stops with multiple? := some n }
  | some _ =>
    if isSet stops.step? then .error "'+' specifier only allowed with the last value"
    else .ok { stops with step? := some n }

/-- Note a list of columns. A sign holds for all numbers up to the next one. -/
def withList (stops : TabStops) (sign? : Option Char) : (fuel : Nat) → List Char →
    Except String TabStops
  | 0, _ => .ok stops
  | _, [] => .ok stops
  | fuel + 1, c :: cs =>
    if c == ',' || CharClass.isBlank c then withList stops sign? fuel cs
    else if c == '/' || c == '+' then withList stops (some c) fuel cs
    else if c.isDigit then
      let digits := (c :: cs).takeWhile Char.isDigit
      let n := decimal digits
      let after := (c :: cs).drop digits.length
      match after with
      | d :: _ =>
        if 0xffffffffffffffff < n then
          .error ("tab stop is too large " ++ quoted (String.ofList digits))
        else if d == '/' || d == '+' then
          .error (quoted (String.singleton d) ++ " specifier not at start of number: " ++
            quoted (String.ofList after))
        else if d == ',' || CharClass.isBlank d then do
          withList (← stops.withNumber sign? n) sign? fuel after
        else withList stops sign? fuel after
      | [] =>
        if 0xffffffffffffffff < n then
          .error ("tab stop is too large " ++ quoted (String.ofList digits))
        else stops.withNumber sign? n
    else .error ("tab size contains invalid character(s): " ++ quoted (String.ofList (c :: cs)))

/-- Is something wrong with columns in their order? -/
def orderFault? : (before : Nat) → List Nat → Option String
  | _, [] => none
  | before, n :: rest =>
    if n = 0 then some "tab size cannot be 0"
    else if n ≤ before then some "tab sizes must be ascending"
    else orderFault? n rest

/-- The columns as they are meant once all is said. -/
def settled (stops : TabStops) : Except String TabStops := do
  if let some message := orderFault? 0 stops.columns then throw message
  let multiple? := stops.multiple?.filter (· != 0)
  let step? := stops.step?.filter (· != 0)
  if multiple?.isSome && step?.isSome then
    throw "'/' specifier is mutually exclusive with '+'"
  match stops.columns, multiple?, step? with
  | [], none, none => return { multiple? := some 8 }
  | [], none, some n => return { multiple? := some n }
  | [n], none, none => return { multiple? := some n }
  | columns, multiple?, step? => return { columns, multiple?, step? }

end TabStops

structure TabSettings where
  stops : TabStops := {}
  /-- Only blanks at the start of lines are changed. -/
  onlyInitial : Bool
  /-- Whatever else is said, only those are. -/
  insists : Bool := false
  /-- The digits of a column that were given one by one. -/
  digits : List Char := []

namespace TabSettings

/-- Take what was given in digits for a column. -/
def withDigits (settings : TabSettings) : TabSettings :=
  if settings.digits.isEmpty then settings
  else { settings with
    stops := { settings.stops with columns := settings.stops.columns ++ [decimal settings.digits] }
    digits := [] }

def withList (settings : TabSettings) (text : String) : Work TabSettings := do
  match settings.stops.withList none (text.length + 1) text.toList with
  | .ok stops => return { settings with stops }
  | .error message => Work.die message

def finalStops (settings : TabSettings) : Work TabStops := do
  match settings.stops.settled with
  | .ok stops => do
    stops.columns.forM Work.insistOnBound
    Work.insistOnBound (max (stops.multiple?.getD 0) (stops.step?.getD 0))
    return stops
  | .error message => Work.die message

end TabSettings

/-- Pass over the characters of files, one after another. What was seen so far may matter. -/
def passOver {α : Type} (operands : List String) (start : α) (step : α → Char → List Char × α)
    (finish : α → List Char) : Work Unit := do
  let operands := if operands.isEmpty then ["-"] else operands
  let state ← operands.foldlM
    (fun (state : α) operand => do
      match ← Work.streamFile operand with
      | .error e => do
        Work.fault (shellName operand ++ ": " ++ e.reason)
        return state
      | .ok cs => do
        let (written, state) := cs.foldl
          (fun (written, state) c =>
            let (shown, state) := step state c
            (shown.reverse ++ written, state))
          (([] : List Char), state)
        Work.say (String.ofList written.reverse)
        return state)
    start
  Work.say (String.ofList (finish state))

/-! ## Blanks for tabs -/

/-- A character at some column with blanks for tabs. -/
def expandStep (stops : TabStops) (onlyInitial : Bool) (state : Nat × Bool) (c : Char) :
    List Char × Nat × Bool :=
  let (column, converts) := state
  if c == '\n' then ([c], 0, true)
  else if !converts then ([c], column, false)
  else if c == '\t' then
    let next := (stops.next? column).getD (column + 1)
    (List.replicate (next - column) ' ', next, true)
  else if c == '\x08' then ([c], column - 1, !onlyInitial)
  else ([c], column + 1, !onlyInitial || c == ' ')

def expandOptions : OptionTable where
  letters := "it:0::1::2::3::4::5::6::7::8::9::"
  words := [("tabs=", "t"), ("initial", "i")]

/-- `expand`: files with blanks for tabs. -/
def expandTabs : Tool := do
  let (settings, operands) ← Work.options expandOptions ({ onlyInitial := false } : TabSettings)
    fun settings option =>
      match option.key with
      | "i" => return { settings with onlyInitial := true }
      | "t" => settings.withList option.value
      | digit => settings.withList (digit ++ option.value)
  let stops ← settings.finalStops
  passOver operands (0, true) (expandStep stops settings.onlyInitial) fun _ => []

/-! ## Tabs for blanks -/

/-- Where the conversion of a line stands. -/
structure TabState where
  column : Nat := 0
  converts : Bool := true
  /-- The blanks that may become a tab. -/
  pending : List Char := []
  /-- The first of those stands right before a stop. -/
  isClose : Bool := false
  afterBlank : Bool := true

namespace TabState

/-- The blanks that are kept before a character that is none. -/
def release (state : TabState) : List Char :=
  if 1 < state.pending.length && state.isClose then '\t' :: state.pending.tail else state.pending

/-- Pass over a character: what is written, and what remains to be seen. -/
def step (stops : TabStops) (onlyInitial : Bool) (state : TabState) (c : Char) :
    List Char × TabState :=
  if c == '\n' then ((if state.converts then state.release else []) ++ [c], {})
  else if !state.converts then ([c], state)
  else
    let isBlank := CharClass.isBlank c
    let goOn (state : TabState) (converts : Bool) (c : Char) : List Char × TabState :=
      (state.release ++ [c],
        { state with
          pending := []
          isClose := if state.pending.isEmpty then state.isClose else false
          afterBlank := isBlank
          converts := converts && (!onlyInitial || isBlank) })
    if isBlank then
      match stops.next? state.column with
      | none => goOn state false c
      | some next =>
        let kept (pending : List Char) := if state.isClose then pending.take 1 else []
        if c == '\t' then
          let pending := match state.pending with
            | _ :: rest => '\t' :: rest
            | [] => []
          goOn { state with column := next, pending := kept pending } true c
        else
          let column := state.column + 1
          if !(state.afterBlank && column == next) then
            ([], { state with
              column
              isClose := state.isClose || column == next
              pending := state.pending ++ [c]
              afterBlank := true })
          else
            let pending := match state.pending with
              | _ :: rest => '\t' :: rest
              | [] => ['\t']
            goOn { state with column, pending := kept pending } true '\t'
    else if c == '\x08' then goOn { state with column := state.column - 1 } true c
    else goOn { state with column := state.column + 1 } true c

/-- What is left to be written in the end. -/
def rest (state : TabState) : List Char :=
  if state.converts then state.release else []

end TabState

def unexpandOptions : OptionTable where
  letters := ",0123456789at:"
  words := [("tabs=", "t"), ("all", "a"), ("first-only", "first")]

/-- Note one of the options; digits among them are those of a column. -/
def unexpandStep (settings : TabSettings) (option : GivenOption) : Work TabSettings :=
  match option.key with
  | "a" => return { settings with onlyInitial := false }
  | "first" => return { settings with insists := true }
  | "t" => { settings with onlyInitial := false }.withList option.value
  | "," => return settings.withDigits
  | digit => return { settings with digits := settings.digits ++ digit.toList }

/-- `unexpand`: files with tabs for blanks. -/
def unexpandTabs : Tool := do
  let (settings, operands) ← Work.options unexpandOptions ({ onlyInitial := true } : TabSettings)
    unexpandStep
  let stops ← settings.withDigits.finalStops
  passOver operands {} (TabState.step stops (settings.onlyInitial || settings.insists))
    TabState.rest

/-! ## Folding -/

structure FoldSettings where
  byOctets : Bool := false
  atBlanks : Bool := false
  width : Nat := 80

namespace FoldSettings

def options : OptionTable where
  letters := "bsw:0::1::2::3::4::5::6::7::8::9::"
  words := [("bytes", "b"), ("spaces", "s"), ("width=", "w")]

def step (settings : FoldSettings) (option : GivenOption) : Work FoldSettings := do
  match option.key with
  | "b" => return { settings with byOctets := true }
  | "s" => return { settings with atBlanks := true }
  | "w" => return { settings with width := ← widthOf option.value }
  | digit => return { settings with width := ← widthOf (digit ++ option.value) }
where
  widthOf (text : String) : Work Nat :=
    Work.quantity "" "invalid number of columns" text 1 (Quantity.greatest - 9)

/-- The column after a character. -/
def columnAfter (settings : FoldSettings) (column : Nat) (c : Char) : Nat :=
  if settings.byOctets then column + 1
  else match c with
    | '\x08' => column - 1
    | '\r' => 0
    | '\t' => column + 8 - column % 8
    | _ => column + 1

/-- Fold a line from here on. `line` is what is not written of it, latest first. -/
def foldFrom (settings : FoldSettings) : (fuel column : Nat) → (line : List Char) → List Char →
    List Char
  | 0, _, line, _ => line.reverse
  | _, _, line, [] => line.reverse
  | fuel + 1, column, line, c :: cs =>
    if c == '\n' then line.reverse ++ '\n' :: foldFrom settings fuel 0 [] cs
    else
      let next := settings.columnAfter column c
      if next ≤ settings.width then foldFrom settings fuel next (c :: line) cs
      else
        let tail := line.takeWhile (!CharClass.isBlank ·)
        if settings.atBlanks && tail.length < line.length then
          let column := tail.reverse.foldl settings.columnAfter 0
          (line.drop tail.length).reverse ++ '\n' :: foldFrom settings fuel column tail (c :: cs)
        else if line.isEmpty then foldFrom settings fuel next [c] cs
        else line.reverse ++ '\n' :: foldFrom settings fuel 0 [] (c :: cs)

end FoldSettings

/-- `fold`: files with long lines broken. -/
def foldLines : Tool := do
  let (settings, operands) ← Work.options FoldSettings.options ({} : FoldSettings)
    FoldSettings.step
  let operands := if operands.isEmpty then ["-"] else operands
  operands.forM fun operand => do
    match ← Work.streamFile operand with
    | .error e => Work.fault (shellName operand ++ ": " ++ e.reason)
    | .ok cs => Work.say (String.ofList (settings.foldFrom (4 * cs.length + 4) 0 [] cs))

def turnOptions : OptionTable where
  letters := "0hV"
  words := [("zero", "0")]

/-- `rev`: each line from its last character to its first. -/
def turnLines : Tool := do
  let (options, operands) ← Work.optionList turnOptions
  let mark := if options.any (·.key == "0") then '\x00' else '\n'
  let operands := if operands.isEmpty then ["-"] else operands
  operands.forM fun operand => do
    match ← Work.streamFile operand with
    | .error .isADirectory => Work.fault (operand ++ ": Is a directory")
    | .error e => Work.fault ("cannot open " ++ operand ++ ": " ++ e.reason)
    | .ok cs =>
      let pieces := cs.splitOn mark
      let ended := pieces.dropLast.map fun line => line.reverse ++ [mark]
      Work.say (String.ofList (ended.flatten ++ (pieces.getLastD []).reverse))

end Polyglot.Tool
