import Polyglot.Sandbox.Regular
import Polyglot.Sandbox.Tool.Options
import Polyglot.Sandbox.Tool.Quote

/-!
# Putting files together

Files one after the other as they are or with marks for what cannot be seen, and files with their
lines in reverse.
-/

namespace Polyglot.Tool

/-- What is shown besides the octets themselves. -/
structure Showing where
  ends : Bool := false
  tabs : Bool := false
  controls : Bool := false
  numbers : Bool := false
  /-- Only lines with something in them have numbers. -/
  onlyFull : Bool := false
  /-- Of empty lines in a row only one is left. -/
  squeezes : Bool := false

namespace Showing

def step (showing : Showing) (option : GivenOption) : Work Showing :=
  return match option.key with
    | "A" => { showing with ends := true, tabs := true, controls := true }
    | "b" => { showing with numbers := true, onlyFull := true }
    | "e" => { showing with ends := true, controls := true }
    | "E" => { showing with ends := true }
    | "n" => { showing with numbers := true }
    | "s" => { showing with squeezes := true }
    | "t" => { showing with tabs := true, controls := true }
    | "T" => { showing with tabs := true }
    | "v" => { showing with controls := true }
    | _ => showing

/-- A control character after a caret. -/
def caret (n : Nat) : List Char :=
  ['^', if n == 127 then '?' else Char.ofNat (n + 64)]

/-- A character other than a line feed, as it is shown. -/
def shown (showing : Showing) (c : Char) (next? : Option Char) : List Char :=
  let n := c.toNat
  if c == '\t' then (if showing.tabs then ['^', 'I'] else [c])
  else if !showing.controls then
    if c == '\r' && next? == some '\n' && showing.ends then ['^', 'M'] else [c]
  else if n < 32 || n == 127 then caret n
  else if n < 128 then [c]
  else 'M' :: '-' :: (let n := n - 128; if n < 32 || n == 127 then caret n else [Char.ofNat n])

end Showing

/-- Where the output of several files stands: the number of the last line, and how many line ends
came one after another, less one. -/
structure LineState where
  number : Nat := 0
  blank : Int := 0

/-- A number in a field, filled with blanks on the left. -/
def padLeft (width : Nat) (text : String) : String :=
  String.ofList (List.replicate (width - text.length) ' ') ++ text

/-- Fill with blanks on the right. -/
def padRight (width : Nat) (text : String) : String :=
  text ++ String.ofList (List.replicate (width - text.length) ' ')

def numberMark (n : Nat) : List Char :=
  (padLeft 6 (toString n) ++ "\t").toList

/-- The octets of a file as they are shown; what has been written is given latest first. -/
def showFrom (showing : Showing) : List Char → LineState → List Char → LineState × List Char
  | [], state, written => (state, written)
  | '\n' :: rest, state, written =>
    let blank := state.blank + 1
    if blank ≥ 2 && showing.squeezes then showFrom showing rest { state with blank := 2 } written
    else
      let isNumbered := 0 < blank && showing.numbers && !showing.onlyFull
      let number := if isNumbered then state.number + 1 else state.number
      let written := if isNumbered then (numberMark number).reverse ++ written else written
      let written := if showing.ends then '$' :: written else written
      showFrom showing rest { number, blank := min blank 2 } ('\n' :: written)
  | c :: rest, state, written =>
    let isNumbered := 0 ≤ state.blank && showing.numbers
    let number := if isNumbered then state.number + 1 else state.number
    let written := if isNumbered then (numberMark number).reverse ++ written else written
    showFrom showing rest { number, blank := -1 }
      ((showing.shown c rest.head?).reverse ++ written)

def concatenationOptions : OptionTable where
  letters := "benstuvAET"
  words := [("number-nonblank", "b"), ("number", "n"), ("squeeze-blank", "s"),
    ("show-nonprinting", "v"), ("show-ends", "E"), ("show-tabs", "T"), ("show-all", "A")]

/-- Would reading a file never come to an end, since it is what is written? -/
def exhausts (source? sink? : Option (Nat × Nat)) : Bool :=
  match source?, sink? with
  | some (input, from'), some (output, to') => input == output && from' < to'
  | _, _ => false

/-- `cat`: files one after the other. -/
def concatenate : Tool := do
  let (showing, operands) ← Work.options concatenationOptions ({} : Showing) Showing.step
  let operands := if operands.isEmpty then ["-"] else operands
  discard <| operands.foldlM
    (fun (state : LineState) operand => do
      if exhausts (← Work.source? operand) (← Work.sink?) then
        Work.fault (shellName operand ++ ": input file is output file")
        return state
      match ← Work.streamFile operand with
      | .error e => do
        Work.fault (shellName operand ++ ": " ++ e.reason)
        return state
      | .ok cs => do
        let (state, written) := showFrom showing cs state []
        Work.say (String.ofList written.reverse)
        return state)
    {}

/-! ## In reverse -/

/-- What separates records. -/
inductive Separator where
  | word (cs : List Char)
  | pattern (r : Regular)

namespace Separator

/-- The set that ends at the first closing bracket: classes of characters have no names here. -/
def plainSet (cs : List Char) : List Char × List Char :=
  let (lead, cs) := match cs with
    | '^' :: rest => (['^'], rest)
    | cs => ([], cs)
  let (first, cs) := match cs with
    | ']' :: rest => ([']'], rest)
    | cs => ([], cs)
  let members := cs.takeWhile (· != ']')
  let members := if members.contains '[' then members.filter (· != '[') ++ ['['] else members
  (lead ++ first ++ members, cs.drop (cs.takeWhile (· != ']')).length)

/-- An expression in which `+` and `?` repeat, and braces are nothing special, as one in which a
backslash makes them so. -/
def basicPattern : (fuel : Nat) → List Char → List Char
  | 0, cs => cs
  | _, [] => []
  | fuel + 1, '\\' :: c :: rest =>
    (if "+?{}".toList.contains c then [c] else ['\\', c]) ++ basicPattern fuel rest
  | fuel + 1, '[' :: rest =>
    let (members, rest) := plainSet rest
    '[' :: members ++ basicPattern fuel rest
  | fuel + 1, c :: rest =>
    (if c == '+' || c == '?' then ['\\', c] else [c]) ++ basicPattern fuel rest

/-- The last place before another where a separator stands, and where it ends. -/
def last? (separator : Separator) (text : Array Char) (place : Nat) : Option (Nat × Nat) :=
  match separator with
  | pattern r => r.findLast text place
  | word cs =>
    let here (start : Nat) : Bool := (text.extract start (start + cs.length)).toList == cs
    let rec look : Nat → Option (Nat × Nat)
      | 0 => none
      | start + 1 => if here start then some (start, start + cs.length) else look start
    look (place + 1 - cs.length)

/-- The records in front of a place, the last one first, where what was passed ends elsewhere. A
separator at the very end of a text ends no record. -/
def records (separator : Separator) (before : Bool) (text : Array Char) :
    (fuel place stop : Nat) → (isFirst : Bool) → List (List Char)
  | 0, _, stop, _ => [(text.extract 0 stop).toList]
  | fuel + 1, place, stop, isFirst =>
    match separator.last? text place with
    | none => [(text.extract 0 stop).toList]
    | some (start, finish) =>
      let cut := if before then start else finish
      let record := if !before && isFirst && cut = stop then []
        else (text.extract cut stop).toList
      record :: records separator before text fuel start cut false

end Separator

def reversalOptions : OptionTable where
  letters := "brs:"
  words := [("before", "b"), ("regex", "r"), ("separator=", "s")]

/-- What separates records, by the options. -/
def separatorOf (options : List GivenOption) : Work Separator := do
  let given? := (options.filter (·.key == "s")).getLast?.map (·.value)
  if options.any (·.key == "r") then
    let text := (given?.getD "\n").toList
    if text.isEmpty then Work.die "separator cannot be empty"
    match Regular.parse (String.ofList (Separator.basicPattern (text.length + 1) text)) with
    | .ok (r, _) => return .pattern r.inLines
    | .error _ => Work.die "Invalid regular expression"
  else
    let cs := (given?.getD "\n").toList
    return .word (if cs.isEmpty then ['\x00'] else cs)

/-- `tac`: each file with its lines in reverse. -/
def concatenateReversed : Tool := do
  let (options, operands) ← Work.optionList reversalOptions
  let before := options.any (·.key == "b")
  let separator ← separatorOf options
  let operands := if operands.isEmpty then ["-"] else operands
  -- nothing is written before all files are read
  let written ← operands.mapM fun operand => do
    match ← Work.readFile operand with
    | .error .isADirectory => do
      let shown := if operand == "-" then "'standard input'" else shellName operand
      Work.fault (shown ++ ": read error: " ++ SystemError.invalidArgument.reason)
      return []
    | .error e => do
      Work.fault ("failed to open " ++ shellQuoted operand ++ " for reading: " ++ e.reason)
      return []
    | .ok cs =>
      let text := cs.toArray
      return (separator.records before text (text.size + 1) text.size text.size true).flatten
  Work.say (String.ofList written.flatten)

end Polyglot.Tool
