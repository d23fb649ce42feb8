import Polyglot.Number.Floating
import Polyglot.Sandbox.MomentText
import Polyglot.Sandbox.Tool.Options
import Polyglot.Sandbox.Tool.Quantity

/-!
# Telling the time

`date`, and the waiting of `sleep`.
-/

namespace Polyglot.Tool

/-- The zone in which times are told. -/
def timeZone : Work TimeZone := do
  match ← Work.environmentValue? "TZ" with
  | none => return {}
  | some text =>
    let name := String.ofList (text.toList.takeWhile Char.isAlpha)
    let rest := text.toList.dropWhile Char.isAlpha
    let (sign, digits) : Int × List Char := match rest with
      | '-' :: digits => (1, digits)
      | '+' :: digits => (-1, digits)
      | digits => (-1, digits)
    match decimal? (String.ofList (digits.takeWhile Char.isDigit)) with
    | some hours =>
      return if 3 ≤ name.length && hours ≤ 24 then ⟨sign * hours * 3600, name⟩ else {}
    | none => return {}

def momentNow : Work Int := do
  return (← Work.getTree).now

def dateOptions : OptionTable where
  letters := "d:f:I::r:Rs:u"
  words := [("date=", "d"), ("debug", "debug"), ("file=", "f"), ("iso-8601?", "I"),
    ("reference=", "r"), ("resolution", "resolution"), ("rfc-2822", "R"), ("rfc-822", "R"),
    ("rfc-email", "R"), ("rfc-3339=", "3339"), ("set=", "s"), ("uct", "u"), ("utc", "u"),
    ("universal", "u")]

/-- How exactly a moment is to be told. -/
def isoFormats : Choices String := [
  (["hours"], "%Y-%m-%dT%H%:z"), (["minutes"], "%Y-%m-%dT%H:%M%:z"), (["date"], "%Y-%m-%d"),
  (["seconds"], "%Y-%m-%dT%H:%M:%S%:z"), (["ns"], "%Y-%m-%dT%H:%M:%S,%N%:z")]

def rfcFormats : Choices String := [
  (["date"], "%Y-%m-%d"), (["seconds"], "%Y-%m-%d %H:%M:%S%:z"),
  (["ns"], "%Y-%m-%d %H:%M:%S.%N%:z")]

/-- The format that options ask for. -/
def dateFormat? (option : GivenOption) : Work (Option String) := do
  match option.key with
  | "I" =>
    match option.value? with
    | some text => return some (← Work.choice "--iso-8601" text isoFormats)
    | none => return some "%Y-%m-%d"
  | "3339" => return some (← Work.choice "--rfc-3339" option.value rfcFormats)
  | "R" => return some "%a, %d %b %Y %H:%M:%S %z"
  | "resolution" => return some "%s.%N"
  | _ => return none

/-- `date`: a moment, as a format lays it out. -/
def tellDate : Tool := do
  let (options, operands) ← Work.optionList dateOptions
  let formats ← options.filterMapM dateFormat?
  let value? (key : String) := (options.filter (·.key == key)).getLast?.map (·.value)
  let sources := ["d", "f", "r"].filter fun key => (value? key).isSome
  if 1 < sources.length then
    Work.misuse "the options to specify dates for printing are mutually exclusive"
  if 1 < formats.length then Work.die "multiple output formats specified"
  match operands with
  | _ :: extra :: _ => Work.misuse ("extra operand " ++ quoted extra)
  | _ => pure ()
  let format? ← match operands with
    | [] => pure formats.head?
    | operand :: _ =>
      if operand.startsWith "+" then
        if !formats.isEmpty then Work.die "multiple output formats specified"
        else pure (some (operand.drop 1).toString)
      else if !sources.isEmpty || (value? "s").isSome then
        Work.misuse ("the argument " ++ quoted operand ++ " lacks a leading '+';\n" ++
          "when using an option to specify date(s), any non-option\n" ++
          "argument must be a format string beginning with '+'")
      else Work.die ("invalid date " ++ quoted operand)
  Work.insistOnWidths (format?.getD "")
  let zone ← if options.any (·.key == "u") then pure {} else timeZone
  let now ← momentNow
  let tell (moment : Int) : Work Unit :=
    Work.sayLine (Calendar.formatted zone moment (format?.getD "%a %b %e %H:%M:%S %Z %Y"))
  let tellText (text : String) : Work Unit := do
    match MomentText.read? zone now text with
    | some moment => tell moment
    | none => Work.fault ("invalid date " ++ quoted text)
  match value? "d", value? "r", value? "f" with
  | some text, _, _ => tellText text
  | _, some file, _ =>
    match ← Work.find file with
    | .ok (_, _, node) => tell node.modified
    | .error e => Work.fault (shellName file ++ ": " ++ e.reason)
  | _, _, some file =>
    match ← Work.readFile file with
    | .ok cs => (textLines cs).forM fun line => tellText (String.ofList line)
    | .error e => Work.fault (shellName file ++ ": " ++ e.reason)
  | none, none, none => tell now

/-! ## Waiting -/

/-- An interval of time in nanoseconds: a number with a letter for its unit. -/
def interval? (text : String) : Option Nat :=
  match Floating.read? .extended text.toList with
  | none => none
  | some (x, rest) =>
    let unit? := match rest with
      | [] => some 1
      | ['s'] => some 1
      | ['m'] => some 60
      | ['h'] => some 3600
      | ['d'] => some 86400
      | _ => none
    match unit?, x with
    | some unit, .finite negative magnitude =>
      if negative && magnitude != 0 then none
      else some ((magnitude * (unit * 1000000000 : Nat)).ceil.toNat)
    | some _, .infinite false => some (Nat.pow 10 30)
    | _, _ => none

/-- `sleep`: waits for the sum of some intervals. -/
def sleep : Tool := do
  let (_, operands) ← Work.optionList { letters := "" }
  if operands.isEmpty then Work.misuse "missing operand"
  let bad := operands.filter fun operand => (interval? operand).isNone
  bad.forM fun operand => Work.complain ("invalid time interval " ++ quoted operand)
  if !bad.isEmpty then
    Work.hint
    Work.exit 1
  operands.forM fun operand => Work.wait ((interval? operand).getD 0)

end Polyglot.Tool
