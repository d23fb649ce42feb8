import Polyglot.Number.Directive
import Polyglot.Sandbox.Tool.Columns
import Polyglot.Sandbox.Tool.Options

/-!
# Numbers with units

Numbers in some fields of lines are written anew: with letters for thousands, or without them, with
other units, filled up to a width. All numbers are exact until they are rounded.
-/

namespace Polyglot.Tool

/-- What letters after numbers mean. -/
inductive UnitScale where
  /-- There are none. -/
  | plain
  /-- Powers of 1000. -/
  | thousands
  /-- Powers of 1024. -/
  | binary
  /-- Powers of 1024, with an `i` after the letter. -/
  | binaryMarked
  /-- Powers of 1000, or of 1024 with an `i` after the letter. -/
  | any
deriving DecidableEq

namespace UnitScale

def letters : List Char := "KMGTPEZYRQ".toList

def base : UnitScale → Nat
  | binary => 1024
  | binaryMarked => 1024
  | _ => 1000

end UnitScale

/-- How numbers are rounded. -/
inductive Rounding where
  | up
  | down
  | fromZero
  | towardsZero
  | nearest
deriving DecidableEq

namespace Rounding

/-- The whole number that a number is rounded to. -/
def round (rounding : Rounding) (q : Rat) : Int :=
  match rounding with
  | up => q.ceil
  | down => q.floor
  | fromZero => if q < 0 then q.floor else q.ceil
  | towardsZero => if q < 0 then q.ceil else q.floor
  | nearest => if q < 0 then (q - 1 / 2).ceil else (q + 1 / 2).floor

/-- Round to some decimals. -/
def toPlaces (rounding : Rounding) (places : Nat) (q : Rat) : Rat :=
  let unit : Rat := (Nat.pow 10 places : Nat)
  (rounding.round (q * unit) : Rat) / unit

end Rounding

/-- What becomes of what is no number. -/
inductive Leniency where
  | abort
  | fail
  | warn
  | ignore
deriving DecidableEq

structure ScaleSettings where
  source : UnitScale := .plain
  target : UnitScale := .plain
  rounding : Rounding := .fromZero
  sourceUnit : Nat := 1
  targetUnit : Nat := 1
  places? : Option Nat := none
  suffix : String := ""
  padding : Nat := 0
  leftward : Bool := false
  zeros : Nat := 0
  before : String := ""
  after : String := ""
  leniency : Leniency := .abort
  header : Nat := 0
  fields : List ColumnRange := [⟨1, some 1⟩]
  fieldsGiven : Bool := false
  delimiter? : Option Char := none
  mark : Char := '\n'
  isGrouped : Bool := false
  format? : Option String := none
  /-- What has no effect is told. -/
  warns : Bool := false

namespace ScaleSettings

/-- Is there nothing by which numbers are changed? -/
def isIdle (settings : ScaleSettings) : Bool :=
  settings.source = .plain && settings.target = .plain && !settings.isGrouped &&
    settings.padding = 0 && settings.format?.isNone

def options : OptionTable where
  letters := "d:z"
  words := [("from=", "from"), ("from-unit=", "from-unit"), ("to=", "to"), ("to-unit=", "to-unit"),
    ("round=", "round"), ("padding=", "padding"), ("suffix=", "suffix"), ("grouping", "grouping"),
    ("delimiter=", "d"), ("field=", "field"), ("debug", "debug"),
    ("header?", "header"), ("format=", "format"), ("invalid=", "invalid"),
    ("zero-terminated", "z")]

def sourceScales : Choices UnitScale :=
  [(["none"], .plain), (["auto"], .any), (["si"], .thousands), (["iec"], .binary),
    (["iec-i"], .binaryMarked)]

def targetScales : Choices UnitScale :=
  [(["none"], .plain), (["si"], .thousands), (["iec"], .binary), (["iec-i"], .binaryMarked)]

def roundings : Choices Rounding :=
  [(["up"], .up), (["down"], .down), (["from-zero"], .fromZero),
    (["towards-zero"], .towardsZero), (["nearest"], .nearest)]

def leniencies : Choices Leniency :=
  [(["abort"], .abort), (["fail"], .fail), (["warn"], .warn), (["ignore"], .ignore)]

/-- A unit: a number that a letter may multiply by powers of 1000, or of 1024 with an `i`. -/
def unit (text : String) : Work Nat := do
  let cs := text.toList
  let digits := cs.takeWhile Char.isDigit
  let power (c : Char) : Option Nat :=
    (UnitScale.letters.findIdx? (· == c)).map (· + 1)
  let factor? : Option Nat := match cs.drop digits.length with
    | [] => some 1
    | [c] => (power c).map (Nat.pow 1000)
    | [c, 'i'] => (power c).map (Nat.pow 1024)
    | _ => none
  let n := (if digits.isEmpty then 1 else decimal digits) * factor?.getD 0
  if n = 0 || Quantity.greatest < n || cs.isEmpty then
    Work.die ("invalid unit size: " ++ quoted text)
  return n

def step (settings : ScaleSettings) (option : GivenOption) : Work ScaleSettings := do
  match option.key with
  | "from" => return { settings with source := ← Work.choice "--from" option.value sourceScales }
  | "to" => return { settings with target := ← Work.choice "--to" option.value targetScales }
  | "round" => return { settings with
      rounding := ← Work.choice "--round" option.value roundings }
  | "invalid" => return { settings with
      leniency := ← Work.choice "--invalid" option.value leniencies }
  | "from-unit" => return { settings with sourceUnit := ← unit option.value }
  | "to-unit" => return { settings with targetUnit := ← unit option.value }
  | "padding" =>
    match Quantity.signed "" option.value with
    | .ok n =>
      if n = 0 then Work.die ("invalid padding value " ++ quoted option.value)
      Work.insistOnBound n.natAbs
      return { settings with padding := n.natAbs, leftward := n < 0 }
    | .error _ => Work.die ("invalid padding value " ++ quoted option.value)
  | "suffix" => return { settings with suffix := option.value }
  | "grouping" => return { settings with isGrouped := true }
  | "d" =>
    match option.value.toList with
    | [] => return { settings with delimiter? := some '\x00' }
    | [c] => return { settings with delimiter? := some c }
    | _ => Work.die "the delimiter must be a single character"
  | "field" =>
    if settings.fieldsGiven then Work.die "multiple field specifications"
    match columnRanges { fieldWords with allowsDash := true } option.value with
    | .ok fields => return { settings with fields, fieldsGiven := true }
    | .error complaint => Work.misuse complaint
  | "header" =>
    match option.value? with
    | none => return { settings with header := 1 }
    | some text =>
      match Quantity.unsigned "" text with
      | .ok (n + 1) => return { settings with header := n + 1 }
      | _ => Work.die ("invalid header value " ++ quoted text)
  | "format" => return { settings with format? := some option.value }
  | "z" => return { settings with mark := '\x00' }
  | "debug" => return { settings with warns := true }
  | _ => return settings

/-- The text before a percent sign that is not doubled, and what follows the sign. -/
def upToPercent : List Char → Option (List Char × List Char)
  | [] => none
  | '%' :: '%' :: rest => (upToPercent rest).map fun (before, after) => ('%' :: '%' :: before, after)
  | '%' :: rest => some ([], rest)
  | c :: rest => (upToPercent rest).map fun (before, after) => (c :: before, after)

/-- Take a layout apart: text, a directive for a number, text. -/
def withFormat (settings : ScaleSettings) (text : String) : Work ScaleSettings := do
  let some (before, rest) := upToPercent text.toList
    | Work.die ("format " ++ quoted text ++ " has no % directive")
  let flags := rest.takeWhile (" '0".toList.contains ·)
  let rest := rest.drop flags.length
  let (isLeft, rest) := match rest with
    | '-' :: rest => (true, rest)
    | rest => (false, rest)
  let digits := rest.takeWhile Char.isDigit
  let width := decimal digits
  let rest := rest.drop digits.length
  if rest.isEmpty then Work.die ("format " ++ quoted text ++ " ends in %")
  Work.insistOnWidths text
  let (places?, rest) ← match rest with
    | '.' :: rest => do
      let digits := rest.takeWhile Char.isDigit
      match rest.head? with
      | some c =>
        if c == '-' || c == '+' || c == ' ' || c == '\t' then
          Work.die ("invalid precision in format " ++ quoted text)
      | none => pure ()
      pure (some (decimal digits), rest.drop digits.length)
    | rest => pure (none, rest)
  let 'f' :: after := rest
    | Work.die ("invalid format " ++ quoted text ++
        ", directive must be %[0]['][-][N][.][N]f")
  if (upToPercent after).isSome then
    Work.die ("format " ++ quoted text ++ " has too many % directives")
  let settings := { settings with
    before := String.ofList before, after := String.ofList after, places?
    isGrouped := settings.isGrouped || flags.contains '\'' }
  if width = 0 then return settings
  else if isLeft then return { settings with padding := width, leftward := true }
  else if flags.contains '0' then return { settings with zeros := width }
  else return { settings with padding := width }

end ScaleSettings

/-! ## Reading numbers -/

/-- Why a text is no number. -/
inductive NumberFault where
  | malformed
  | overflow
  | needlessLetter
  | suffix
  | missingMark
  | rest (text : String)

def NumberFault.message (text : String) : NumberFault → String
  | malformed => "invalid number: " ++ quoted text
  | overflow => "value too large to be converted: " ++ quoted text
  | needlessLetter => "rejecting suffix in input: " ++ quoted text ++ " (consider using --from)"
  | suffix => "invalid suffix in input: " ++ quoted text
  | missingMark => "missing 'i' suffix in input: " ++ quoted text ++ " (e.g Ki/Mi/Gi)"
  | rest other => "invalid suffix in input " ++ quoted text ++ ": " ++ quoted other

/-- Digits with a point among them: the number, how many decimals it has, and what follows. -/
def readDecimal (cs : List Char) : Except NumberFault (Rat × Nat × List Char) :=
  let (negative, cs) := match cs with
    | '-' :: rest => (true, rest)
    | cs => (false, cs)
  let whole := cs.takeWhile Char.isDigit
  let rest := cs.drop whole.length
  let sign : Rat := if negative then -1 else 1
  let tooLong (digits : List Char) : Bool := 33 < (digits.dropWhile (· == '0')).length
  if whole.isEmpty && rest.head? != some '.' then .error .malformed
  else if tooLong whole then .error .overflow
  else match rest with
    | '.' :: rest =>
      let decimals := rest.takeWhile Char.isDigit
      let after := rest.drop decimals.length
      if decimals.isEmpty then .error .malformed
      else if tooLong decimals then .error .overflow
      else
        let fraction : Rat := (decimal decimals : Rat) / (Nat.pow 10 decimals.length : Nat)
        .ok (sign * (decimal whole + fraction), decimals.length, after)
    | rest => .ok (sign * (decimal whole : Rat), 0, rest)

/-- A number with a letter after it, as far as the scale allows for one. -/
def readScaled (scale : UnitScale) (cs : List Char) : Except NumberFault (Rat × Nat) := do
  let (value, places, rest) ← readDecimal cs
  let (factor, places, rest) ← match rest.dropWhile CharClass.isBlank with
    | [] =>
      if rest.isEmpty then pure ((1 : Nat), places, [])
      else throw NumberFault.suffix
    | c :: after =>
      match UnitScale.letters.findIdx? (· == c) with
      | none => throw NumberFault.suffix
      | some power =>
        if scale = .plain then throw NumberFault.needlessLetter
        let (base, after) := match after with
          | 'i' :: more => if scale = .any then (1024, more) else (scale.base, after)
          | _ => (scale.base, after)
        pure (Nat.pow base (power + 1), 0, after)
  let rest ← if scale = .binaryMarked then
      match rest with
      | 'i' :: rest => pure rest
      | _ => throw NumberFault.missingMark
    else pure rest
  if !rest.isEmpty then throw (NumberFault.rest (String.ofList rest))
  return (value * factor, places)

/-! ## Writing numbers -/

/-- How often a number can be divided by another before it is less than that. -/
def divisions (base : Nat) : (fuel : Nat) → Rat → Nat
  | 0, _ => 0
  | fuel + 1, q => if q.abs < base then 0 else divisions base fuel (q / base) + 1

/-- A number rounded to some decimals. -/
def fixedText (settings : ScaleSettings) (places : Nat) (q : Rat) : String :=
  String.ofList (({ conversion := 'f', precision? := some places, zeros := settings.zeros != 0
                    width := settings.zeros } : Directive).floating .extended (Floating.ofRat q))

/-- A number with a letter. -/
def scaledText (settings : ScaleSettings) (q : Rat) : String :=
  let base := settings.target.base
  let power := divisions base 20 q
  let value := q / (Nat.pow base power : Nat)
  let places := match settings.places? with
    | some places => min (3 * power) places
    | none => if value.abs < 10 then 1 else 0
  let rounded := settings.rounding.toPlaces places value
  let (rounded, power) := if rounded.abs < base then (rounded, power) else (rounded / base, power + 1)
  let shown := settings.places?.getD
    (if rounded ≠ 0 && rounded.abs < 10 && 0 < power then 1 else 0)
  fixedText settings shown rounded ++
    (if power = 0 then "" else String.singleton (UnitScale.letters.getD (power - 1) '?')) ++
    (if settings.target = .binaryMarked && 0 < power then "i" else "")

/-- The text of a number, or why there is none. -/
def numberText (settings : ScaleSettings) (q : Rat) (places : Nat) : Except String String :=
  let places := settings.places?.getD places
  let length := divisions 10 400 q
  let shown : String := String.ofList (({ conversion := 'g' } : Directive).floating .extended
    (Floating.ofRat q))
  if settings.target = .plain && 18 < length + places then
    .error (if places = 0 then
      "value too large to be printed: '" ++ shown ++ "' (consider using --to)"
    else "value/precision too large to be printed: '" ++ shown ++ "/" ++ toString places ++
      "' (consider using --to)")
  else if 32 < length then
    .error ("value too large to be handled: '" ++ shown ++ "' (cannot handle values > 999Q)")
  else
    let text := if settings.target = .plain
      then fixedText settings places (settings.rounding.toPlaces places q)
      else scaledText settings q
    .ok (text ++ settings.suffix)

/-- Write the number in a field anew: the text, and whether it was a number. -/
def rescale (settings : ScaleSettings) (number : Nat) (field : List Char) :
    Work (String × Bool) := do
  let suffix := settings.suffix.toList
  let bare := if !suffix.isEmpty && suffix.length < field.length &&
      suffix.reverse.isPrefixOf field.reverse then field.take (field.length - suffix.length)
    else field
  let text := bare.dropWhile CharClass.isBlank
  let isAuto := settings.padding = 0 && settings.delimiter?.isNone
  let width := if isAuto then
      (if text.length < bare.length || 1 < number then bare.length else 0)
    else settings.padding
  let refuse (complaint : String) : Work (String × Bool) := do
    match settings.leniency with
    | .abort => Work.die complaint 2
    | .ignore => pure ()
    | _ => Work.complain complaint
    return (String.ofList bare, false)
  match readScaled settings.source text with
  | .error fault => refuse (fault.message (String.ofList text))
  | .ok (value, places) =>
    let value := value * settings.sourceUnit / settings.targetUnit
    match numberText settings value places with
    | .error complaint => refuse complaint
    | .ok shown =>
      let padded := if settings.leftward then padRight width shown else padLeft width shown
      return (settings.before ++ padded ++ settings.after, true)

/-- The fields of a line. Without a delimiter they are divided by one blank, and blanks before a
field belong to it. -/
def scaleFields (delimiter? : Option Char) : (fuel : Nat) → List Char → List (List Char)
  | 0, _ => []
  | fuel + 1, cs =>
    let isGap (c : Char) : Bool := CharClass.isBlank c || c == '\n'
    let field := match delimiter? with
      | some d => cs.takeWhile (· != d)
      | none =>
        let lead := cs.takeWhile isGap
        lead ++ (cs.drop lead.length).takeWhile (!isGap ·)
    match cs.drop field.length with
    | [] => [field]
    | _ :: rest => field :: scaleFields delimiter? fuel rest

def rescaleLine (settings : ScaleSettings) (line : List Char) : Work Bool := do
  let fields := scaleFields settings.delimiter? (line.length + 1) line
  let gap := String.singleton (settings.delimiter?.getD ' ')
  let (_, isWhole) ← fields.foldlM
    (fun ((number, isWhole) : Nat × Bool) field => do
      if 1 < number then Work.say gap
      if settings.fields.any (·.has number) then
        let (text, isNumber) ← rescale settings number field
        Work.say text
        return (number + 1, isWhole && isNumber)
      else
        Work.say (String.ofList field)
        return (number + 1, isWhole))
    (1, true)
  return isWhole

/-- `numfmt`: numbers with other units. -/
def rescaleNumbers : Tool := do
  let (settings, operands) ← Work.options ScaleSettings.options ({} : ScaleSettings)
    ScaleSettings.step
  if settings.isGrouped && settings.format?.isSome then
    Work.die "--grouping cannot be combined with --format"
  if settings.warns && settings.isIdle then Work.complain "no conversion option specified"
  let settings ← match settings.format? with
    | none => pure settings
    | some text => settings.withFormat text
  if settings.isGrouped then
    if settings.target ≠ .plain then Work.die "grouping cannot be combined with --to"
    if settings.warns then Work.complain "grouping has no effect in this locale"
  if settings.warns && 0 < settings.header && !operands.isEmpty then
    Work.complain "--header ignored with command-line input"
  let mark := String.singleton settings.mark
  let isWhole ← if !operands.isEmpty then
      operands.foldlM
        (fun isWhole operand => do
          let isNumber ← rescaleLine settings operand.toList
          Work.say mark
          return isWhole && isNumber)
        true
    else
      match ← Work.readInput with
      | .error e => Work.die ("error reading input: " ++ e.reason)
      | .ok cs => do
        let pieces := cs.splitOn settings.mark
        let lines := pieces.dropLast.map (·, true) ++
          ((pieces.getLast?.filter (!·.isEmpty)).toList.map (·, false))
        (lines.take settings.header).forM fun (line, isEnded) =>
          Work.say (String.ofList line ++ (if isEnded then mark else ""))
        (lines.drop settings.header).foldlM
          (fun isWhole (line, isEnded) => do
            let isNumber ← rescaleLine settings line
            if isEnded then Work.say mark
            return isWhole && isNumber)
          true
  if settings.warns && !isWhole then
    Work.complain "failed to convert some of the input numbers"
  if !isWhole && settings.leniency ≠ .warn && settings.leniency ≠ .ignore then Work.setCode 2

end Polyglot.Tool
