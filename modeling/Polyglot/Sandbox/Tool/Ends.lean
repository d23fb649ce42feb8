import Polyglot.Sandbox.Tool.Quantity

/-!
# The ends of files

Showing the first part of files, or the last, measured in lines or octets.
-/

namespace Polyglot.Tool

/-- Which part of a file is shown, measured in lines or octets. -/
inductive Portion where
  | first (count : Nat)
  | allButFirst (count : Nat)
  | last (count : Nat)
  | allButLast (count : Nat)
deriving DecidableEq, Repr

/-- What `head` and `tail` are asked for. -/
structure PartSettings where
  portion : Portion
  byLines : Bool := true
  /-- Whether files have headlines, if that is said. -/
  headlines? : Option Bool := none
  mark : Char := '\n'
  follows : Bool := false
  retries : Bool := false

/-- Lines with the marks that end them. -/
def markedLines (mark : Char) (cs : List Char) : List (List Char) :=
  let pieces := cs.splitOn mark
  let last := pieces.getLastD []
  pieces.dropLast.map (· ++ [mark]) ++ (if last.isEmpty then [] else [last])

/-- The part of a text that is shown. -/
def Portion.of (portion : Portion) (byLines : Bool) (mark : Char) (cs : List Char) : List Char :=
  if byLines then
    let lines := markedLines mark cs
    (match portion with
      | first n => lines.take n
      | allButFirst n => lines.drop n
      | last n => lines.drop (lines.length - n)
      | allButLast n => lines.take (lines.length - n)).flatten
  else match portion with
    | first n => cs.take n
    | allButFirst n => cs.drop n
    | last n => cs.drop (cs.length - n)
    | allButLast n => cs.take (cs.length - n)

/-- How a file is called in headlines. -/
def titleOf (operand : String) : String :=
  if operand == "-" then "standard input" else operand

/-- A headline, with an empty line before it unless it is the first. -/
def sayHeadline (isFirst : Bool) (operand : String) : Work Unit :=
  Work.say ((if isFirst then "" else "\n") ++ "==> " ++ titleOf operand ++ " <==\n")

/-- How many octets the first lines of a text have, if it has that many. -/
def lengthOfLines (mark : Char) : (count : Nat) → List Char → Option Nat
  | 0, _ => some 0
  | _, [] => none
  | count + 1, c :: cs =>
    (lengthOfLines mark (if c == mark then count else count + 1) cs).map (· + 1)

/-- The octets that are read for the first part of the standard input, if they are there. -/
def PartSettings.needed? (settings : PartSettings) (cs : List Char) : Option Nat :=
  match settings.portion with
  | .first n =>
    if settings.byLines then lengthOfLines settings.mark n cs
    else if n ≤ cs.length then some n else none
  | _ => none

/-- The part of the standard input that is shown. No more of it is read than needed. -/
def inputPart (settings : PartSettings) : Work (Except SystemError (List Char)) := do
  match ← Work.peekInput with
  | .error e => return .error e
  | .ok supply =>
    match settings.needed? supply.rest with
    | some n => do
      Work.takeInput n
      if settings.byLines then Work.readBlocks
      return .ok (supply.rest.take n)
    | none =>
      return (← Work.readInput).map (settings.portion.of settings.byLines settings.mark)

/-- The part of a file that is shown. -/
def filePart (settings : PartSettings) (operand : String) :
    Work (Except SystemError (List Char)) := do
  if operand == "-" then inputPart settings
  else
    let before := (← get).isEndless
    match ← Work.streamFile operand with
    | .error e => return .error e
    | .ok cs =>
      match settings.needed? cs with
      | some n => do
        modify fun desk => { desk with isEndless := before }
        return .ok (cs.take n)
      | none =>
        Work.insistOnEnd (.ok (settings.portion.of settings.byLines settings.mark cs))

/-- Does a file that cannot be read end everything? It does where all is read on from a place that is
known beforehand. -/
def PartSettings.isFatal (settings : PartSettings) : Bool :=
  match settings.portion with
  | .allButFirst n => !settings.byLines || n = 0
  | .last _ => !settings.byLines
  | _ => false

/-- Show the parts of all files; those that were shown are given. -/
def sayParts (settings : PartSettings) (operands : List String) : Work (List String) := do
  let headlines := settings.headlines?.getD (1 < operands.length)
  let (_, shown) ← operands.foldlM
    (fun (isFirst, shown) operand => do
      match ← filePart settings operand with
      | .ok cs => do
        if headlines then sayHeadline isFirst operand
        Work.say (String.ofList cs)
        return (false, operand :: shown)
      | .error e =>
        if e = .isADirectory || operand == "-" then do
          if headlines then sayHeadline isFirst operand
          -- nothing is read where nothing is to be shown
          if settings.portion == .first 0 && e = .isADirectory then return (false, operand :: shown)
          Work.fault ("error reading " ++ shellQuoted (titleOf operand) ++ ": " ++ e.reason)
          if settings.isFatal then Work.exit 1
          return (false, shown)
        else do
          Work.fault ("cannot open " ++ shellQuoted operand ++ " for reading: " ++ e.reason)
          return (isFirst, shown))
    (true, [])
  return shown

def countComplaint (byLines : Bool) : String :=
  if byLines then "invalid number of lines" else "invalid number of bytes"

def countSuffixes : String := "bkKmMGTPEZYRQ0"

/-! ## The first part -/

def headOptions : OptionTable where
  letters := "c:n:qvz0123456789"
  words := [("bytes=", "c"), ("lines=", "n"), ("presume-input-pipe", "pipe"), ("quiet", "q"),
    ("silent", "q"), ("verbose", "v"), ("zero-terminated", "z")]

/-- A number of lines or octets to show, or after a hyphen to leave. -/
def headCount (settings : PartSettings) (byLines : Bool) (text : String) : Work PartSettings := do
  let (isRest, digits) := match text.toList with
    | '-' :: rest => (true, String.ofList rest)
    | _ => (false, text)
  let n ← Work.quantity countSuffixes (countComplaint byLines) digits
  return { settings with byLines, portion := if isRest then .allButLast n else .first n }

def headStep (settings : PartSettings) (option : GivenOption) : Work PartSettings :=
  match option.key with
  | "c" => headCount settings false option.value
  | "n" => headCount settings true option.value
  | "q" => return { settings with headlines? := some false }
  | "v" => return { settings with headlines? := some true }
  | "z" => return { settings with mark := '\x00' }
  | "pipe" => return settings
  | key => Work.misuse ("invalid trailing option -- " ++ key)

/-- The letters after a number that begins the arguments: the multiplier that they choose. -/
def oldHeadLetters (digits : String) : List Char → PartSettings → Option Char → Work PartSettings
  | [], settings, multiplier? => do
    let text := digits ++ (match multiplier? with
      | some c => String.singleton c
      | none => "")
    headCount settings settings.byLines text
  | c :: letters, settings, multiplier? =>
    match c with
    | 'c' => oldHeadLetters digits letters { settings with byLines := false } none
    | 'b' => oldHeadLetters digits letters { settings with byLines := false } (some c)
    | 'k' => oldHeadLetters digits letters { settings with byLines := false } (some c)
    | 'm' => oldHeadLetters digits letters { settings with byLines := false } (some c)
    | 'l' => oldHeadLetters digits letters { settings with byLines := true } multiplier?
    | 'q' => oldHeadLetters digits letters { settings with headlines? := some false } multiplier?
    | 'v' => oldHeadLetters digits letters { settings with headlines? := some true } multiplier?
    | 'z' => oldHeadLetters digits letters { settings with mark := '\x00' } multiplier?
    | c => Work.misuse ("invalid trailing option -- " ++ String.singleton c)

/-- `head`: the first part of files. -/
def head : Tool := do
  let arguments := (← read).arguments
  let stock : PartSettings := { portion := .first 10 }
  let (settings, arguments) ← match arguments with
    | first :: rest =>
      match first.toList with
      | '-' :: d :: more =>
        if d.isDigit then do
          let digits := (d :: more).takeWhile Char.isDigit
          pure (← oldHeadLetters (String.ofList digits) ((d :: more).drop digits.length) stock none,
            rest)
        else pure (stock, arguments)
      | _ => pure (stock, arguments)
    | [] => pure (stock, arguments)
  let (settings, operands) ← Work.optionsOf headOptions arguments settings headStep
  discard <| sayParts settings (if operands.isEmpty then ["-"] else operands)

/-! ## The last part -/

def tailOptions : OptionTable where
  letters := "c:n:fFqs:vz0123456789"
  words := [("bytes=", "c"), ("follow?", "follow"), ("lines=", "n"),
    ("max-unchanged-stats=", "stats"), ("pid=", "pid"), ("quiet", "q"), ("retry", "retry"),
    ("silent", "q"), ("sleep-interval=", "s"), ("verbose", "v"), ("zero-terminated", "z")]

/-- A number of lines or octets from the end, or after a plus sign the first one to show. -/
def tailCount (settings : PartSettings) (byLines : Bool) (text : String) : Work PartSettings := do
  let digits := match text.toList with
    | '-' :: rest => String.ofList rest
    | _ => text
  let n ← Work.quantity countSuffixes (countComplaint byLines) digits
  -- once it is counted from the start, it always is
  let isFromStart := text.startsWith "+" || (match settings.portion with
    | .allButFirst _ => true
    | _ => false)
  return { settings with byLines, portion := if isFromStart then .allButFirst (n - 1) else .last n }

def tailStep (settings : PartSettings) (option : GivenOption) : Work PartSettings :=
  match option.key with
  | "c" => tailCount settings false option.value
  | "n" => tailCount settings true option.value
  | "q" => return { settings with headlines? := some false }
  | "v" => return { settings with headlines? := some true }
  | "z" => return { settings with mark := '\x00' }
  | "f" => return { settings with follows := true }
  | "follow" => return { settings with follows := true }
  | "F" => return { settings with follows := true, retries := true }
  | "retry" => return { settings with retries := true }
  | "s" => return settings
  | "stats" => return settings
  | "pid" => return settings
  | key => Work.die ("option used in invalid context -- " ++ key)

/-- The first argument as a number after a plus sign or a hyphen, with letters for octets and for
following the file. -/
def oldTail? (arguments : List String) : Option (PartSettings × List String) :=
  let isFew := match arguments with
    | [_] => true
    | [_, file] => !(file.startsWith "-" && file != "-" && file != "--")
    | [_, "--", _] => true
    | _ => false
  match isFew, arguments with
  | true, first :: rest =>
    let sign := first.toList.headD ' '
    let cs := first.toList.tail
    let isUsual := sign == '-' && (cs.isEmpty || cs == ['c'])
    let digits := cs.takeWhile Char.isDigit
    let letters := cs.drop digits.length
    let (scale, byLines, letters) := match letters with
      | 'b' :: rest => (512, false, rest)
      | 'c' :: rest => (1, false, rest)
      | 'l' :: rest => (1, true, rest)
      | rest => (1, true, rest)
    let (follows, letters) := match letters with
      | 'f' :: rest => (true, rest)
      | rest => (false, rest)
    if (sign != '+' && sign != '-') || isUsual || !letters.isEmpty then none
    else
      let n := (if digits.isEmpty then 10 else decimal digits) * scale
      some ({ portion := if sign == '+' then .allButFirst (n - 1) else .last n, byLines, follows },
        rest)
  | _, _ => none

/-- `tail`: the last part of files. -/
def tail : Tool := do
  let call ← read
  let (settings, arguments) := (oldTail? call.arguments).getD
    ({ portion := .last 10 }, call.arguments)
  let (settings, operands) ← Work.optionsOf tailOptions arguments settings tailStep
  if settings.retries && !settings.follows then
    Work.murmur (call.name ++ ": warning: --retry ignored; --retry is useful only when following\n")
  if settings.portion == .last 0 && !settings.follows then return
  let operands := if operands.isEmpty then ["-"] else operands
  let shown ← sayParts settings operands
  if settings.follows then
    let isFollowed := settings.retries ||
      shown.any fun operand => operand != "-" || call.inputNode?.isSome
    if isFollowed then throw .endless
    else if !operands.contains "-" then Work.die "no files remaining"

end Polyglot.Tool
