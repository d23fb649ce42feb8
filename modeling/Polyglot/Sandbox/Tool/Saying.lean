import Polyglot.Number.Directive
import Polyglot.Sandbox.CharClass
import Polyglot.Sandbox.Escape
import Polyglot.Sandbox.Tool.Quantity

/-!
# Saying things

The tools that write what they are given: `echo`, `printf` and `yes`.
-/

namespace Polyglot.Tool

/-! ## Words -/

/-- The value of up to so many hexadecimal digits, and what follows them. -/
def hexDigits? (most : Nat) (cs : List Char) : Option (Nat × List Char) :=
  let digits := (cs.take most).takeWhile fun c => Floating.digitValue c < 16
  if digits.isEmpty then none
  else some (Floating.ofDigits 16 digits, cs.drop digits.length)

def octalHere (most : Nat) (cs : List Char) : List Char :=
  (cs.take most).takeWhile Escape.isOctal

/-- A word with its escapes resolved, and whether it asks for an end of all output. -/
def echoed : (fuel : Nat) → List Char → List Char × Bool
  | 0, _ => ([], false)
  | _, [] => ([], false)
  | fuel + 1, '\\' :: c :: rest =>
    let go (d : Char) (rest : List Char) : List Char × Bool :=
      let (cs, stop) := echoed fuel rest
      (d :: cs, stop)
    if c == 'c' then ([], true)
    else if c == 'x' then
      match hexDigits? 2 rest with
      | some (n, rest) => go (Char.ofNat n) rest
      | none => go '\\' (c :: rest)
    else if Escape.isOctal c then
      let digits := if c == '0' then octalHere 3 rest else c :: octalHere 2 rest
      let following := if c == '0' then digits.length else digits.length - 1
      go (Escape.octalValue digits) (rest.drop following)
    else match Escape.letter? c with
      | some d => go d rest
      | none => go '\\' (c :: rest)
  | fuel + 1, c :: rest =>
    let (cs, stop) := echoed fuel rest
    (c :: cs, stop)

/-- The options at the start: whether a line feed ends the output and escapes are resolved, and the
words after them. -/
def echoOptions : (ends escapes : Bool) → List String → Bool × Bool × List String
  | ends, escapes, [] => (ends, escapes, [])
  | ends, escapes, word :: words =>
    match word.toList with
    | '-' :: c :: letters =>
      if (c :: letters).all fun d => d == 'n' || d == 'e' || d == 'E' then
        let ends := ends && !(c :: letters).contains 'n'
        let escapes := (c :: letters).foldl
          (fun escapes d => if d == 'e' then true else if d == 'E' then false else escapes) escapes
        echoOptions ends escapes words
      else (ends, escapes, word :: words)
    | _ => (ends, escapes, word :: words)

/-- Words that may hold escapes, with blanks between them. -/
def echoedWords (final : List Char) : List String → List Char
  | [] => final
  | word :: words =>
    let (cs, stop) := echoed (word.length + 1) word.toList
    if stop then cs
    else if words.isEmpty then cs ++ final
    else cs ++ ' ' :: echoedWords final words

/-- `echo`: words with blanks between them. -/
def echoWords : Tool := do
  let (ends, escapes, words) := echoOptions true false (← read).arguments
  let final := if ends then "\n" else ""
  if escapes then Work.say (String.ofList (echoedWords final.toList words))
  else Work.say (" ".intercalate words ++ final)

/-- `yes`: the same line again and again. -/
def repeatForever : Tool := do
  let (_, words) ← Work.optionList { letters := "" , stopsEarly := true }
  let line := (if words.isEmpty then "y" else " ".intercalate words) ++ "\n"
  Work.say (String.join (List.replicate (Supply.window / line.length + 1) line))
  throw .endless

/-! ## Formats -/

/-- A format under way: the arguments that are left, and how many were asked for. -/
structure PrintState where
  arguments : List String
  taken : Nat := 0
  /-- A conversion was too long to be written. -/
  isBroken : Bool := false

abbrev Printing := StateT PrintState Work

namespace Printing

/-- The next argument if there is one. -/
def next? : Printing (Option String) := do
  let s ← get
  match s.arguments with
  | [] => return none
  | argument :: arguments => do
    set { s with arguments, taken := s.taken + 1 }
    return some argument

def write (cs : List Char) : Printing Unit :=
  StateT.lift (Work.say (String.ofList cs))

def warn (text : String) : Printing Unit :=
  StateT.lift (Work.fault text)

def stop {α : Type} (text : String) : Printing α :=
  StateT.lift (Work.die text)

/-- Complain if a text is no number, or not only one. -/
def check (text : String) (rest : List Char) (outOfRange : Bool) : Printing Unit := do
  if outOfRange then warn (quoted text ++ ": " ++ (SystemError.errno 34).reason)
  else if !rest.isEmpty then
    warn (quoted text ++ (if rest.length == text.length then ": expected a numeric value"
      else ": value not completely converted"))

/-- The character behind a quote, whose number is meant. -/
def quotedCharacter? (text : String) : Printing (Option Nat) := do
  match text.toList with
  | q :: c :: rest =>
    if q == '"' || q == '\'' then do
      if !rest.isEmpty then
        StateT.lift (Work.complain ("warning: " ++ String.ofList rest ++
          ": character(s) following character constant have been ignored"))
      return some c.toNat
    else return none
  | _ => return none

/-- The whole number at the start of a text with its base, and what follows it. -/
def numeral (cs : List Char) : Option (Nat × List Char) :=
  let take (base : Nat) (cs : List Char) : Option (Nat × List Char) :=
    let digits := cs.takeWhile fun c => Floating.digitValue c < base
    if digits.isEmpty then none else some (Floating.ofDigits base digits, cs.drop digits.length)
  match cs with
  | '0' :: x :: rest =>
    if x == 'x' || x == 'X' then
      match take 16 rest with
      | some found => some found
      | none => some (0, x :: rest)
    else take 8 cs
  | _ => take 10 cs

/-- A whole number with its sign; without `signed` it wraps and is never negative. -/
def integer (signed : Bool) (text : String) : Printing Int := do
  match ← quotedCharacter? text with
  | some n => return n
  | none =>
    let cs := text.toList.dropWhile CharClass.isSpace
    let (negative, digits) := match cs with
      | '-' :: rest => (true, rest)
      | '+' :: rest => (false, rest)
      | rest => (false, rest)
    match numeral digits with
    | none => do
      check text text.toList false
      return 0
    | some (n, rest) =>
      let value : Int := if negative then -(n : Int) else n
      let most : Int := if signed then 0x7fffffffffffffff else 0xffffffffffffffff
      let least : Int := if signed then -most - 1 else -most
      check text rest (value < least || most < value)
      if value < least then return if signed then least else most
      else if most < value then return most
      else return if signed then value else value % 0x10000000000000000

def floating (text : String) : Printing Floating := do
  match ← quotedCharacter? text with
  | some n => return .finite false n
  | none =>
    match Floating.read? .extended text.toList with
    | none => do
      check text text.toList false
      return .finite false 0
    | some (x, rest) => do
      check text rest false
      return x

/-- A width or precision: digits, or a star for an argument. -/
def measure (complaint : String) (cs : List Char) : Printing (Option Int × List Char) := do
  match cs with
  | '*' :: rest =>
    match ← next? with
    | none => return (some 0, rest)
    | some text => do
      let n ← integer true text
      if 0x7fffffff < n || n < -0x80000000 then stop (complaint ++ ": " ++ quoted text)
      return (some n, rest)
  | cs =>
    let digits := cs.takeWhile Char.isDigit
    return (if digits.isEmpty then none else some (decimal digits : Nat), cs.drop digits.length)

/-- What stands between the percent sign and the conversion, and the conversions that it rules
out. -/
def directive (cs : List Char) : Printing (Directive × List Char × List Char) := do
  let flags := cs.takeWhile ['\'', 'I', '-', '+', ' ', '#', '0'].contains
  let barredBy (flag : Char) : String := match flag with
    | '\'' => "aAceEosxX"
    | 'I' => "aAceEosxX"
    | '#' => "cdisu"
    | '0' => "cs"
    | _ => ""
  let barred := flags.flatMap fun flag => (barredBy flag).toList
  let d := flags.foldl Directive.withFlag { conversion := 'd' }
  let (width?, rest) ← measure "invalid field width" (cs.drop flags.length)
  let d := match width? with
    | some n => d.withWidth n
    | none => d
  let (d, rest, barred) ← match rest with
    | '.' :: rest => do
      let (precision?, rest) ← measure "invalid precision" rest
      pure (d.withPrecision (precision?.getD 0), rest, 'c' :: barred)
    | rest => pure (d, rest, barred)
  return (d, rest.dropWhile ['l', 'L', 'h', 'j', 't', 'z'].contains, barred)

/-- Write what a conversion makes of an argument. -/
def convert (d : Directive) : Printing Unit := do
  let text := (← next?).getD ""
  let isTooLong := d.isTooLong
  if d.isVast && !isTooLong then StateT.lift (throw .endless)
  let d := if isTooLong then { d with width := 0, precision? := none } else d
  let write (cs : List Char) : Printing Unit := do
    if isTooLong then modify fun s => { s with isBroken := true }
    else Printing.write cs
  match d.conversion with
  | 's' => write (d.text text.toList)
  | 'c' => write ({ d with precision? := none }.text [text.toList.headD '\x00'])
  | c =>
    if c == 'd' || c == 'i' then do write (d.signed (← integer true text))
    else if ['o', 'u', 'x', 'X'].contains c then do write (d.unsigned (← integer false text).toNat)
    else do write (d.floating .extended (← floating text))

/-- A character by its number, in the form that shows it where only plain text can be written. -/
def characterText (isLong : Bool) (n : Nat) : Printing (List Char) := do
  let digits (count : Nat) : List Char :=
    let shown := Nat.toDigits 16 n
    List.replicate (count - shown.length) '0' ++ shown
  if 0xd800 ≤ n && n ≤ 0xdfff then
    stop ("invalid universal character name \\" ++ (if isLong then "U" else "u") ++
      String.ofList (digits (if isLong then 8 else 4)))
  else if n < 0x80 then return [Char.ofNat n]
  else
    let upper := (digits (if n < 0x10000 then 4 else 8)).map Char.toUpper
    return '\\' :: (if n < 0x10000 then 'u' else 'U') :: upper

/-- An escape from after its backslash: what it writes, what follows it, and whether it asks for an
end of all output. Octal numbers may begin with a further zero if `zero` says so. -/
def escaped (zero : Bool) (cs : List Char) : Printing (List Char × List Char × Bool) := do
  let lacking : String := "missing hexadecimal number in escape"
  match cs with
  | [] => return (['\\'], [], false)
  | 'x' :: rest =>
    match hexDigits? 2 rest with
    | some (n, rest) => return ([Char.ofNat n], rest, false)
    | none => stop lacking
  | 'c' :: rest => return ([], rest, true)
  | '"' :: rest => return (['"'], rest, false)
  | 'u' :: rest =>
    let digits := (rest.take 4).takeWhile fun c => Floating.digitValue c < 16
    if digits.length < 4 then stop lacking
    return (← characterText false (Floating.ofDigits 16 digits), rest.drop 4, false)
  | 'U' :: rest =>
    let digits := (rest.take 8).takeWhile fun c => Floating.digitValue c < 16
    if digits.length < 8 then stop lacking
    return (← characterText true (Floating.ofDigits 16 digits), rest.drop 8, false)
  | c :: rest =>
    if Escape.isOctal c then
      let more := if zero && c == '0' then 1 else 0
      let digits := octalHere 3 (cs.drop more)
      return ([Escape.octalValue digits], cs.drop (more + digits.length), false)
    else match Escape.letter? c with
      | some d => return ([d], rest, false)
      | none => return (['\\', c], rest, false)

/-- Write a text with escapes; tell whether it asked for an end. -/
def writeEscaped : (fuel : Nat) → List Char → Printing Bool
  | 0, _ => return false
  | _, [] => return false
  | fuel + 1, '\\' :: rest => do
    let (shown, rest, stops) ← escaped true rest
    write shown
    if stops then return true else writeEscaped fuel rest
  | fuel + 1, c :: rest => do
    write [c]
    writeEscaped fuel rest

/-- Write a format once; tell whether something asked for an end. -/
def once : (fuel : Nat) → List Char → Printing Bool
  | 0, _ => return false
  | _, [] => return false
  | fuel + 1, '\\' :: rest => do
    let (shown, rest, stops) ← escaped false rest
    write shown
    if stops then return true else once fuel rest
  | fuel + 1, '%' :: '%' :: rest => do
    write ['%']
    once fuel rest
  | fuel + 1, '%' :: 'b' :: rest => do
    let text := (← next?).getD ""
    if ← writeEscaped (text.length + 1) text.toList then return true else once fuel rest
  | fuel + 1, '%' :: 'q' :: rest => do
    match ← next? with
    | some text => write (shellWord text).toList
    | none => pure ()
    once fuel rest
  | fuel + 1, '%' :: cs => do
    let (d, rest, barred) ← directive cs
    match rest with
    | [] => stop ("%" ++ String.ofList cs ++ ": invalid conversion specification")
    | c :: rest =>
      if !"diouxXfFeEgGaAcs".toList.contains c || barred.contains c then
        stop ("%" ++ String.ofList (cs.take (cs.length - rest.length)) ++
          ": invalid conversion specification")
      else do
        convert { d with conversion := c }
        once fuel rest
  | fuel + 1, cs => do
    let plain := cs.takeWhile fun c => c != '\\' && c != '%'
    write plain
    once fuel (cs.drop plain.length)

/-- Write a format as often as there are arguments for it, and at least once. -/
def often (format : List Char) : (fuel : Nat) → Printing Unit
  | 0 => pure ()
  | fuel + 1 => do
    modify fun s => { s with taken := 0 }
    if ← once (format.length + 1) format then
      -- whatever was wrong before
      return ← StateT.lift (Work.setCode 0)
    let s ← get
    match s.arguments with
    | [] => pure ()
    | extra :: _ =>
      if s.taken != 0 then often format fuel
      else
        StateT.lift (Work.complain
          ("warning: ignoring excess arguments, starting with " ++ quoted extra))

end Printing

/-- `printf`: arguments as a format lays them out. -/
def printFormatted : Tool := do
  let arguments := match (← read).arguments with
    | "--" :: rest => rest
    | rest => rest
  match arguments with
  | [] => Work.misuse "missing operand"
  | format :: arguments =>
    let (_, s) ← (Printing.often format.toList (arguments.length + 1)).run { arguments }
    if s.isBroken then Work.fault "write error"

end Polyglot.Tool
