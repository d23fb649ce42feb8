import Polyglot.Number.Directive
import Polyglot.Sandbox.Escape
import Polyglot.Sandbox.Shell.Variables

/-!
# Printing inside the shell

`echo` and `printf` as the shell has them: they resolve escapes, and `printf` lays out numbers.
-/

namespace Polyglot.Shell

/-- Write words with blanks between them; an escape may end the output. -/
def echoWords (final : String) : List String → Act Unit
  | [] => say final
  | [word] => do
    let (cs, stop) := Escape.resolveAll word
    say (String.ofList cs ++ if stop then "" else final)
  | word :: words => do
    let (cs, stop) := Escape.resolveAll word
    say (String.ofList cs)
    if !stop then do
      say " "
      echoWords final words

def echo : List String → Act Unit
  | "-n" :: words => echoWords "" words
  | words => echoWords "\n" words

/-! ## Formats -/

/-- A format under way: the arguments that are left, how many were asked for, and the code. -/
structure FormatState where
  arguments : List String
  taken : Nat := 0
  code : Nat := 0

/-- The writing of a format; it may stop. -/
abbrev Formatting := ExceptT Unit (StateT FormatState Act)

namespace Formatting

def act {α : Type} (a : Act α) : Formatting α :=
  ExceptT.lift (StateT.lift a)

def next? : Formatting (Option String) := do
  let s ← get
  set { s with arguments := s.arguments.tail, taken := s.taken + 1 }
  return s.arguments.head?

def warn (message : String) : Formatting Unit := do
  act (complain message)
  modify fun s => { s with code := 1 }

/-- Complain if a text is no number, or not only one. -/
def check (text : String) (rest : List Char) (isRead : Bool) : Formatting Unit := do
  if !rest.isEmpty then
    warn (text ++ (if isRead then ": not completely converted" else ": expected numeric value"))

/-- The character behind a quote, whose number is meant. -/
def quotedCharacter? (text : String) : Option Nat :=
  match text.toList with
  | q :: rest => if q == '"' || q == '\'' then some ((rest.headD '\x00').toNat) else none
  | [] => none

/-- A whole number with its sign; without `signed` it wraps and is never negative. -/
def integer (signed : Bool) : Formatting Int := do
  match ← next? with
  | none => return 0
  | some text =>
    match quotedCharacter? text with
    | some n => return n
    | none => do
      let cs := text.toList.dropWhile Floating.isSpace
      let (negative, digits) := match cs with
        | '-' :: rest => (true, rest)
        | '+' :: rest => (false, rest)
        | rest => (false, rest)
      if !(digits.head?.any Char.isDigit) then do
        check text text.toList false
        return 0
      let (n, rest) := Arithmetic.numeral digits
      check text rest true
      let value : Int := if negative then -(n : Int) else n
      let (low, high) := if signed then (-Arithmetic.largest - 1, Arithmetic.largest)
        else (-0xffffffffffffffff, 0xffffffffffffffff)
      if value < low || high < value then do
        if rest.isEmpty then warn (text ++ ": " ++ (SystemError.errno 34).reason)
        return if !signed then high else if value < low then low else high
      return if signed then value else value % 0x10000000000000000

def floating : Formatting Floating := do
  match ← next? with
  | none => return .finite false 0
  | some text =>
    match quotedCharacter? text with
    | some n => return .finite false n
    | none =>
      if text.isEmpty then return .finite false 0
      match Floating.read? .double text.toList with
      | none => do
        check text text.toList false
        return .finite false 0
      | some (x, rest) => do
        check text rest true
        return x

/-- A width or precision: digits, or a star for an argument, which wraps at 32 bits. -/
def measure (cs : List Char) : Formatting (Option Int × List Char) := do
  match cs with
  | '*' :: rest => return (some ((← integer true).bmod 0x100000000), rest)
  | cs =>
    let digits := cs.takeWhile fun c => c.isDigit || c == '*'
    let value := (String.ofList (digits.takeWhile Char.isDigit)).toNat?
    return (value.map Int.ofNat, cs.drop digits.length)

/-- What stands between the percent sign and the conversion. -/
def directive (cs : List Char) : Formatting (Directive × List Char) := do
  let flags := cs.takeWhile ['#', '-', '+', ' ', '0'].contains
  let d := flags.foldl Directive.withFlag { conversion := 'd' }
  let (width?, rest) ← measure (cs.drop flags.length)
  let d := match width? with
    | some n => d.withWidth n
    | none => d
  match rest with
  | '.' :: rest => do
    let (precision?, rest) ← measure rest
    return (d.withPrecision (precision?.getD 0), rest)
  | rest => return (d, rest)

/-- Write what a conversion makes of an argument. -/
def convert (d : Directive) : Formatting Unit := do
  let put (cs : List Char) : Formatting Unit := act (say (String.ofList cs))
  match d.conversion with
  | 's' => do put (d.text ((← next?).getD "").toList)
  | 'b' => do
    let (cs, stop) := Escape.resolveAll ((← next?).getD "")
    put (d.text cs)
    if stop then throw ()
  | 'c' => do
    let c := ((← next?).getD "").toList.headD '\x00'
    put ({ d with precision? := none }.text [c])
  | c =>
    if c == 'd' || c == 'i' then do put (d.signed (← integer true))
    else if ['o', 'u', 'x', 'X'].contains c then do put (d.unsigned (← integer false).toNat)
    else do put (d.floating .double (← floating))

/-- Write a format once. -/
def once : (fuel : Nat) → List Char → Formatting Unit
  | 0, _ => pure ()
  | _, [] => pure ()
  | fuel + 1, '\\' :: rest => do
    let (c, rest) := Escape.read rest
    act (say (String.singleton c))
    once fuel rest
  | fuel + 1, '%' :: '%' :: rest => do
    act (say "%")
    once fuel rest
  | fuel + 1, '%' :: cs => do
    let (d, rest) ← directive cs
    match rest with
    | [] => act (giveUp "missing format character")
    | c :: rest =>
      if !("bcsdiouxXaAeEfFgG".toList.contains c) then
        let given := '%' :: cs.take (cs.length - rest.length)
        act (giveUp (String.ofList given ++ ": invalid directive"))
      if d.isTooLong then act (giveUp "xvsnprintf failed")
      if d.isVast then act (throw .endless)
      convert { d with conversion := c }
      once fuel rest
  | fuel + 1, c :: rest => do
    act (say (String.singleton c))
    once fuel rest

/-- Write a format as often as there are arguments for it, and at least once. -/
def often (format : List Char) : (fuel : Nat) → Formatting Unit
  | 0 => pure ()
  | fuel + 1 => do
    modify fun s => { s with taken := 0 }
    once (format.length + 1) format
    let s ← get
    if s.taken != 0 && !s.arguments.isEmpty then often format fuel

end Formatting

/-- Write a whole format; the code is given. -/
def printFormat (format : String) (arguments : List String) : Act Nat := do
  let written := Formatting.often format.toList (arguments.length + 1)
  let (_, s) ← written.run.run { arguments }
  return s.code

end Polyglot.Shell
