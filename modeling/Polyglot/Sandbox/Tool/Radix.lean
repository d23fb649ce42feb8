import Polyglot.Sandbox.Tool.Quantity

/-!
# Octets in digits

Texts that carry arbitrary octets. The octets are one row of bits, which is cut into digits of a
few bits each; digits come in groups that end where octets end, and the last group is filled with
equals signs. Reading back gives the octets before the first fault.
-/

namespace Polyglot.Tool

/-- A way of writing octets in digits of some bits each. -/
structure Radix where
  /-- How many bits a digit has. -/
  width : Nat
  /-- How many digits end together with an octet. -/
  group : Nat
  alphabet : String
  /-- The bits of an octet come least first. -/
  reversed : Bool := false
  /-- A group with a fault in it still gives the octets before the fault. -/
  salvages : Bool := true

namespace Radix

def letters : String := "ABCDEFGHIJKLMNOPQRSTUVWXYZ"

def base64 : Radix where
  width := 6
  group := 4
  alphabet := letters ++ letters.toLower ++ "0123456789+/"

def base64url : Radix :=
  { base64 with alphabet := letters ++ letters.toLower ++ "0123456789-_" }

def base32 : Radix where
  width := 5
  group := 8
  alphabet := letters ++ "234567"
  salvages := false

def base32hex : Radix :=
  { base32 with alphabet := "0123456789ABCDEFGHIJKLMNOPQRSTUV" }

def base16 : Radix where
  width := 4
  group := 2
  alphabet := "0123456789ABCDEF"

def base2 (reversed : Bool) : Radix where
  width := 1
  group := 8
  alphabet := "01"
  reversed := reversed

/-- The bits of a number, greatest first. -/
def bits (count n : Nat) : List Bool :=
  (List.range count).reverse.map n.testBit

/-- The number that some bits stand for, greatest first. -/
def number (bits : List Bool) : Nat :=
  bits.foldl (fun n bit => 2 * n + bit.toNat) 0

/-- Pieces of one length, the last of which may be shorter. -/
def pieces {α : Type} (size : Nat) : (fuel : Nat) → List α → List (List α)
  | 0, _ => []
  | _, [] => []
  | fuel + 1, xs => xs.take size :: pieces size fuel (xs.drop size)

def chunks {α : Type} (size : Nat) (xs : List α) : List (List α) :=
  pieces size xs.length xs

/-- The bits of octets in the order of the digits. -/
def octetBits (radix : Radix) (octets : List Char) : List Bool :=
  octets.flatMap fun c =>
    let bits := bits 8 c.toNat
    if radix.reversed then bits.reverse else bits

def ofBits (radix : Radix) (bits : List Bool) : List Char :=
  ((chunks 8 bits).filter (·.length = 8)).map fun bits =>
    Char.ofNat (number (if radix.reversed then bits.reverse else bits))

def encode (radix : Radix) (octets : List Char) : List Char :=
  let alphabet := radix.alphabet.toList
  let digits := (chunks radix.width (radix.octetBits octets)).map fun bits =>
    alphabet.getD (number (bits ++ List.replicate (radix.width - bits.length) false)) '='
  let rest := digits.length % radix.group
  digits ++ List.replicate (if rest = 0 then 0 else radix.group - rest) '='

/-- The bits of some digits. -/
def digitBits (radix : Radix) (digits : List Char) : List Bool :=
  digits.flatMap fun c => bits radix.width (radix.alphabet.toList.idxOf c)

/-- The octets in one group, and whether it is faultless: full, with no more filling than is
needed, and with nothing in the bits that no octet needs. -/
def decodeGroup (radix : Radix) (group : List Char) : List Char × Bool :=
  let digits := group.takeWhile radix.alphabet.toList.contains
  let filling := group.drop digits.length
  let bits := radix.digitBits digits
  let spare := bits.length % 8
  let isWhole := group.length = radix.group && filling.all (· == '=') &&
    0 < digits.length && spare < radix.width && !(bits.drop (bits.length - spare)).contains true
  (if isWhole || radix.salvages then radix.ofBits bits else [], isWhole)

/-- The octets in groups up to the first fault. -/
def decodeGroups (radix : Radix) : List (List Char) → List Char × Bool
  | [] => ([], true)
  | group :: groups =>
    match radix.decodeGroup group with
    | (octets, false) => (octets, false)
    | (octets, true) =>
      let (others, isWhole) := radix.decodeGroups groups
      (octets ++ others, isWhole)

/-- Read digits back; line feeds do not count. Filling that is missing at the end of a text whose
groups are filled up is added. -/
def decode (radix : Radix) (cs : List Char) : List Char × Bool :=
  let digits := cs.filter (· != '\n')
  let rest := digits.length % radix.group
  let filling := if rest ≠ 0 && 8 < radix.width * radix.group && digits.getLast? != some '='
    then List.replicate (radix.group - rest) '=' else []
  radix.decodeGroups (chunks radix.group (digits ++ filling))

end Radix

/-! ## Groups of five digits -/

namespace Quintuple

/-- Digits for four octets taken as one number. -/
def alphabet : String :=
  "0123456789abcdefghijklmnopqrstuvwxyzABCDEFGHIJKLMNOPQRSTUVWXYZ.-:+=^!/*?&<>()[]\x7b\x7d@%$#"

def encodeGroup (octets : List Char) : List Char :=
  let n := octets.foldl (fun n c => 256 * n + c.toNat) 0
  [4, 3, 2, 1, 0].map fun place => alphabet.toList.getD (n / Nat.pow 85 place % 85) '0'

def encode (octets : List Char) : List Char :=
  ((Radix.chunks 4 octets).filter (·.length = 4)).flatMap encodeGroup

def decodeGroup? (digits : List Char) : Option (List Char) :=
  let n := digits.foldl (fun n c => 85 * n + alphabet.toList.idxOf c) 0
  if digits.length = 5 && digits.all alphabet.toList.contains && n < 0x100000000 then
    some ([3, 2, 1, 0].map fun place => Char.ofNat (n / Nat.pow 256 place % 256))
  else none

def decodeGroups : List (List Char) → List Char × Bool
  | [] => ([], true)
  | group :: groups =>
    match decodeGroup? group with
    | none => ([], false)
    | some octets =>
      let (others, isWhole) := decodeGroups groups
      (octets ++ others, isWhole)

def decode (cs : List Char) : List Char × Bool :=
  decodeGroups (Radix.chunks 5 (cs.filter (· != '\n')))

end Quintuple

/-- A text that carries octets. -/
inductive Wrapper where
  | radix (radix : Radix)
  | quintuple

namespace Wrapper

def alphabet : Wrapper → String
  | radix r => r.alphabet ++ (if 8 < r.width * r.group then "=" else "")
  | quintuple => Quintuple.alphabet

def encode : Wrapper → List Char → List Char
  | radix r, cs => r.encode cs
  | quintuple, cs => Quintuple.encode cs

def decode : Wrapper → List Char → List Char × Bool
  | radix r, cs => r.decode cs
  | quintuple, cs => Quintuple.decode cs

/-- The ways of writing by name. -/
def named : List (String × Wrapper) := [
  ("base64", radix Radix.base64), ("base64url", radix Radix.base64url),
  ("base32", radix Radix.base32), ("base32hex", radix Radix.base32hex),
  ("base16", radix Radix.base16), ("base2msbf", radix (Radix.base2 false)),
  ("base2lsbf", radix (Radix.base2 true)), ("z85", quintuple)]

end Wrapper

structure WrapperSettings where
  wrapper? : Option Wrapper
  decodes : Bool := false
  ignoresGarbage : Bool := false
  /-- The length of lines; zero is no end of them. -/
  columns : Nat := 76

namespace WrapperSettings

def options (choosing : Bool) : OptionTable where
  letters := "diw:"
  words := [("decode", "d"), ("wrap=", "w"), ("ignore-garbage", "i")] ++
    (if choosing then Wrapper.named.map fun (name, _) => (name, name) else [])

def step (settings : WrapperSettings) (option : GivenOption) : Work WrapperSettings := do
  match option.key with
  | "d" => return { settings with decodes := true }
  | "i" => return { settings with ignoresGarbage := true }
  | "w" =>
    match Quantity.signed "" option.value with
    | .error .overflow => return { settings with columns := 0 }
    | .ok (.ofNat n) => return { settings with columns := n }
    | _ => Work.die ("invalid wrap size: " ++ quoted option.value)
  | name => return { settings with wrapper? := Wrapper.named.lookup name }

/-- A text in lines; without a length it has no line feed at all. -/
def inLines (columns : Nat) (cs : List Char) : List Char :=
  if columns = 0 then cs else (Radix.chunks columns cs).flatMap (· ++ ['\n'])

end WrapperSettings

/-- `base32`, `base64`, `basenc`: octets written in digits, or read back from them. -/
def wrapOctets (wrapper? : Option Wrapper) : Tool := do
  let (settings, operands) ← Work.options (WrapperSettings.options wrapper?.isNone)
    ({ wrapper? } : WrapperSettings) WrapperSettings.step
  let wrapper ← match settings.wrapper? with
    | some wrapper => pure wrapper
    | none => Work.misuse "missing encoding type"
  match operands with
  | _ :: extra :: _ => Work.misuse ("extra operand " ++ quoted extra)
  | _ => pure ()
  match ← Work.readFile (operands.headD "-") with
  | .error .isADirectory => Work.die "read error: Is a directory"
  | .error e => Work.die (shellName (operands.headD "-") ++ ": " ++ e.reason)
  | .ok cs =>
    if settings.decodes then
      let cs := if settings.ignoresGarbage then cs.filter wrapper.alphabet.toList.contains else cs
      let (octets, isWhole) := wrapper.decode cs
      Work.say (String.ofList octets)
      if !isWhole then Work.die "invalid input"
    else
      match wrapper with
      | .quintuple =>
        if cs.length % 4 != 0 then
          Work.die "invalid input (length must be multiple of 4 characters)"
      | .radix _ => pure ()
      Work.say (String.ofList (WrapperSettings.inLines settings.columns (wrapper.encode cs)))

/-- Tools that write octets in digits. -/
def wrapperTools : List (String × Tool) := [
  ("base32", wrapOctets (some (.radix Radix.base32))),
  ("base64", wrapOctets (some (.radix Radix.base64))), ("basenc", wrapOctets none)]

end Polyglot.Tool
