import Polyglot.Number.Directive
import Polyglot.Sandbox.Tool.Checksum

/-!
# Octets shown as numbers and characters

Octets in lines of sixteen, each line with its place in front of it. What a few octets make up is
shown as a number, as a character or by a name; a line may be shown in several ways, one below the
other in columns that end together.
-/

namespace Polyglot.Tool

/-- What octets that stand together are shown as. -/
inductive CellKind where
  /-- Characters by their names, of seven bits. -/
  | named
  /-- Characters themselves. -/
  | character
  | signed
  | unsigned
  | octal
  | hexadecimal
  | floating
deriving DecidableEq

/-- One way of showing a line. -/
structure CellFormat where
  kind : CellKind
  /-- How many octets stand together. -/
  size : Nat
  /-- The octets are shown once more as characters after the line. -/
  hasTrailer : Bool := false

namespace CellFormat

/-- How many decimal digits a number below some power of two may have. -/
def decimalWidth (bits : Nat) : Nat :=
  (Nat.toDigits 10 (Nat.pow 2 bits - 1)).length

/-- The width of what is shown. -/
def width (format : CellFormat) : Nat :=
  match format.kind with
  | .named => 3
  | .character => 3
  | .signed => decimalWidth (8 * format.size - 1) + 1
  | .unsigned => decimalWidth (8 * format.size)
  | .octal => (8 * format.size + 2) / 3
  | .hexadecimal => 2 * format.size
  | .floating => if format.size = 4 then 15 else if format.size = 8 then 24 else 39

def controlNames : List String := [
  "nul", "soh", "stx", "etx", "eot", "enq", "ack", "bel", "bs", "ht", "nl", "vt", "ff", "cr",
  "so", "si", "dle", "dc1", "dc2", "dc3", "dc4", "nak", "syn", "etb", "can", "em", "sub", "esc",
  "fs", "gs", "rs", "us", "sp"]

def nameOf (c : Char) : String :=
  let n := c.toNat % 128
  if n = 127 then "del" else controlNames.getD n (String.singleton (Char.ofNat n))

def characterText (c : Char) : String :=
  if isPrintable c then String.singleton c
  else if c == '\x00' then "\\0"
  else match controlLetter? c with
    | some letter => String.ofList ['\\', letter]
    | none => String.ofList (octalDigits c.toNat)

/-- The number that is made up of a sign, an exponent and a fraction. -/
def floatingOf (format : FloatFormat) (bits exponentBits : Nat) : Floating :=
  let fractionBits := format.precision - 1
  let fraction := bits % Nat.pow 2 fractionBits
  let exponent := bits / Nat.pow 2 fractionBits % Nat.pow 2 exponentBits
  let negative := bits / Nat.pow 2 (fractionBits + exponentBits) % 2 = 1
  if exponent = Nat.pow 2 exponentBits - 1 then
    if fraction = 0 then .infinite negative else .nan negative
  else
    let whole := if exponent = 0 then fraction else fraction + Nat.pow 2 fractionBits
    .finite negative ((whole : Rat) * FloatFormat.power (format.least + (max 1 exponent - 1 : Nat)))

/-- The same for a number whose first bit before the point is written out. -/
def extendedOf (bits : Nat) : Floating :=
  let mantissa := bits % Nat.pow 2 64
  let exponent := bits / Nat.pow 2 64 % Nat.pow 2 15
  let negative := bits / Nat.pow 2 79 % 2 = 1
  let isNormal := Nat.pow 2 63 ≤ mantissa
  if exponent = 0x7fff then
    if mantissa = Nat.pow 2 63 then .infinite negative else .nan negative
  else if 0 < exponent && !isNormal then .nan negative
  else .finite negative
    ((mantissa : Rat) * FloatFormat.power (FloatFormat.extended.least + (max 1 exponent - 1 : Nat)))

/-- A number with the fewest digits, from `digits` on, that read back as itself. -/
def shortestText (format : FloatFormat) (x : Floating) : (fuel digits : Nat) → String
  | 0, digits =>
    String.ofList (({ conversion := 'g', precision? := some digits } : Directive).floating format x)
  | fuel + 1, digits =>
    let text :=
      ({ conversion := 'g', precision? := some digits } : Directive).floating format x
    match (Floating.read? format text).map (·.1) with
    | some y => if y.value? == x.value? then String.ofList text
      else shortestText format x fuel (digits + 1)
    | none => String.ofList text

def floatingText (size bits : Nat) : String :=
  let (format, x, digits) :=
    if size = 4 then (FloatFormat.single, floatingOf .single bits 8, 6)
    else if size = 8 then (FloatFormat.double, floatingOf .double bits 11, 15)
    else (FloatFormat.extended, extendedOf bits, 18)
  let least := FloatFormat.power (format.least + (format.precision - 1))
  let isSmall : Bool := match x with
    | .finite _ q => q < least
    | _ => false
  shortestText format x 20 (if isSmall then 1 else digits)

/-- What octets that stand together are shown as. -/
def cellText (format : CellFormat) (bigEndian : Bool) (octets : List Char) : String :=
  let digits := if bigEndian then octets else octets.reverse
  let n := digits.foldl (fun n c => 256 * n + c.toNat) 0
  let wholeWidth := format.width
  let based (base : Nat) : String :=
    let text := Nat.toDigits base n
    String.ofList (List.replicate (wholeWidth - text.length) '0' ++ text)
  match format.kind with
  | .named => nameOf (octets.headD '\x00')
  | .character => characterText (octets.headD '\x00')
  | .signed =>
    let top := Nat.pow 2 (8 * format.size)
    toString (if 2 * n < top then (n : Int) else (n : Int) - top)
  | .unsigned => toString n
  | .octal => based 8
  | .hexadecimal => based 16
  | .floating => floatingText format.size n

/-! ## Reading formats -/

/-- What is wrong with a format. -/
inductive Fault where
  | malformed
  | size (n : Nat) (isFloating : Bool)
  | letter (c : Char)

def Fault.message (text : String) : Fault → String
  | malformed => "invalid type string " ++ quoted text
  | size n isFloating =>
    "invalid type string " ++ quoted text ++ ";\nthis system doesn't provide a " ++ toString n ++
      "-byte " ++ (if isFloating then "floating point" else "integral") ++ " type"
  | letter c =>
    "invalid character '" ++ String.singleton c ++ "' in type string " ++ quoted text

/-- The size after a kind, as a letter or in digits. -/
def readSize (letters : List (Char × Nat)) (usual : Nat) (cs : List Char) : Nat × List Char :=
  match cs with
  | c :: rest =>
    match letters.lookup c with
    | some n => (n, rest)
    | none =>
      let digits := cs.takeWhile Char.isDigit
      if digits.isEmpty then (usual, cs) else (decimal digits, cs.drop digits.length)
  | [] => (usual, [])

def readOne (cs : List Char) : Except Fault (CellFormat × List Char) :=
  let whole (kind : CellKind) (rest : List Char) : Except Fault (CellFormat × List Char) :=
    let (n, rest) := readSize [('C', 1), ('S', 2), ('I', 4), ('L', 8)] 4 rest
    if n = 1 || n = 2 || n = 4 || n = 8 then .ok ({ kind, size := n }, rest)
    else .error (.size n false)
  match cs with
  | [] => .error .malformed
  | 'a' :: rest => .ok ({ kind := .named, size := 1 }, rest)
  | 'c' :: rest => .ok ({ kind := .character, size := 1 }, rest)
  | 'd' :: rest => whole .signed rest
  | 'o' :: rest => whole .octal rest
  | 'u' :: rest => whole .unsigned rest
  | 'x' :: rest => whole .hexadecimal rest
  | 'f' :: rest =>
    let (n, rest) := readSize [('F', 4), ('D', 8), ('L', 16)] 8 rest
    if n = 4 || n = 8 || n = 16 then .ok ({ kind := .floating, size := n }, rest)
    else .error (.size n true)
  | c :: _ => .error (.letter c)

/-- The formats that a text names one after the other. -/
def readAll : (fuel : Nat) → List Char → Except Fault (List CellFormat)
  | 0, _ => .ok []
  | _, [] => .ok []
  | fuel + 1, cs =>
    match readOne cs with
    | .error fault => .error fault
    | .ok (format, rest) =>
      let (format, rest) := match rest with
        | 'z' :: rest => ({ format with hasTrailer := true }, rest)
        | rest => (format, rest)
      match readAll fuel rest with
      | .error fault => .error fault
      | .ok formats => .ok (format :: formats)

end CellFormat

structure DumpSettings where
  /-- The base in which places are shown, if they are. -/
  base? : Option Nat := some 8
  skipped : Nat := 0
  limit? : Option Nat := none
  formats : List CellFormat := []
  /-- Lines that repeat the line before are shown too. -/
  showsAll : Bool := false
  columns? : Option Nat := none
  bigEndian : Bool := false
  /-- Show texts of so many characters at least instead of numbers. -/
  strings? : Option Nat := none
  /-- An option was given that rules out the old way of naming a place to begin with. -/
  isModern : Bool := false
  /-- There was something wrong with a type. -/
  isFaulty : Bool := false

namespace DumpSettings

def options : OptionTable where
  letters := "A:aBbcDdeFfHhIij:LlN:OoS:st:vw::Xx"
  words := [("skip-bytes=", "skip-bytes"), ("address-radix=", "A"), ("read-bytes=", "read-bytes"),
    ("format=", "t"), ("output-duplicates", "v"), ("strings?", "strings"), ("traditional", "old"),
    ("width?", "width"), ("endian=", "endian")]

/-- The formats that letters stand for. -/
def shorthand? (key : String) : Option CellFormat :=
  [("a", .named, 1), ("b", .octal, 1), ("c", .character, 1), ("D", .unsigned, 4),
    ("d", .unsigned, 2), ("e", .floating, 8), ("F", .floating, 8), ("f", .floating, 4),
    ("H", .hexadecimal, 4), ("X", .hexadecimal, 4), ("i", .signed, 4), ("I", .signed, 8),
    ("L", .signed, 8), ("l", .signed, 8), ("B", .octal, 2), ("o", .octal, 2), ("O", .octal, 4),
    ("s", .signed, 2), ("h", .hexadecimal, 2), ("x", .hexadecimal, 2)].lookup key |>.map
    fun (kind, size) => ({ kind, size } : CellFormat)

/-- A number in decimal, or in octal or hexadecimal digits after a zero. -/
def number (text : String) : Except QuantityFault Nat :=
  let suffixes := "bEGKkMmPQRTYZ0"
  let read (base : Nat) (isDigit : Char → Bool) (cs : List Char) : Except QuantityFault Nat :=
    let digits := cs.takeWhile isDigit
    let n := Floating.ofDigits base digits
    match Quantity.multiply suffixes n (cs.drop digits.length) with
    | .ok m => if Quantity.greatest < m then .error .overflow else .ok m
    | .error fault => .error fault
  match text.toList with
  | '0' :: x :: rest =>
    if (x == 'x' || x == 'X') && rest.head?.any CharClass.isHexDigit then
      read 16 CharClass.isHexDigit rest
    else read 8 (fun c => '0' ≤ c && c ≤ '7') (x :: rest)
  | cs => if cs.head?.any Char.isDigit then read 10 Char.isDigit cs else .error .malformed

/-- A number that an option gives. -/
def numberOf (option : GivenOption) : Work Nat := do
  let dashes := if option.key.length = 1 then "-" else "--"
  let name := dashes ++ option.key
  match number option.value with
  | .ok n => return n
  | .error .malformed => Work.die ("invalid " ++ name ++ " argument " ++ quoted option.value)
  | .error .suffix =>
    Work.die ("invalid suffix in " ++ name ++ " argument " ++ quoted option.value)
  | .error .overflow => Work.die (name ++ " argument " ++ quoted option.value ++ " too large")

def step (settings : DumpSettings) (option : GivenOption) : Work DumpSettings := do
  let modern := { settings with isModern := true }
  match option.key with
  | "A" =>
    match option.value with
    | "d" => return { modern with base? := some 10 }
    | "o" => return { modern with base? := some 8 }
    | "x" => return { modern with base? := some 16 }
    | "n" => return { modern with base? := none }
    | other =>
      Work.die ("invalid output address radix '" ++ (other.take 1).toString ++
        "'; it must be one character from [doxn]")
  | "j" => return { modern with skipped := ← numberOf option }
  | "skip-bytes" => return { modern with skipped := ← numberOf option }
  | "N" => return { modern with limit? := some (← numberOf option) }
  | "read-bytes" => return { modern with limit? := some (← numberOf option) }
  | "S" => return { modern with strings? := some (← numberOf option) }
  | "strings" =>
    if option.value?.isNone then return { modern with strings? := some 3 }
    return { modern with strings? := some (← numberOf option) }
  | "t" =>
    match CellFormat.readAll (option.value.length + 1) option.value.toList with
    | .ok formats => return { modern with formats := settings.formats ++ formats }
    | .error fault => do
      Work.fault (fault.message option.value)
      return { modern with isFaulty := true }
  | "v" => return { modern with showsAll := true }
  | "endian" => return { modern with
      bigEndian := ← Work.choice "--endian" option.value [(["little"], false), (["big"], true)] }
  | "old" => return settings
  | key =>
    if key == "w" || key == "width" then
      if option.value?.isNone then return { modern with columns? := some 32 }
      let n ← numberOf option
      if n = 0 then Work.die ("invalid -w argument " ++ quoted option.value)
      return { modern with columns? := some n }
    match shorthand? key with
    | some format => return { settings with formats := settings.formats ++ [format] }
    | none => return settings

/-- A place to begin with, given in the old way: octal unless a point or an `x` says otherwise. -/
def oldPlace? (text : String) : Option Nat :=
  let cs := match text.toList with
    | '+' :: rest => rest
    | cs => cs
  let (cs, factor) := match cs.reverse with
    | 'b' :: rest => (rest.reverse, 512)
    | 'B' :: rest => (rest.reverse, 1024)
    | _ => (cs, 1)
  let (cs, base) := match cs, cs.reverse with
    | '0' :: 'x' :: rest, _ => (rest, 16)
    | _, '.' :: rest => (rest.reverse, 10)
    | _, _ => (cs, 8)
  if cs.isEmpty || !(cs.all fun c => CharClass.isHexDigit c && Floating.digitValue c < base) then none
  else some (Floating.ofDigits base cs * factor)

/-- A place as it is shown. -/
def place (settings : DumpSettings) (n : Nat) : String :=
  match settings.base? with
  | none => ""
  | some base =>
    let text := Nat.toDigits base n
    String.ofList (List.replicate ((if base = 16 then 6 else 7) - text.length) '0' ++ text)

/-- What is shown below a place. -/
def noPlace (settings : DumpSettings) : String :=
  match settings.base? with
  | none => ""
  | some base => String.ofList (List.replicate (if base = 16 then 6 else 7) ' ')

def cellSize (settings : DumpSettings) : Nat :=
  settings.formats.foldl (fun size format => Nat.lcm size format.size) 1

/-- The width of a full line in the widest format. -/
def lineWidth (settings : DumpSettings) (columns : Nat) : Nat :=
  settings.formats.foldl
    (fun width format => max width ((format.width + 1) * (columns / format.size))) 0

/-- A line in one format. -/
def line (settings : DumpSettings) (columns : Nat) (octets : List Char) (format : CellFormat) :
    String :=
  let fields := columns / format.size
  let blank := (columns - octets.length) / format.size
  let spare := settings.lineWidth columns - fields * format.width
  let zeros := List.replicate (columns - octets.length) '\x00'
  let cells := Radix.chunks format.size (octets ++ zeros)
  let shown := (cells.take (fields - blank)).zipIdx.map fun (cell, i) =>
    -- spare blanks are spread so that the columns of all formats end together
    let before := spare * (fields - i) / fields
    let after := spare * (fields - i - 1) / fields
    padLeft (before - after + format.width) (format.cellText settings.bigEndian cell)
  let trailer := if format.hasTrailer then
      String.ofList (List.replicate (blank * format.width + spare * blank / fields) ' ') ++ "  >" ++
        String.ofList (octets.map fun c => if isPrintable c then c else '.') ++ "<"
    else ""
  String.join shown ++ trailer ++ "\n"

/-- What is shown of each block from a place on, and in the end. Of blocks that repeat the one before
only a star is left. -/
def blocks (settings : DumpSettings) (columns : Nat) :
    (place : Nat) → (before? : Option (List Char)) → (starred : Bool) → List (List Char) →
      List String
  | place, _, _, [] => [match settings.base? with
    | some _ => settings.place place ++ "\n"
    | none => ""]
  | place, before?, starred, octets :: rest =>
    let next := place + octets.length
    if !settings.showsAll && before? == some octets && octets.length = columns then
      (if starred then "" else "*\n") :: settings.blocks columns next before? true rest
    else
      let shown := settings.formats.zipIdx.map fun (format, i) =>
        (if i = 0 then settings.place place else settings.noPlace) ++
          settings.line columns octets format
      String.join shown :: settings.blocks columns next (some octets) false rest

/-- Texts of so many characters at least that a null octet ends, with their places. -/
def strings (settings : DumpSettings) (least : Nat) :
    (place : Nat) → (text : List Char) → List Char → String
  | _, _, [] => ""
  | place, text, c :: rest =>
    if isPrintable c then settings.strings least (place + 1) (c :: text) rest
    else
      let shown := if c == '\x00' && least ≤ text.length then
          settings.place (place - text.length) ++ (if settings.base?.isSome then " " else "") ++
            String.ofList text.reverse ++ "\n"
        else ""
      shown ++ settings.strings least (place + 1) [] rest

/-- The number of octets on a line: all cells must fit. -/
def chosenColumns (settings : DumpSettings) : Work Nat := do
  let cell := settings.cellSize
  match settings.columns? with
  | none => return if cell < 16 then cell * (16 / cell) else cell
  | some n =>
    Work.insistOnBound n
    if n % cell = 0 then return n
    Work.complain ("warning: invalid width " ++ toString n ++ "; using " ++ toString cell ++
      " instead")
    return cell

end DumpSettings

/-- The octets of all files together, and the complaints about files with the number of octets that
were read before. -/
structure Gathered where
  octets : List Char := []
  /-- There was something that could be opened. -/
  isOpen : Bool := false
  /-- Latest first. -/
  complaints : List (Nat × String) := []

/-- Read files up to as many octets as are needed. -/
def gather (needed? : Option Nat) (operands : List String) : Work Gathered := do
  operands.foldlM
    (fun (sofar : Gathered) operand => do
      let read ← match needed? with
        | some n =>
          if sofar.isOpen && n ≤ sofar.octets.length then return sofar
          Work.readSome (n - sofar.octets.length) operand
        | none => Work.readFile operand
      match read with
      | .ok cs => return { sofar with octets := sofar.octets ++ cs, isOpen := true }
      | .error e =>
        let complaint := shellName operand ++ ": " ++ e.reason
        return { sofar with
          isOpen := sofar.isOpen || e = .isADirectory
          complaints := (sofar.octets.length, complaint) :: sofar.complaints })
    {}

/-- Show blocks; complaints come when so many of them are complete. -/
def sayBlocks : (shown : Nat) → (complaints : List (Nat × String)) → List String → Work Unit
  | _, complaints, [] => complaints.forM fun (_, text) => Work.fault text
  | shown, complaints, block :: rest => do
    let due := complaints.takeWhile fun (place, _) => place ≤ shown
    due.forM fun (_, text) => Work.fault text
    Work.say block
    sayBlocks (shown + 1) (complaints.drop due.length) rest

/-- `od`: octets as numbers or characters. -/
def dumpOctets : Tool := do
  let (settings, operands) ← Work.options DumpSettings.options ({} : DumpSettings)
    DumpSettings.step
  if settings.isFaulty then return
  if settings.strings?.isSome && !settings.formats.isEmpty then
    Work.die "no type may be specified when dumping strings"
  let oldPlace? : Option Nat :=
    if settings.isModern then none
    else match operands with
      | [text] => if text.startsWith "+" then DumpSettings.oldPlace? text else none
      | [_, text] =>
        if text.startsWith "+" || text.toList.head?.any Char.isDigit then
          DumpSettings.oldPlace? text
        else none
      | _ => none
  let (settings, operands) := match oldPlace? with
    | some n => ({ settings with skipped := n }, operands.dropLast)
    | none => (settings, operands)
  let settings := if settings.formats.isEmpty
    then { settings with formats := [{ kind := .octal, size := 2 }] } else settings
  let operands := if operands.isEmpty then ["-"] else operands
  let gathered ← gather (settings.limit?.map (settings.skipped + ·)) operands
  let complaints := gathered.complaints.reverse
  let early := complaints.takeWhile fun (place, _) => place = 0
  early.forM fun (_, text) => Work.fault text
  if !gathered.isOpen then return
  let octets := gathered.octets
  let later := complaints.drop early.length
  if octets.length < settings.skipped then
    later.forM fun (_, text) => Work.fault text
    Work.die "cannot skip past end of combined input"
  let columns ← settings.chosenColumns
  let octets := octets.drop settings.skipped
  match settings.strings? with
  | some least => do
    later.forM fun (_, text) => Work.fault text
    Work.say (settings.strings least settings.skipped [] octets)
  | none =>
    let blocks := settings.blocks columns settings.skipped none false (Radix.chunks columns octets)
    sayBlocks 0 (later.map fun (place, text) => ((place - settings.skipped) / columns, text)) blocks

end Polyglot.Tool
