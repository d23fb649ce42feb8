import Polyglot.Sandbox.Digest
import Polyglot.Sandbox.Tool.Concatenation
import Polyglot.Sandbox.Tool.Options
import Polyglot.Sandbox.Tool.Radix
import Polyglot.Text.Utf8

/-!
# Checksums

Digests and sums of files, and the check whether files still have the digests on a list. A list has
the digest in front of each name, or the name of the digest and of the file in front of it.
-/

namespace Polyglot.Tool

/-- A digest that is written in hexadecimal digits. -/
inductive DigestKind where
  | md5
  | sha1
  | sha224
  | sha256
  | sha384
  | sha512
  | blake
  | sm3
deriving DecidableEq

namespace DigestKind

/-- How lists call it. -/
def label : DigestKind → String
  | md5 => "MD5"
  | sha1 => "SHA1"
  | sha224 => "SHA224"
  | sha256 => "SHA256"
  | sha384 => "SHA384"
  | sha512 => "SHA512"
  | blake => "BLAKE2b"
  | sm3 => "SM3"

/-- How many octets it has, if no other number is asked for. -/
def octets : DigestKind → Nat
  | md5 => 16
  | sha1 => 20
  | sha224 => 28
  | sha256 => 32
  | sha384 => 48
  | sha512 => 64
  | blake => 64
  | sm3 => 32

def digest (kind : DigestKind) (octets : Nat) : List UInt8 → List UInt8 :=
  match kind with
  | md5 => Digest.Md5.digest
  | sha1 => Digest.Sha1.digest
  | sha224 => Digest.Sha2.digest224
  | sha256 => Digest.Sha2.digest256
  | sha384 => Digest.Sha2.digest384
  | sha512 => Digest.Sha2.digest512
  | blake => Digest.Blake2.digest octets
  | sm3 => Digest.Sm3.digest

def all : List DigestKind := [md5, sha1, sha224, sha256, sha384, sha512, blake, sm3]

end DigestKind

/-- What is computed of a file. -/
inductive SumKind where
  | turning
  | folded
  | cyclic
  | digest (kind : DigestKind)
deriving DecidableEq

structure SumSettings where
  kind : SumKind
  /-- The tool for all kinds of sums. -/
  isGeneral : Bool := false
  kindGiven : Bool := false
  checks : Bool := false
  tagged? : Option Bool := none
  /-- Is the mark for octets as they are shown in front of names? -/
  binary? : Option Bool := none
  mark : Char := '\n'
  ignoresMissing : Bool := false
  isQuiet : Bool := false
  isSilent : Bool := false
  isStrict : Bool := false
  warns : Bool := false
  bits : Nat := 0
  asBase64 : Bool := false
  asOctets : Bool := false

namespace SumSettings

def options (settings : SumSettings) : OptionTable where
  letters := if settings.isGeneral then "a:bctwzl:"
    else if settings.kind = .digest .blake then "bctwzl:" else "bctwz"
  words := [("binary", "b"), ("check", "c"), ("ignore-missing", "ignore-missing"),
    ("quiet", "quiet"), ("status", "status"), ("strict", "strict"), ("tag", "tag"), ("text", "t"),
    ("warn", "w"), ("zero", "z")] ++
    (if settings.isGeneral || settings.kind = .digest .blake then [("length=", "l")] else []) ++
    (if settings.isGeneral then [("algorithm=", "a"), ("base64", "base64"), ("raw", "raw"),
      ("untagged", "untagged"), ("debug", "debug")] else [])

def kinds : Choices SumKind :=
  [(["bsd"], .turning), (["sysv"], .folded), (["crc"], .cyclic), (["md5"], .digest .md5),
    (["sha1"], .digest .sha1), (["sha224"], .digest .sha224), (["sha256"], .digest .sha256),
    (["sha384"], .digest .sha384), (["sha512"], .digest .sha512),
    (["blake2b"], .digest .blake), (["sm3"], .digest .sm3)]

def step (settings : SumSettings) (option : GivenOption) : Work SumSettings := do
  match option.key with
  | "a" => return { settings with
      kind := ← Work.choice "--algorithm" option.value kinds, kindGiven := true }
  | "b" => return { settings with binary? := some true }
  | "t" => return { settings with binary? := some false }
  | "c" => return { settings with checks := true }
  | "w" => return { settings with warns := true, isQuiet := false, isSilent := false }
  | "z" => return { settings with mark := '\x00' }
  | "ignore-missing" => return { settings with ignoresMissing := true }
  | "quiet" => return { settings with isQuiet := true, isSilent := false, warns := false }
  | "status" => return { settings with isSilent := true, isQuiet := false, warns := false }
  | "strict" => return { settings with isStrict := true }
  | "tag" => return { settings with tagged? := some true, binary? := some true }
  | "untagged" => return { settings with
      tagged? := some false
      binary? := if settings.binary? = some true then none else settings.binary? }
  | "base64" => return { settings with asBase64 := true }
  | "raw" => return { settings with asOctets := true }
  | "l" => do
    let bits ← Work.quantity "" "invalid length" option.value
    if bits % 8 != 0 then
      Work.complain ("invalid length: " ++ quoted option.value)
      Work.die "length is not a multiple of 8"
    return { settings with bits }
  | _ => return settings

def tagged (settings : SumSettings) : Bool :=
  settings.tagged?.getD settings.isGeneral

/-- Refuse options that make no sense together. -/
def insist (settings : SumSettings) : Tool := do
  if 512 < settings.bits && settings.kind = .digest .blake then
    Work.complain ("invalid length: " ++ quoted (toString settings.bits))
    Work.die "maximum digest length for 'BLAKE2b' is 512 bits"
  if settings.bits != 0 && settings.kind ≠ .digest .blake then
    Work.die "--length is only supported with --algorithm=blake2b"
  let isSum := settings.kind = .turning || settings.kind = .folded || settings.kind = .cyclic
  if settings.isGeneral && settings.checks && settings.kindGiven && isSum then
    Work.die "--check is not supported with --algorithm=\x7bbsd,sysv,crc\x7d"
  if settings.asBase64 && settings.asOctets then
    Work.misuse "--base64 and --raw are mutually exclusive"
  if settings.tagged && settings.binary? = some false then
    Work.misuse (if settings.isGeneral then "--text mode is only supported with --untagged"
      else "--tag does not support --text mode")
  if settings.checks then
    if settings.mark != '\n' then
      Work.misuse "the --zero option is not supported when verifying checksums"
    if !settings.isGeneral && settings.tagged then
      Work.misuse "the --tag option is meaningless when verifying checksums"
    if settings.binary?.isSome then
      Work.misuse "the --binary and --text options are meaningless when verifying checksums"
  else
    let given := [("ignore-missing", settings.ignoresMissing), ("status", settings.isSilent),
      ("warn", settings.warns), ("quiet", settings.isQuiet), ("strict", settings.isStrict)]
    match given.find? (·.2) with
    | some (name, _) =>
      Work.misuse ("the --" ++ name ++ " option is meaningful only when verifying checksums")
    | none => pure ()

/-! ## Writing sums -/

/-- Names in which line ends and backslashes are written after a backslash. -/
def escapedName (name : String) : String :=
  String.ofList (name.toList.flatMap fun c =>
    if c == '\n' then ['\\', 'n'] else if c == '\r' then ['\\', 'r']
    else if c == '\\' then ['\\', '\\'] else [c])

/-- A number with zeros in front. -/
def zeroed (width n : Nat) : String :=
  let digits := toString n
  String.ofList (List.replicate (width - digits.length) '0') ++ digits

/-- How many blocks some octets fill. -/
def blocksFor (size count : Nat) : Nat :=
  (count + size - 1) / size

/-- The line for a file, whose name may be left out. -/
def line (settings : SumSettings) (name? : Option String) (octets : List Char) : String :=
  let message := Octets.toBytes (String.ofList octets)
  let named (text : String) : String :=
    text ++ (match name? with
      | some name => " " ++ name
      | none => "") ++ String.singleton settings.mark
  let raw (count n : Nat) : String := Octets.ofBytes (Digest.bigOctets count n)
  match settings.kind with
  | .turning =>
    let sum := Digest.turningSum message
    if settings.asOctets then raw 2 sum
    else named (zeroed 5 sum ++ " " ++ padLeft 5 (toString (blocksFor 1024 octets.length)))
  | .folded =>
    let sum := Digest.foldedSum message
    if settings.asOctets then raw 2 sum
    else named (toString sum ++ " " ++ toString (blocksFor 512 octets.length))
  | .cyclic =>
    let sum := (Digest.cyclicSum message).toNat
    if settings.asOctets then raw 4 sum
    else named (toString sum ++ " " ++ toString octets.length)
  | .digest kind =>
    let count := if settings.bits = 0 then kind.octets else settings.bits / 8
    let digest := kind.digest count message
    let text := if settings.asBase64
      then String.ofList (Radix.base64.encode (Octets.ofBytes digest).toList)
      else Digest.hexadecimal digest
    let name := name?.getD "-"
    let escapes := settings.mark == '\n' && escapedName name != name
    let shown := if escapes then escapedName name else name
    let label := kind.label ++ (if kind = .blake && count < 64 then "-" ++ toString (8 * count)
      else "")
    if settings.asOctets then Octets.ofBytes digest
    else (if escapes then "\\" else "") ++
      (if settings.tagged then label ++ " (" ++ shown ++ ") = " ++ text
      else text ++ (if settings.binary? = some true then " *" else "  ") ++ shown) ++
      String.singleton settings.mark

/-! ## Checking lists -/

/-- What a line of a list says. -/
structure Entry where
  kind : DigestKind
  octets : Nat
  /-- The digest in digits. -/
  digest : List Char
  name : String

/-- A name without the backslashes that were put into it. -/
def unescapedName? : List Char → Option (List Char)
  | [] => some []
  | '\\' :: 'n' :: rest => (unescapedName? rest).map ('\n' :: ·)
  | '\\' :: 'r' :: rest => (unescapedName? rest).map ('\r' :: ·)
  | '\\' :: '\\' :: rest => (unescapedName? rest).map ('\\' :: ·)
  | c :: rest => if c == '\\' then none else (unescapedName? rest).map (c :: ·)

def nameOf? (escaped : Bool) (cs : List Char) : Option String :=
  if escaped then (unescapedName? cs).map String.ofList else some (String.ofList cs)

/-- Can some digits be a digest of so many octets? -/
def isDigest (octets : Nat) (digits : List Char) : Bool :=
  (digits.length == 2 * octets && digits.all CharClass.isHexDigit) ||
    (digits.length == (octets + 2) / 3 * 4 &&
      digits.all fun c => Radix.base64.alphabet.toList.contains c || c == '=')

/-- What comes after a label: a name in brackets, an equals sign and the digest. -/
def readTagged? (kind : DigestKind) (octets : Nat) (escaped : Bool) (cs : List Char) :
    Option Entry := do
  let cs := match cs with
    | ' ' :: rest => rest
    | cs => cs
  let '(' :: cs := cs | none
  let after := cs.reverse.takeWhile (· != ')')
  if after.length = cs.length then none
  let name ← nameOf? escaped (cs.take (cs.length - after.length - 1))
  let '=' :: rest := after.reverse.dropWhile CharClass.isBlank | none
  let digest := rest.dropWhile CharClass.isBlank
  if isDigest octets digest then some { kind, octets, digest, name } else none

/-- The digest whose label a line begins with, how many octets it has, and the rest. -/
def readLabel? (kinds : List DigestKind) (cs : List Char) :
    Option (DigestKind × Nat × List Char) := do
  let kind ← kinds.find? fun kind => kind.label.toList.isPrefixOf cs
  let rest := cs.drop kind.label.length
  match kind, rest with
  | .blake, '-' :: rest =>
    let digits := rest.takeWhile Char.isDigit
    let bits := decimal digits
    if bits = 0 || 512 < bits || bits % 8 != 0 then none
    else some (kind, bits / 8, rest.drop digits.length)
  | _, _ => some (kind, kind.octets, rest)

/-- What a line says. Names that follow one blank may stand alone if `reversed?` does not forbid
it; a list has either kind of lines. -/
def entryOn? (settings : SumSettings) (reversed? : Option Bool) (line : List Char) :
    Option (Entry × Option Bool) := do
  let cs := line.dropWhile CharClass.isBlank
  let (escaped, cs) := match cs with
    | '\\' :: rest => (true, rest)
    | cs => (false, cs)
  let own? : Option DigestKind := match settings.kind with
    | .digest kind => some kind
    | _ => none
  let labels := if settings.isGeneral && !settings.kindGiven then
      [.sha384, .sha224, .sha256, .sha512, .sha1, .md5, .blake, .sm3]
    else own?.toList
  match readLabel? labels cs with
  | some (kind, octets, rest) =>
    let entry ← readTagged? kind octets escaped rest
    some (entry, reversed?)
  | none =>
    let kind ← own?
    let count := if kind = .blake then (cs.takeWhile CharClass.isHexDigit).length
      else 2 * kind.octets
    let digest := cs.take count
    if count < 2 || count % 2 != 0 || 128 < count || !isDigest (count / 2) digest then none
    let blank :: name := cs.drop count | none
    if !CharClass.isBlank blank || name.isEmpty then none
    let isReversed := name.length = 1 || !(name.head? == some ' ' || name.head? == some '*')
    if isReversed && reversed? = some false then none
    let now := reversed?.getD isReversed
    let name ← nameOf? escaped (if now then name else name.drop 1)
    some ({ kind, octets := count / 2, digest, name }, some now)

/-- Does a file have the digest on the list? -/
def Entry.holds (entry : Entry) (octets : List Char) : Bool :=
  let digest := entry.kind.digest entry.octets (Octets.toBytes (String.ofList octets))
  entry.digest.map Char.toLower == (Digest.hexadecimal digest).toList ||
    entry.digest == Radix.base64.encode (Octets.ofBytes digest).toList

/-- What checking a list has found. -/
structure Findings where
  reversed? : Option Bool := none
  wellFormed : Nat := 0
  malformed : Nat := 0
  unreadable : Nat := 0
  different : Nat := 0
  same : Nat := 0

/-- Check one line of a list. -/
def checkLine (settings : SumSettings) (listName : String) (findings : Findings)
    (numbered : List Char × Nat) : Work Findings := do
  let line := match numbered.1.reverse with
    | '\r' :: rest => rest.reverse
    | _ => numbered.1
  if line.isEmpty || line.head? == some '#' then return findings
  let found? := (entryOn? settings findings.reversed? line).filter fun (entry, _) =>
    !(listName == "-" && entry.name == "-")
  match found? with
  | none => do
    if settings.warns then
      let label := match settings.kind with
        | .digest kind => kind.label
        | _ => "CRC"
      Work.complain ((if listName == "-" then "'standard input'" else shellName listName) ++ ": " ++
        toString (numbered.2 + 1) ++ ": improperly formatted " ++ label ++ " checksum line")
    return { findings with malformed := findings.malformed + 1 }
  | some (entry, reversed?) => do
    let findings := { findings with reversed?, wellFormed := findings.wellFormed + 1 }
    let shown := if escapedName entry.name != entry.name then "\\" ++ escapedName entry.name
      else entry.name
    match ← Work.readFile entry.name with
    | .error e => do
      if settings.ignoresMissing && e = .noSuchFile then return findings
      Work.complain (shellName entry.name ++ ": " ++ e.reason)
      if !settings.isSilent then Work.sayLine (shown ++ ": FAILED open or read")
      return { findings with unreadable := findings.unreadable + 1 }
    | .ok octets => do
      if entry.holds octets then
        if !settings.isSilent && !settings.isQuiet then Work.sayLine (shown ++ ": OK")
        return { findings with same := findings.same + 1 }
      else
        if !settings.isSilent then Work.sayLine (shown ++ ": FAILED")
        return { findings with different := findings.different + 1 }

/-- Warn of a number of things. -/
def warning (n : Nat) (one many : String) : Work Unit := do
  if n != 0 then
    Work.complain ("WARNING: " ++ toString n ++ " " ++ (if n = 1 then one else many))

/-- Check a list of digests. -/
def checkList (settings : SumSettings) (listName : String) : Work Unit := do
  let shown := if listName == "-" then "'standard input'" else shellName listName
  match ← Work.readFile listName with
  | .error .isADirectory => Work.fault (shown ++ ": read error")
  | .error e => Work.fault (shown ++ ": " ++ e.reason)
  | .ok cs => do
    let findings ← (textLines cs).zipIdx.foldlM (checkLine settings listName) {}
    if findings.wellFormed = 0 then
      Work.fault (shown ++ ": no properly formatted checksum lines found")
    else
      if !settings.isSilent then
        warning findings.malformed "line is improperly formatted" "lines are improperly formatted"
        warning findings.unreadable "listed file could not be read"
          "listed files could not be read"
        warning findings.different "computed checksum did NOT match"
          "computed checksums did NOT match"
        if settings.ignoresMissing && findings.same = 0 then
          Work.complain (shown ++ ": no file was verified")
      if findings.same = 0 || findings.different != 0 || findings.unreadable != 0 ||
          (settings.isStrict && findings.malformed != 0) then
        Work.setCode 1

/-- Sum up files, or check lists. -/
def work (settings : SumSettings) (operands : List String) : Tool := do
  let files := if operands.isEmpty then ["-"] else operands
  if settings.asOctets && 1 < files.length then
    Work.die "the --raw option is not supported with multiple files"
  files.forM fun file => do
    if settings.checks then settings.checkList file
    else match ← Work.readFile file with
      | .error e => Work.fault (shellName file ++ ": " ++ e.reason)
      | .ok octets =>
        let name? := if operands.isEmpty then none else some file
        Work.say (settings.line name? octets)

end SumSettings

/-- `md5sum`, `sha256sum`, `cksum` and their like: the digests of files. -/
def tellSums (settings : SumSettings) : Tool := do
  let (settings, operands) ← Work.options settings.options settings SumSettings.step
  settings.insist
  settings.work operands

/-- `sum`: a short sum of each file and its size in blocks. -/
def tellShortSums : Tool := do
  let table : OptionTable := { letters := "rs", words := [("sysv", "s")] }
  let (options, operands) ← Work.optionList table
  let isFolded := (options.getLast?.map (·.key)) == some "s"
  let settings : SumSettings := { kind := if isFolded then .folded else .turning }
  settings.work operands

/-- Tools for sums. -/
def sumTools : List (String × Tool) := [
  ("md5sum", tellSums { kind := .digest .md5 }), ("sha1sum", tellSums { kind := .digest .sha1 }),
  ("sha224sum", tellSums { kind := .digest .sha224 }),
  ("sha256sum", tellSums { kind := .digest .sha256 }),
  ("sha384sum", tellSums { kind := .digest .sha384 }),
  ("sha512sum", tellSums { kind := .digest .sha512 }),
  ("b2sum", tellSums { kind := .digest .blake }),
  ("cksum", tellSums { kind := .cyclic, isGeneral := true }), ("sum", tellShortSums)]

end Polyglot.Tool
