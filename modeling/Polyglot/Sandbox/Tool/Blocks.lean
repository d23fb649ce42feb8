import Polyglot.Sandbox.Tool.Dividing

/-!
# Copying in blocks

One input copied to one output in blocks, from some block on, only so many blocks, and with the
octets changed on the way.
-/

namespace Polyglot.Tool

structure BlockSettings where
  source? : Option String := none
  target? : Option String := none
  /-- The sizes of blocks that are read and written. -/
  inSize : Nat := 512
  outSize : Nat := 512
  /-- Blocks are written as they are read. -/
  direct? : Option Nat := none
  recordSize : Nat := 0
  /-- Numbers of blocks or, with the mark, of octets. -/
  count? : Option (Nat × Bool) := none
  skip : Nat × Bool := (0, false)
  seek : Nat × Bool := (0, false)
  conversions : List String := []
  inFlags : List String := []
  outFlags : List String := []
  status : String := "default"

namespace BlockSettings

def allConversions : List String := [
  "block", "unblock", "lcase", "ucase", "sparse", "swab", "noerror", "nocreat", "excl", "notrunc",
  "sync", "fdatasync", "fsync", "ascii", "ebcdic", "ibm"]

def allInFlags : List String := [
  "append", "direct", "directory", "dsync", "noatime", "nocache", "noctty", "nofollow",
  "nonblock", "sync", "fullblock", "count_bytes", "skip_bytes"]

def allOutFlags : List String := [
  "append", "direct", "directory", "dsync", "noatime", "nocache", "noctty", "nofollow",
  "nonblock", "sync", "seek_bytes"]

/-- A product of numbers that letters may multiply. -/
def product? (text : String) : Option Nat :=
  (text.toList.splitOn 'x').foldl
    (fun n? part => do
      let n ← n?
      match Quantity.unsigned "bcEGkKMPQRTwYZ0B" (String.ofList part) with
      | .ok m => if part.head?.any Char.isDigit then some (n * m) else none
      | .error _ => none)
    (some 1)

/-- A number that stands in for octets if a letter at its end says so. -/
def readCount (text : String) : Work (Nat × Bool) := do
  let inOctets := text.endsWith "B" && (text.dropEnd 1).toString.toList.getLast?.any Char.isDigit
  let digits := if inOctets then (text.dropEnd 1).toString else text
  match product? digits with
  | some n => return (n, inOctets)
  | none => Work.die ("invalid number: " ++ quoted text)

def readSize (text : String) : Work Nat := do
  let (n, _) ← readCount text
  if n = 0 then Work.die ("invalid number: " ++ quoted text)
  return n

/-- Words with commas between them, out of some that are known. -/
def readWords (complaint : String) (known : List String) (text : String) :
    Work (List String) := do
  let words := (text.toList.splitOn ',').map String.ofList
  match words.find? fun word => !known.contains word with
  | some word => Work.misuse (complaint ++ ": " ++ quoted word)
  | none => return words

def step (settings : BlockSettings) (operand : String) : Work BlockSettings := do
  let name := String.ofList (operand.toList.takeWhile (· != '='))
  let value := (operand.drop (name.length + 1)).toString
  if name.length = operand.length then Work.misuse ("unrecognized operand " ++ quoted operand)
  match name with
  | "if" => return { settings with source? := some value }
  | "of" => return { settings with target? := some value }
  | "bs" => return { settings with direct? := some (← readSize value) }
  | "ibs" => return { settings with inSize := ← readSize value }
  | "obs" => return { settings with outSize := ← readSize value }
  | "cbs" => return { settings with recordSize := ← readSize value }
  | "count" => return { settings with count? := some (← readCount value) }
  | "skip" => return { settings with skip := ← readCount value }
  | "iseek" => return { settings with skip := ← readCount value }
  | "seek" => return { settings with seek := ← readCount value }
  | "oseek" => return { settings with seek := ← readCount value }
  | "conv" => return { settings with conversions := settings.conversions ++
      (← readWords "invalid conversion" allConversions value) }
  | "iflag" => return { settings with inFlags := settings.inFlags ++
      (← readWords "invalid input flag" allInFlags value) }
  | "oflag" => return { settings with outFlags := settings.outFlags ++
      (← readWords "invalid output flag" allOutFlags value) }
  | "status" =>
    if ["none", "noxfer", "progress"].contains value then return { settings with status := value }
    else Work.misuse ("invalid status level: " ++ quoted value)
  | _ => Work.misuse ("unrecognized operand " ++ quoted operand)

def converts (settings : BlockSettings) (name : String) : Bool :=
  settings.conversions.contains name

/-- Refuse conversions that rule each other out. -/
def insist (settings : BlockSettings) : Tool := do
  let pairs := [("block", "unblock"), ("lcase", "ucase"), ("excl", "nocreat")]
  match pairs.find? fun (a, b) => settings.converts a && settings.converts b with
  | some (a, b) => Work.die ("cannot combine " ++ a ++ " and " ++ b)
  | none => pure ()

/-! ## Changing octets -/

/-- Exchange the octets of each pair. -/
def swapped : List Char → List Char
  | a :: b :: rest => b :: a :: swapped rest
  | cs => cs

/-- A block as it is after it was read. -/
def convert (settings : BlockSettings) (block : List Char) : List Char :=
  let filler := if settings.converts "block" || settings.converts "unblock" then ' ' else '\x00'
  let block := if settings.converts "sync" then
      block ++ List.replicate (settings.inSize - block.length) filler
    else block
  let block := if settings.converts "swab" then swapped block else block
  if settings.converts "lcase" then block.map Char.toLower
  else if settings.converts "ucase" then block.map Char.toUpper
  else block

/-- Lines as records of one length, and how many were cut. -/
def asRecords (size : Nat) (cs : List Char) : List Char × Nat :=
  let lines := textLines cs
  (lines.flatMap fun line => line.take size ++ List.replicate (size - line.length) ' ',
    (lines.filter (size < ·.length)).length)

/-- Records of one length as lines. -/
def asLines (size : Nat) (cs : List Char) : List Char :=
  (Radix.chunks size cs).flatMap fun record =>
    (record.reverse.dropWhile (· == ' ')).reverse ++ ['\n']

/-- A number with a unit of thousands or of 1024s. -/
def withUnit (base : Nat) (mark : String) (n : Nat) : String :=
  let power := if n < base then 0 else if n < base * base then 1
    else if n < base * base * base then 2 else 3
  let unit := Nat.pow base power
  if power = 0 then toString n ++ " " ++ mark
  else
    let tenths := (20 * n + unit) / (2 * unit)
    let letter := if power = 1 then (if base = 1000 then "k" else "K")
      else if power = 2 then "M" else "G"
    let text := if tenths < 100 then toString (tenths / 10) ++ "." ++ toString (tenths % 10)
      else toString ((2 * n + unit) / (2 * unit))
    text ++ " " ++ letter ++ mark

/-- How many whole blocks and partial ones there were. -/
def blockCounts (size : Nat) (blocks : List (List Char)) : String :=
  let whole := (blocks.filter (size ≤ ·.length)).length
  toString whole ++ "+" ++ toString (blocks.length - whole)

/-- Tell how much was copied. -/
def tell (settings : BlockSettings) (input output : List (List Char)) (cut : Nat) :
    Work Unit := do
  if settings.status == "none" then return
  Work.murmur (blockCounts settings.inSize input ++ " records in\n")
  Work.murmur (blockCounts settings.outSize output ++ " records out\n")
  if cut != 0 then
    Work.murmur (toString cut ++ (if cut = 1 then " truncated record\n" else
      " truncated records\n"))
  if settings.status == "noxfer" then return
  let total := (output.map List.length).foldl (· + ·) 0
  let size := toString total ++ (if total = 1 then " byte" else " bytes") ++
    (if total < 1000 then ""
      else if total < 1024 then " (" ++ withUnit 1000 "B" total ++ ")"
      else " (" ++ withUnit 1000 "B" total ++ ", " ++ withUnit 1024 "iB" total ++ ")")
  -- a block takes ten microseconds
  let rate := total * 100000 / max 1 input.length
  Work.murmur (size ++ " copied, " ++
    (if input.length = 0 then "1e-05" else "0.000" ++ toString (min 9 input.length)) ++ " s, " ++
    (if rate < 1000 then "0.0 kB" else withUnit 1000 "B" rate) ++ "/s\n")

/-- Write the output: after what may stay of the file, and before the rest of it if it is not cut
off. -/
def save (settings : BlockSettings) (target : String) (start : Nat) (text : List Char) :
    Work Unit := do
  match ← Work.find target with
  | .ok _ =>
    if settings.converts "excl" then
      Work.die ("failed to open " ++ shellQuoted target ++ ": File exists")
  | .error e =>
    if settings.converts "nocreat" then
      Work.die ("failed to open " ++ shellQuoted target ++ ": " ++ e.reason)
  let appends := settings.outFlags.contains "append"
  match ← Work.openFile target false with
  | .error e => Work.die ("failed to open " ++ shellQuoted target ++ ": " ++ e.reason)
  | .ok number => do
    let tree ← Work.getTree
    match tree.kindAt? number with
    | some (.file content) =>
      let old := content.toList
      let start := if appends then old.length else start
      let kept := if settings.converts "notrunc" || appends then old else old.take start
      Work.setTree (tree.setContent number
        (FileTree.overwrite (String.ofList kept) start (String.ofList text)))
    | some (.device .full) =>
      Work.die ("error writing " ++ shellQuoted target ++ ": No space left on device")
    | _ => pure ()

end BlockSettings

/-- `dd`: a copy in blocks. -/
def copyBlocks : Tool := do
  let (_, operands) ← Work.optionList { letters := "" }
  let settings ← operands.foldlM BlockSettings.step ({} : BlockSettings)
  let settings := match settings.direct? with
    | some size => { settings with inSize := size, outSize := size }
    | none => settings
  settings.insist
  let inOctets (flag : String) (amount : Nat × Bool) : Nat :=
    if amount.2 || settings.inFlags.contains flag then amount.1 else amount.1 * settings.inSize
  let skip := inOctets "skip_bytes" settings.skip
  let count? := settings.count?.map (inOctets "count_bytes")
  let start := if settings.seek.2 || settings.outFlags.contains "seek_bytes" then settings.seek.1
    else settings.seek.1 * settings.outSize
  Work.insistOnBound start
  if settings.converts "sync" then Work.insistOnBound settings.inSize
  Work.insistOnBound settings.recordSize
  let source := settings.source?.getD "-"
  let sourceName := if source == "-" then "'standard input'" else shellQuoted source
  if settings.source?.isSome then
    match ← Work.find source with
    | .error e => Work.die ("failed to open " ++ sourceName ++ ": " ++ e.reason)
    | .ok _ => pure ()
  let read ← match count? with
    | some count => Work.readSome (skip + count) source
    | none => Work.readFile source
  let cs ← match read with
    | .ok cs => pure cs
    | .error e => do
      match settings.target? with
      | some target => settings.save target start []
      | none => pure ()
      Work.complain ("error reading " ++ sourceName ++ ": " ++ e.reason)
      settings.tell [] [] 0
      Work.exit 1
  if cs.length < skip then
    Work.complain ((if source == "-" then "'standard input'" else shellName source) ++
      ": cannot skip to specified offset")
  let blocks := Radix.chunks settings.inSize (cs.drop skip)
  let converted := blocks.map settings.convert
  let (records, cut) : List Char × Nat :=
    if settings.recordSize = 0 then (converted.flatten, 0)
    else if settings.converts "block" then
      BlockSettings.asRecords settings.recordSize converted.flatten
    else if settings.converts "unblock" then
      (BlockSettings.asLines settings.recordSize converted.flatten, 0)
    else (converted.flatten, 0)
  let output := Radix.chunks settings.outSize records
  match settings.target? with
  | some target => settings.save target start records
  | none => Work.say (String.ofList records)
  settings.tell blocks output cut

end Polyglot.Tool
