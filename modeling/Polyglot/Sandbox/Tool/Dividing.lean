import Polyglot.Number.Floating
import Polyglot.Sandbox.Tool.Checksum

/-!
# Several outputs from one input

An input written to several files at once, and files cut into pieces that get files of their own:
pieces of so many lines or octets, or so many pieces of one size.
-/

namespace Polyglot

namespace Work

/-- Open a file for writing. -/
def openFile (operand : String) (empties : Bool) : Work (Except SystemError Nat) := do
  let mode ← newMode 0o666
  match (← getTree).openNew (← read).directory operand mode empties with
  | .error e => return .error e
  | .ok (number, tree) => do
    setTree tree
    return .ok number

/-- Write at the end of a file that is open. -/
def appendTo (number : Nat) (text : String) : Work (Except SystemError Unit) := do
  let tree ← getTree
  match tree.nodeAt? number with
  | some node =>
    if node.kind == .device .full then return .error .noSpace
    setTree (tree.writeAt number node.size text)
    return .ok ()
  | none => return .ok ()

end Work

namespace Tool

/-! ## The same everywhere -/

/-- Where what is read is written besides the output. -/
inductive Branch where
  | output
  | errors
  | file (name : String) (number : Nat)

def openBranch (appends : Bool) (operand : String) : Work (Option Branch) := do
  if operand == "/dev/stdout" then return some .output
  if operand == "/dev/stderr" then return some .errors
  match ← Work.openFile operand (!appends) with
  | .ok number => return some (.file operand number)
  | .error e => do
    Work.fault (shellName operand ++ ": " ++ e.reason)
    return none

def Branch.write (text : String) : Branch → Work Unit
  | output => Work.say text
  | errors => Work.murmur text
  | file name number => do
    match ← Work.appendTo number text with
    | .ok () => return
    | .error e => Work.fault (shellName name ++ ": " ++ e.reason)

/-- Do two branches end in one file? -/
def Branch.isSameFile : Branch → Branch → Bool
  | file _ a, file _ b => a == b
  | _, _ => false

def shareOptions : OptionTable where
  letters := "aip"
  words := [("append", "a"), ("ignore-interrupts", "i"), ("output-error?", "error")]

/-- `tee`: what is read goes to the output and into files. -/
def shareInput : Tool := do
  let (options, operands) ← Work.options shareOptions [] fun given option => do
    if option.key == "error" then
      match option.value? with
      | some value =>
        discard <| Work.choice "--output-error" value [(["warn"], ()), (["warn-nopipe"], ()),
          (["exit"], ()), (["exit-nopipe"], ())]
      | none => pure ()
    return given ++ [option]
  let appends := options.any (·.key == "a")
  let branches := (← operands.mapM (openBranch appends)).filterMap id
  match ← Work.streamInput with
  | .error e => Work.die ("read error: " ++ e.reason)
  | .ok cs =>
    -- a file that was emptied gives nothing
    let number? := (← read).inputNode?
    let emptied := !appends && branches.any fun branch => match branch with
      | .file _ number => number? == some number
      | _ => false
    let text := if emptied then "" else String.ofList cs
    -- two that start at the beginning of one file write the same over one another
    let branches := if appends then branches else branches.eraseDupsBy Branch.isSameFile
    (Branch.output :: branches).forM (Branch.write text)

/-! ## Names of pieces -/

/-- How the pieces are called: a beginning, letters or digits that count them, and an end. -/
structure PieceNames where
  beginning : String := "x"
  alphabet : String := "abcdefghijklmnopqrstuvwxyz"
  length : Nat := 2
  /-- Names grow longer when they run out. -/
  grows : Bool := true
  first : Nat := 0
  ending : String := ""

namespace PieceNames

/-- A number in so many digits of the alphabet, if it fits. -/
def digits? (names : PieceNames) (length n : Nat) : Option String :=
  let alphabet := names.alphabet.toList
  let base := alphabet.length
  if Nat.pow base length ≤ n then none
  else some (String.ofList ((List.range length).reverse.map fun place =>
    alphabet.getD (n / Nat.pow base place % base) '?'))

/-- What counts a piece. The last letter never comes first but in names that have grown: it stands
in front of two more letters than there were. -/
def counter? (names : PieceNames) : (fuel length : Nat) → (n : Nat) → Option String
  | 0, length, n => names.digits? length n
  | fuel + 1, length, n =>
    if !names.grows then names.digits? length n
    else
      let base := names.alphabet.length
      let short := (base - 1) * Nat.pow base (length - 1)
      if n < short then names.digits? length n
      else (counter? names fuel (length + 1) (n - short)).map fun rest =>
        String.ofList (names.alphabet.toList.drop (base - 1)) ++ rest

/-- The name of a piece, if there are names for so many. -/
def name? (names : PieceNames) (n : Nat) : Option String :=
  (names.counter? (n + 1) names.length (n + names.first)).map fun counter =>
    names.beginning ++ counter ++ names.ending

end PieceNames

/-! ## Ways of cutting -/

/-- What one of a number of pieces may be. -/
inductive ShareKind where
  /-- Any octets. -/
  | octets
  /-- Whole lines one after the other. -/
  | lines
  /-- Every so-many-th line. -/
  | turns
deriving DecidableEq

/-- How a file is cut into pieces. -/
inductive Cut where
  | lines (count : Nat)
  | octets (count : Nat)
  /-- As many whole lines as fit into so many octets. -/
  | fitting (count : Nat)
  /-- So many pieces, of which one may be wanted alone. -/
  | shares (kind : ShareKind) (count : Nat) (only? : Option Nat)

namespace Cut

/-- Lines with their ends. -/
def records (mark : Char) (cs : List Char) : List (List Char) :=
  let pieces := cs.splitOn mark
  let ended := pieces.dropLast.map (· ++ [mark])
  match pieces.getLast? with
  | some last => if last.isEmpty then ended else ended ++ [last]
  | none => ended

/-- The octets of a file as far as they go into a piece of some size, up to the end of a line if
there is one. -/
def fittingPart (mark : Char) (count : Nat) (cs : List Char) : List Char :=
  if cs.length ≤ count then cs
  else
    let window := cs.take count
    let after := (window.reverse.takeWhile (· != mark)).length
    if after = window.length then window else window.take (window.length - after)

def fittingPieces (mark : Char) (count : Nat) : (fuel : Nat) → List Char → List (List Char)
  | 0, _ => []
  | _, [] => []
  | fuel + 1, cs =>
    let part := fittingPart mark count cs
    part :: fittingPieces mark count fuel (cs.drop part.length)

/-- Where the pieces of a number of equal pieces end; the first ones are longer by one. -/
def shareEnds (size count : Nat) : List Nat :=
  (List.range count).map fun i => (i + 1) * (size / count) + min (i + 1) (size % count)

/-- Pieces that end where lines do: each goes on to the end of the line in which its share ends. -/
def lineShares (mark : Char) : (written : Nat) → List Nat → List Char → List (List Char)
  | _, [], _ => []
  | written, stop :: stops, cs =>
    if stop ≤ written && written ≠ 0 then [] :: lineShares mark written stops cs
    else
      let skipped := stop - 1 - written
      let after := (cs.drop skipped).takeWhile (· != mark)
      let length := min cs.length (skipped + after.length + 1)
      cs.take length :: lineShares mark (written + length) stops (cs.drop length)

def pieces (cut : Cut) (mark : Char) (cs : List Char) : List (List Char) :=
  match cut with
  | .lines count => (Radix.chunks count (records mark cs)).map List.flatten
  | .octets count => Radix.chunks count cs
  | .fitting count => fittingPieces mark count (cs.length + 1) cs
  | .shares .octets count _ =>
    let stops := shareEnds cs.length count
    (List.zipWith (fun start stop => (cs.take stop).drop start) (0 :: stops) stops)
  | .shares .lines count _ => lineShares mark 0 (shareEnds cs.length count) cs
  | .shares .turns count _ =>
    let numbered := (records mark cs).zipIdx
    (List.range count).map fun i =>
      (numbered.filter fun (_, n) => n % count = i).flatMap (·.1)

end Cut

structure SplitSettings where
  cut? : Option Cut := none
  mark? : Option Char := none
  names : PieceNames := {}
  length? : Option Nat := none
  /-- The number to begin with, as it was given. -/
  start? : Option String := none
  isVerbose : Bool := false
  /-- No files are made for empty pieces. -/
  leavesEmpty : Bool := false

namespace SplitSettings

def options : OptionTable where
  letters := "0123456789C:a:b:del:n:t:ux"
  words := [("bytes=", "b"), ("lines=", "l"), ("line-bytes=", "C"), ("number=", "n"),
    ("elide-empty-files", "e"), ("unbuffered", "u"), ("suffix-length=", "a"),
    ("additional-suffix=", "additional"), ("numeric-suffixes?", "d"), ("hex-suffixes?", "x"),
    ("filter=", "filter"), ("verbose", "verbose"), ("separator=", "t")]

def suffixes : String := "bEGKkMmPQRTYZ0"

/-- Only one way of cutting may be asked for. -/
def insistOnOneCut (settings : SplitSettings) : Work Unit := do
  if settings.cut?.isSome then Work.misuse "cannot split in more than one way"

def withCut (settings : SplitSettings) (cut : Cut) : Work SplitSettings := do
  return { settings with cut? := some cut }

/-- Digits for the names of pieces, and maybe the number to begin with. -/
def withDigits (settings : SplitSettings) (digits : String) (start? : Option String) :
    SplitSettings :=
  { settings with
    names := { settings.names with alphabet := digits }
    start? := start? <|> settings.start? }

/-- A number that must not be zero. -/
def count (suffixes complaint text : String) : Work Nat := do
  match Quantity.unsigned suffixes text with
  | .ok n =>
    if n = 0 then Work.die (complaint ++ ": " ++ quoted text)
    return n
  | .error .overflow => return Quantity.greatest
  | .error _ => Work.die (complaint ++ ": " ++ quoted text)

/-- A number of pieces: maybe a letter for their kind, maybe the one that is wanted. -/
def readShares (text : String) : Work Cut := do
  let (kind, rest) := match text.toList with
    | 'l' :: '/' :: rest => (ShareKind.lines, rest)
    | 'r' :: '/' :: rest => (.turns, rest)
    | cs => (.octets, cs)
  let first := rest.takeWhile (· != '/')
  match rest.drop first.length with
  | [] => do
    let n ← count "" "invalid number of chunks" (String.ofList rest)
    Work.insistOnBound (1000 * n)
    return .shares kind n none
  | _ :: total => do
    let n ← count "" "invalid number of chunks" (String.ofList total)
    match decimal? (String.ofList first) with
    | some k =>
      if k = 0 || n < k then
        Work.die ("invalid chunk number: " ++ quoted (String.ofList first))
      Work.insistOnBound n
      return .shares kind n (some k)
    | none => Work.die ("invalid chunk number: " ++ quoted (String.ofList first))

def step (settings : SplitSettings) (option : GivenOption) : Work SplitSettings := do
  match option.key with
  | "a" =>
    match decimal? option.value with
    | some n => do
      Work.insistOnBound (1000 * n)
      return { settings with length? := if n = 0 then none else some n }
    | none => Work.die ("invalid suffix length: " ++ quoted option.value)
  | "additional" =>
    if option.value.toList.contains '/' then
      Work.misuse ("invalid suffix " ++ quoted option.value ++ ", contains directory separator")
    return { settings with names := { settings.names with ending := option.value } }
  | "b" => do
    settings.insistOnOneCut
    settings.withCut (.octets (← count suffixes "invalid number of bytes" option.value))
  | "l" => do
    settings.insistOnOneCut
    settings.withCut (.lines (← count "" "invalid number of lines" option.value))
  | "C" => do
    settings.insistOnOneCut
    settings.withCut (.fitting (← count suffixes "invalid number of lines" option.value))
  | "n" => do
    settings.insistOnOneCut
    settings.withCut (← readShares option.value)
  | "t" =>
    let mark ← match option.value.toList with
      | [] => Work.die "empty record separator"
      | ['\\', '0'] => pure '\x00'
      | [c] => pure c
      | _ => Work.die ("multi-character separator " ++ quoted option.value)
    if settings.mark?.any (· != mark) then Work.die "multiple separator characters specified"
    return { settings with mark? := some mark }
  | "d" => return settings.withDigits "0123456789" option.value?
  | "x" => return settings.withDigits "0123456789abcdef" option.value?
  | "e" => return { settings with leavesEmpty := true }
  | "verbose" => return { settings with isVerbose := true }
  | key =>
    if key.toList.all Char.isDigit then
      let n := decimal key.toList
      match settings.cut? with
      | none => return { settings with cut? := some (.lines n) }
      | some (.lines m) => return { settings with cut? := some (.lines (10 * m + n)) }
      | some _ => Work.misuse "cannot split in more than one way"
    else return settings

/-- The names of the pieces, long enough for as many as there will be. -/
def finalNames (settings : SplitSettings) (cut : Cut) : Work PieceNames := do
  let names := settings.names
  let base := names.alphabet.length
  let first ← match settings.start? with
    | none => pure 0
    | some text =>
      if text.toList.all fun c => CharClass.isHexDigit c && Floating.digitValue c < base then
        pure (Floating.ofDigits base text.toList)
      else Work.misuse (quoted text ++ ": invalid start value for numerical suffix")
  let needed := match cut with
    | .shares _ count _ =>
      let last := count - 1 + (if first < count then first else 0)
      if base = 26 then
        ((List.range 64).find? fun n => last < Nat.pow 26 (n + 1)).getD 0 + 1
      else (Nat.toDigits base last).length
    | _ => 0
  let grows := needed = 0 && settings.length?.isNone && settings.start?.isNone
  match settings.length? with
  | some length =>
    if length < needed then
      Work.die ("the suffix length needs to be at least " ++ toString needed)
    return { names with length, grows, first }
  | none =>
    let length := max (max 2 needed) (match settings.start? with
      | some text => text.length
      | none => 0)
    return { names with length, grows, first }

end SplitSettings

/-- Make the files for some pieces. -/
def savePieces (settings : SplitSettings) (names : PieceNames) (source? : Option Nat)
    (pieces : List (List Char)) : Work Unit := do
  let pieces := if settings.leavesEmpty then pieces.filter (!·.isEmpty) else pieces
  pieces.zipIdx.forM fun (piece, n) => do
    match names.name? n with
    | none => Work.die "output file suffixes exhausted"
    | some name =>
      if settings.isVerbose then Work.sayLine ("creating file " ++ shellQuoted name)
      match ← Work.find name with
      | .ok (_, number, node) =>
        if source? == some number && node.isFile then
          Work.die (shellQuoted name ++ " would overwrite input; aborting")
      | .error _ => pure ()
      match ← Work.writeFile name (String.ofList piece) with
      | .ok () => pure ()
      | .error e => Work.die (shellName name ++ ": " ++ e.reason)

/-- `split`: a file in pieces. -/
def splitFile : Tool := do
  let (settings, operands) ← Work.options SplitSettings.options ({} : SplitSettings) SplitSettings.step
  let cut := settings.cut?.getD (.lines 1000)
  match cut with
  | .lines 0 => Work.misuse "invalid number of lines: '0'"
  | _ => pure ()
  match operands with
  | _ :: _ :: extra :: _ => Work.misuse ("extra operand " ++ quoted extra)
  | _ => pure ()
  let settings := match operands[1]? with
    | some beginning => { settings with names := { settings.names with beginning } }
    | none => settings
  let names ← settings.finalNames cut
  let source := operands.headD "-"
  match ← Work.readFile source with
  | .error .isADirectory => Work.die (shellName source ++ ": Is a directory")
  | .error e =>
    Work.die ("cannot open " ++ shellQuoted source ++ " for reading: " ++ e.reason)
  | .ok cs =>
    let pieces := cut.pieces (settings.mark?.getD '\n') cs
    match cut with
    | .shares _ _ (some k) => Work.say (String.ofList (pieces.getD (k - 1) []))
    | _ =>
      let source? := (← Work.source? source).map (·.1)
      savePieces settings names source? pieces

end Tool

end Polyglot
