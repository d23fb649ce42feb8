import Polyglot.Sandbox.Tool.Options
import Polyglot.Sandbox.Tool.SortKey

/-!
# Sorting

`sort`: lines in order. Lines whose keys are the same are put in the order of all their characters,
unless they are to stay as they came.
-/

namespace Polyglot.Tool

structure SortSettings where
  keys : List SortKey := []
  /-- How lines are compared if no key says so. -/
  order : SortOrder := {}
  unique : Bool := false
  stable : Bool := false
  merges : Bool := false
  /-- Whether the order is only looked at: a `c` tells of a fault, a `C` does not. -/
  check? : Option Char := none
  separator? : Option Char := none
  mark : Char := '\n'
  output? : Option String := none
  sources? : Option String := none

namespace SortSettings

def options : OptionTable where
  letters := "bcCdfghik:mMno:rRsS:t:T:uVy:z"
  words := [("ignore-leading-blanks", "b"), ("check?", "check"), ("compress-program=", "program"),
    ("debug", "debug"), ("dictionary-order", "d"), ("ignore-case", "f"),
    ("files0-from=", "files"), ("general-numeric-sort", "g"), ("ignore-nonprinting", "i"),
    ("key=", "k"), ("merge", "m"), ("month-sort", "M"), ("numeric-sort", "n"),
    ("human-numeric-sort", "h"), ("version-sort", "V"), ("random-sort", "R"),
    ("random-source=", "source"), ("sort=", "sort"), ("output=", "o"), ("reverse", "r"),
    ("stable", "s"), ("batch-size=", "batch"), ("buffer-size=", "S"), ("field-separator=", "t"),
    ("temporary-directory=", "T"), ("unique", "u"), ("zero-terminated", "z"),
    ("parallel=", "parallel")]
  misuseCode := 2

def checkChoices : Choices Char := [
  (["quiet", "silent"], 'C'), (["diagnose-first"], 'c')]

def sortChoices : Choices Char := [
  (["general-numeric"], 'g'), (["human-numeric"], 'h'), (["month"], 'M'), (["numeric"], 'n'),
  (["random"], 'R'), (["version"], 'V')]

def stop {α : Type} (text : String) : Work α :=
  Work.die text 2

def incompatible {α : Type} (letters : String) : Work α :=
  stop ("options '-" ++ letters ++ "' are incompatible")

def withCheck (settings : SortSettings) (c : Char) : Work SortSettings := do
  match settings.check? with
  | some d => if c == d then return settings else incompatible "cC"
  | none => return { settings with check? := some c }

def withSeparator (settings : SortSettings) (text : String) : Work SortSettings := do
  let separator ← match text.toList with
    | [] => stop "empty tab"
    | [c] => pure c
    | ['\\', '0'] => pure '\x00'
    | _ => stop ("multi-character tab " ++ quoted text)
  match settings.separator? with
  | some old => if old == separator then return settings else stop "incompatible tabs"
  | none => return { settings with separator? := some separator }

def step (settings : SortSettings) (option : GivenOption) : Work SortSettings := do
  let value := option.value
  match option.key with
  | "b" =>
    return { settings with
      order := { settings.order with skipsBlanks := true, skipsEndBlanks := true } }
  | "c" => settings.withCheck 'c'
  | "C" => settings.withCheck 'C'
  | "check" =>
    match option.value? with
    | none => settings.withCheck 'c'
    | some text => do settings.withCheck (← Work.choice "--check" text checkChoices 2)
  | "k" =>
    match SortKey.read value with
    | .ok key => return { settings with keys := settings.keys ++ [key] }
    | .error message => stop message
  | "m" => return { settings with merges := true }
  | "o" =>
    if settings.output?.any (· != value) then stop "multiple output files specified"
    return { settings with output? := some value }
  | "s" => return { settings with stable := true }
  | "S" => do
    match Quantity.unsigned "bEgGkKmMPQRtTYZ%" value with
    | .error .malformed => stop ("invalid -S argument " ++ quoted value)
    | .error .suffix => stop ("invalid suffix in -S argument " ++ quoted value)
    | _ => return settings
  | "sort" => do
    let letter ← Work.choice "--sort" value sortChoices 2
    return { settings with order := (settings.order.withLetter? letter).getD settings.order }
  | "t" => settings.withSeparator value
  | "u" => return { settings with unique := true }
  | "z" => return { settings with mark := '\x00' }
  | "files" => return { settings with sources? := some value }
  | "batch" => do
    match decimal? value with
    | some n =>
      if n < 2 then
        Work.complain ("invalid --batch-size argument " ++ quoted value)
        stop "minimum --batch-size argument is '2'"
      else return settings
    | none => stop ("invalid --batch-size argument " ++ quoted value)
  | "parallel" => do
    match decimal? value with
    | some 0 => stop "number in parallel must be nonzero"
    | some _ => return settings
    | none => stop ("invalid --parallel argument " ++ quoted value)
  | letter =>
    let order? := letter.toList.head?.bind settings.order.withLetter?
    return { settings with order := order?.getD settings.order }

/-- The keys that count: those without an order of their own have the general one, and if there are
none the whole line is one. -/
def finalKeys (settings : SortSettings) : List SortKey :=
  let inherit (key : SortKey) : SortKey :=
    if key.order.isPlain && !key.order.reversed then { key with order := settings.order } else key
  if settings.keys.isEmpty then
    if settings.order.isPlain then [] else [{ order := settings.order }]
  else settings.keys.map inherit

/-! ## Comparing -/

/-- A line with the parts of it that count. -/
structure SortLine where
  line : List Char
  parts : List (List Char)

def prepare (settings : SortSettings) (keys : List SortKey) (line : List Char) : SortLine :=
  ⟨line, keys.map fun key => key.part settings.separator? line⟩

def compareKeys : List SortKey → List (List Char) → List (List Char) → Ordering
  | key :: keys, a :: as, b :: bs => (key.order.compareParts a b).then (compareKeys keys as bs)
  | _, _, _ => .eq

def compare (settings : SortSettings) (keys : List SortKey) (a b : SortLine) : Ordering :=
  let byKeys := compareKeys keys a.parts b.parts
  if !keys.isEmpty && (byKeys != .eq || settings.unique || settings.stable) then byKeys
  else
    let whole := SortOrder.compareTexts a.line b.line
    if settings.order.reversed then whole.swap else whole

/-- Of equal lines that follow one another only the first. -/
def withoutRepeats (equal : SortLine → SortLine → Bool) : List SortLine → List SortLine
  | [] => []
  | [line] => [line]
  | a :: b :: rest =>
    if equal a b then withoutRepeats equal (a :: rest) else a :: withoutRepeats equal (b :: rest)
termination_by lines => lines.length

/-- Lines of which each is less than all others that could come next; of equal ones that of the
first source. -/
def merge (before : SortLine → SortLine → Bool) : (fuel : Nat) → List (List SortLine) →
    List SortLine
  | 0, _ => []
  | fuel + 1, sources =>
    let sources := sources.filter (!·.isEmpty)
    let best? := sources.zipIdx.foldl
      (fun (best? : Option (SortLine × Nat)) (source, i) =>
        match source.head?, best? with
        | some line, some (best, j) => if before line best then some (line, i) else some (best, j)
        | some line, none => some (line, i)
        | none, best? => best?)
      none
    match best? with
    | none => []
    | some (line, i) =>
      line :: merge before fuel (sources.zipIdx.map fun (source, j) =>
        if i == j then source.tail else source)

/-- The first line that is out of order, and its number. -/
def disorder? (isBad : SortLine → SortLine → Bool) : Nat → List SortLine → Option (Nat × SortLine)
  | n, a :: b :: rest =>
    if isBad a b then some (n + 1, b) else disorder? isBad (n + 1) (b :: rest)
  | _, _ => none

end SortSettings

/-- The text of the standard input or a file, or the complaint that it cannot be had. -/
def sortSource (operand : String) (complaint : String := "cannot read") : Work (List Char) := do
  match ← Work.readFile operand with
  | .ok cs => return cs
  | .error e =>
    let complaint := if e = .isADirectory || operand == "-" then "read failed" else complaint
    Work.die (complaint ++ ": " ++ shellName operand ++ ": " ++ e.reason) 2

/-- The names of the files to sort, out of a file. -/
def sortNames (source : String) : Work (List String) := do
  match ← Work.readFile source with
  | .error .isADirectory =>
    Work.die ("read failed: " ++ shellName source ++ ": Is a directory") 2
  | .error e => Work.die ("open failed: " ++ shellName source ++ ": " ++ e.reason) 2
  | .ok cs =>
    let names := textPieces '\x00' cs
    if names.isEmpty then Work.die ("no input from " ++ shellQuoted source) 2
    match names.findIdx? (·.isEmpty) with
    | some n =>
      Work.die (source ++ ":" ++ toString (n + 1) ++ ": invalid zero-length file name") 2
    | none => return names.map String.ofList

/-- A key in the old way of writing: fields and characters before it, after a plus sign. -/
def oldKey? (start : String) (finish? : Option String) : Option SortKey := do
  let readPlace (cs : List Char) : Option (Nat × Nat × List Char) :=
    let field := cs.takeWhile Char.isDigit
    let rest := cs.drop field.length
    match rest with
    | '.' :: more =>
      let char := more.takeWhile Char.isDigit
      some (decimal field, decimal char, more.drop char.length)
    | rest => some (decimal field, 0, rest)
  let cs ← match start.toList with
    | '+' :: c :: rest => if c.isDigit then some (c :: rest) else none
    | _ => none
  let (field, char, rest) ← readPlace cs
  let (order, rest) := ({} : SortOrder).withLetters false rest
  if !rest.isEmpty then none
  let key : SortKey := { startField := field, startChar := char, order }
  match finish? with
  | none => some key
  | some finish =>
    let (field, char, rest) ← readPlace (finish.toList.drop 1)
    let (order, rest) := order.withLetters true rest
    if !rest.isEmpty then none
    else if char = 0 && field = 0 then some { key with endField? := some 0, endChar := 0, order }
    else if char = 0 then some { key with endField? := some (field - 1), endChar := 0, order }
    else some { key with endField? := some field, endChar := char, order }

/-- Keys in the old way of writing among the arguments in front, and the arguments without them. -/
def withoutOldKeys : List String → List SortKey × List String
  | [] => ([], [])
  | "--" :: rest => ([], "--" :: rest)
  | start :: rest =>
    let finish? := rest.head?.bind fun next =>
      match next.toList with
      | '-' :: c :: _ => if c.isDigit then some next else none
      | _ => none
    match oldKey? start finish? with
    | some key =>
      match rest, finish? with
      | _ :: rest, some _ =>
        let (keys, rest) := withoutOldKeys rest
        (key :: keys, rest)
      | rest, _ =>
        let (keys, rest) := withoutOldKeys rest
        (key :: keys, rest)
    | none =>
      let (keys, rest) := withoutOldKeys rest
      (keys, start :: rest)

/-- `sort`: lines in order. -/
def sortLines : Tool := do
  let (oldKeys, arguments) := withoutOldKeys (← read).arguments
  let (settings, operands) ← Work.optionsOf SortSettings.options arguments
    ({ keys := oldKeys } : SortSettings) SortSettings.step
  let keys := settings.finalKeys
  match (keys.filterMap fun key => key.order.conflict?).head? with
  | some letters => SortSettings.incompatible letters
  | none => pure ()
  let operands ← match settings.sources? with
    | none => pure operands
    | some source => do
      match operands with
      | extra :: _ =>
        Work.complain ("extra operand " ++ quoted extra)
        Work.murmur "file operands cannot be combined with --files0-from\n"
        Work.hint
        Work.exit 2
      | [] => sortNames source
  let operands := if operands.isEmpty then ["-"] else operands
  let pieces (cs : List Char) : List SortSettings.SortLine :=
    (textPieces settings.mark cs).map (settings.prepare keys)
  let order (a b : SortSettings.SortLine) : Ordering := settings.compare keys a b
  match settings.check?, operands with
  | some letter, [source] => do
    if settings.output?.isSome then
      SortSettings.incompatible (String.singleton letter ++ "o")
    let isBad (a b : SortSettings.SortLine) : Bool :=
      if settings.unique then order a b != .lt else order a b == .gt
    match SortSettings.disorder? isBad 1 (pieces (← sortSource source "open failed")) with
    | none => pure ()
    | some (n, line) =>
      if letter == 'c' then
        Work.complain (source ++ ":" ++ toString n ++ ": disorder: " ++ String.ofList line.line)
      Work.setCode 1
  | some letter, _ =>
    SortSettings.stop ("extra operand " ++ quoted ((operands[1]?).getD "") ++
      " not allowed with -" ++ String.singleton letter)
  | none, _ => do
    let tree ← Work.getTree
    let here := (← read).directory
    if !settings.merges then
      match operands.find? fun operand => operand != "-" &&
          (tree.look? here operand).isNone with
      | some missing => discard <| sortSource missing
      | none => pure ()
    let sources ← operands.mapM fun operand => do
      return pieces (← sortSource operand)
    let lines := if settings.merges then
        SortSettings.merge (fun a b => order a b == .lt)
          ((sources.map List.length).foldl (· + ·) 1) sources
      else sources.flatten.mergeSort fun a b => order a b != .gt
    let lines := if settings.unique then
        SortSettings.withoutRepeats (fun a b => order a b == .eq) lines
      else lines
    let text := String.ofList (lines.flatMap fun line => line.line ++ [settings.mark])
    match settings.output? with
    | none => Work.say text
    | some path =>
      match ← Work.writeFile path text with
      | .ok () => pure ()
      | .error e => Work.die ("open failed: " ++ shellName path ++ ": " ++ e.reason) 2

end Polyglot.Tool
