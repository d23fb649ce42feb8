import Polyglot.Sandbox.Tool.Listing
import Polyglot.Sandbox.Tool.Removing
import Polyglot.Sandbox.Tool.Saying

/-!
# The status of files

`stat`, which tells all about files, and `du`, which adds up what they take.
-/

namespace Polyglot.Tool

/-- The bits of a mode that tell the sort of a node. -/
def kindBits (node : Node) : Nat :=
  match node.kind with
  | .directory => 0o040000
  | .file _ => 0o100000
  | .program _ => 0o100000
  | .link _ => 0o120000
  | .device _ => 0o020000
  | .fifo _ => 0o010000

/-- The letter of the sort of a node. -/
def kindLetter (node : Node) : String :=
  match node.kind with
  | .directory => "d"
  | .link _ => "l"
  | .device _ => "c"
  | .fifo _ => "p"
  | _ => "-"

/-- The number of a device. -/
def deviceNumber (node : Node) : Nat :=
  match node.kind with
  | .device .null => 3
  | .device .zeros => 5
  | .device .full => 7
  | _ => 0

/-- A file about which something is to be told. -/
structure Subject where
  /-- The name as it was given. -/
  name : String
  entry : Entry
  users : List Account
  groups : List Account
  zone : TimeZone

/-- What a directive is to tell: a text, a number or a moment. -/
inductive Statistic where
  | text (text : String)
  | number (n : Int) (base : Nat := 10)
  | moment (time : Int)

namespace Subject

def statistic (subject : Subject) (letter : Char) : Statistic :=
  let entry := subject.entry
  let node := entry.node
  let time (moment : Int) : Statistic :=
    .text (Calendar.formatted subject.zone moment "%Y-%m-%d %H:%M:%S.%N %z")
  match letter with
  | 'n' => .text subject.name
  | 'N' => .text (match node.target? with
    | some target => shellQuoted subject.name ++ " -> " ++ shellQuoted target
    | none => shellQuoted subject.name)
  | 'F' => .text (kindWords node)
  | 's' => .number (if node.isDirectory then 4096 else node.size)
  | 'b' => .number (blockCount node)
  | 'B' => .number 512
  | 'a' => .number node.mode 8
  | 'A' => .text (kindLetter node ++ Mode.lettersOf node.mode)
  | 'f' => .number (kindBits node + node.mode : Nat) 16
  | 'h' => .number entry.links
  | 'i' => .number entry.number
  | 'd' => .number 1
  | 'D' => .number 1 16
  | 'r' => .number 0
  | 'R' => .number 0 16
  | 't' => .number (if deviceNumber node = 0 then 0 else 1) 16
  | 'T' => .number (deviceNumber node) 16
  | 'o' => .number 4096
  | 'u' => .number node.owner
  | 'U' => .text (Account.nameOf subject.users node.owner "UNKNOWN")
  | 'g' => .number node.group
  | 'G' => .text (Account.nameOf subject.groups node.group "UNKNOWN")
  | 'm' => .text "/"
  | 'x' => time node.accessed
  | 'y' => time node.modified
  | 'z' => time node.modified
  | 'w' => time node.modified
  | 'X' => .moment node.accessed
  | 'Y' => .moment node.modified
  | 'Z' => .moment node.modified
  | 'W' => .moment node.modified
  | _ => .text "?"

end Subject

/-- A statistic as a directive lays it out. -/
def Statistic.write (statistic : Statistic) (d : Directive) (hasPrecision : Bool) : List Char :=
  match statistic with
  | .text words => d.text words.toList
  | .number n base =>
    let d := { d with plus := false, blank := false }
    if base = 10 then d.signed n
    else { d with conversion := if base = 8 then 'o' else 'x' }.unsigned n.toNat
  | .moment time =>
    let seconds := Int.fdiv time Calendar.perSecond
    let plain : Directive := { d with precision? := none }
    if !hasPrecision then plain.signed seconds
    else
      let places := d.precision?.getD 9
      let digits := Nat.toDigits 10 (Int.fmod time Calendar.perSecond).toNat
      let digits := List.replicate (9 - digits.length) '0' ++ digits
      let fraction := digits.take places ++ List.replicate (places - 9) '0'
      d.fill d.zeros [] ((toString seconds).toList ++
        if fraction.isEmpty then [] else '.' :: fraction)

/-- A format with all that it asks for; escapes count if `escapes` says so. -/
def statusText (subject : Subject) (escapes : Bool) : (fuel : Nat) → List Char → Work (List Char)
  | 0, _ => return []
  | _, [] => return []
  | fuel + 1, '%' :: '%' :: rest => do
    return '%' :: (← statusText subject escapes fuel rest)
  | fuel + 1, '%' :: cs => do
    let flags := cs.takeWhile ['\'', '-', '+', ' ', '#', '0'].contains
    let width := (cs.drop flags.length).takeWhile Char.isDigit
    let rest := cs.drop (flags.length + width.length)
    let (precision?, rest) := match rest with
      | '.' :: rest =>
        let digits := rest.takeWhile Char.isDigit
        (some (if digits.isEmpty then none else some (decimal digits)), rest.drop digits.length)
      | rest => (none, rest)
    let rest := match rest with
      | 'H' :: c :: rest => c :: rest
      | 'L' :: c :: rest => c :: rest
      | rest => rest
    match rest with
    | [] =>
      if cs.isEmpty then return ['%']
      Work.die (quoted ("%" ++ String.ofList cs) ++ ": invalid directive")
    | letter :: rest =>
      let d := flags.foldl Directive.withFlag { conversion := 'd' }
      let d := { d with width := decimal width, precision? := precision?.bind id }
      let shown := (subject.statistic letter).write d precision?.isSome
      return shown ++ (← statusText subject escapes fuel rest)
  | fuel + 1, '\\' :: rest => do
    if !escapes then return '\\' :: (← statusText subject escapes fuel rest)
    else
      let (c, rest) := match rest with
        | '"' :: rest => ('"', rest)
        | 'x' :: digits =>
          match hexDigits? 2 digits with
          | some (n, rest) => (Char.ofNat n, rest)
          | none => ('\\', 'x' :: digits)
        | rest => Escape.read rest
      return c :: (← statusText subject escapes fuel rest)
  | fuel + 1, c :: rest => do
    return c :: (← statusText subject escapes fuel rest)

def statOptions : OptionTable where
  letters := "c:fLt"
  words := [("cached=", "cached"), ("dereference", "L"), ("file-system", "f"), ("format=", "c"),
    ("printf=", "printf"), ("terse", "t")]

/-- All about a file, on several lines. -/
def fullStatus (entry : Entry) : String :=
  let device := match entry.node.kind with
    | .device _ => " Device type: %t,%T"
    | _ => ""
  "  File: %N\n  Size: %-10s\tBlocks: %-10b IO Block: %-6o %F\n" ++
    "Device: %Hd,%Ld\tInode: %-10i  Links: %-5h" ++ device ++ "\n" ++
    "Access: (%04a/%10.10A)  Uid: (%5u/%8U)   Gid: (%5g/%8G)\n" ++
    "Access: %x\nModify: %y\nChange: %z\n Birth: %w\n"

/-- `stat`: all about files. -/
def tellStatus : Tool := do
  let (options, operands) ← Work.optionList statOptions
  let has (key : String) := options.any (·.key == key)
  if operands.isEmpty then Work.misuse "missing operand"
  let format? := (options.filter fun o => o.key == "c" || o.key == "printf").getLast?
  let escapes := (format?.map (·.key)) == some "printf"
  let users ← Work.users
  let groups ← Work.groups
  let zone ← timeZone
  let tree ← Work.getTree
  let settings : ListSettings := { follows := has "L" }
  operands.forM fun name => do
    match ← Work.find name (has "L") with
    | .error e =>
      Work.fault ((if has "f" then "cannot read file system information for "
        else "cannot statx ") ++ shellQuoted name ++ ": " ++ e.reason)
    | .ok (place, _, _) =>
      match settings.entry tree place name true with
      | none => pure ()
      | some entry =>
        let format := match format? with
          | some option => option.value
          | none =>
            if has "t" then "%n %s %b %f %u %g %D %i %h %t %T %X %Y %Z %W %o\n"
            else fullStatus entry
        let shown := if format?.isNone && !has "t" then
          format.replace "%N" (match entry.node.target? with
            | some target => name ++ " -> " ++ target
            | none => name) else format
        let subject : Subject := { name, entry, users, groups, zone }
        Work.insistOnWidths shown
        let text ← statusText subject escapes (shown.length + 1) shown.toList
        Work.say (String.ofList text ++ if format?.isSome && !escapes then "\n" else "")

/-! ## What files take -/

def duOptions : OptionTable where
  letters := "0abd:chHklmst:xB:DLPSX:"
  words := [("all", "a"), ("apparent-size", "apparent"), ("block-size=", "B"), ("bytes", "b"),
    ("count-links", "l"), ("dereference", "L"), ("dereference-args", "D"), ("exclude=", "exclude"),
    ("exclude-from=", "X"), ("human-readable", "h"), ("inodes", "inodes"), ("si", "si"),
    ("max-depth=", "d"), ("null", "0"), ("no-dereference", "P"), ("one-file-system", "x"),
    ("separate-dirs", "S"), ("summarize", "s"), ("total", "c"), ("threshold=", "t"),
    ("time?", "time"), ("time-style=", "style")]

structure UsageSettings where
  all : Bool := false
  apparent : Bool := false
  /-- The size that counts as one. -/
  unit : Nat := 1024
  scale? : Option Nat := none
  deepest? : Option Nat := none
  total : Bool := false
  mark : String := "\n"

namespace UsageSettings

def step (settings : UsageSettings) (option : GivenOption) : Work UsageSettings := do
  match option.key with
  | "a" => return { settings with all := true }
  | "apparent" => return { settings with apparent := true }
  | "b" => return { settings with apparent := true, unit := 1 }
  | "B" =>
    return { settings with
      unit := ← Work.quantity "eEgGkKmMpPtTyYzZ0" "invalid --block-size argument" option.value 1 }
  | "c" => return { settings with total := true }
  | "d" =>
    match decimal? option.value with
    | some n => return { settings with deepest? := some n }
    | none => Work.misuse ("invalid maximum depth " ++ quoted option.value)
  | "h" => return { settings with scale? := some 1024 }
  | "si" => return { settings with scale? := some 1000 }
  | "k" => return { settings with unit := 1024, scale? := none }
  | "m" => return { settings with unit := 1048576, scale? := none }
  | "s" => return { settings with deepest? := some 0 }
  | "0" => return { settings with mark := "\x00" }
  | _ => return settings

def sizeOf (settings : UsageSettings) (node : Node) : Nat :=
  if settings.apparent then node.size else blockCount node * 512

def line (settings : UsageSettings) (size : Nat) (name : String) : Work Unit :=
  let text := match settings.scale? with
    | some base => scaledSize base size
    | none => toString ((size + settings.unit - 1) / settings.unit)
  Work.say (text ++ "\t" ++ name ++ settings.mark)

/-- What a node takes with all below it; that is told as far down as wanted. -/
def add (settings : UsageSettings) (tree : FileTree) :
    (fuel depth : Nat) → String → Path → Work Nat
  | 0, _, _, _ => return 0
  | fuel + 1, depth, name, place => do
    match tree.node? place with
    | none => return 0
    | some node => do
      let below ← (tree.namesIn place).mapM fun child =>
        settings.add tree fuel (depth + 1) (PathName.inside name child) (place ++ [child])
      let size := below.foldl (· + ·) (settings.sizeOf node)
      let isNear := settings.deepest?.all (depth ≤ ·)
      if isNear && (node.isDirectory || settings.all || depth = 0) then settings.line size name
      return size

end UsageSettings

/-- `du`: what files take. -/
def tellUsage : Tool := do
  let (settings, operands) ← Work.options duOptions ({} : UsageSettings) UsageSettings.step
  let operands := if operands.isEmpty then ["."] else operands
  let tree ← Work.getTree
  let sizes ← operands.mapM fun operand => do
    match ← Work.find operand false with
    | .error e => do
      Work.fault ("cannot access " ++ shellQuoted operand ++ ": " ++ e.reason)
      pure 0
    | .ok (place, _, _) => settings.add tree 4096 0 operand place
  if settings.total then settings.line (sizes.foldl (· + ·) 0) "total"

end Polyglot.Tool
