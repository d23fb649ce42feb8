import Polyglot.Sandbox.FileTree.Mode
import Polyglot.Sandbox.Script.Wildcard
import Polyglot.Sandbox.Tool.Identity
import Polyglot.Sandbox.Tool.Moment
import Polyglot.Sandbox.Tool.PathName
import Polyglot.Sandbox.VersionOrder

/-!
# Listing files

`ls` and its like: names in order, one on a line or in columns, with as much about the files as
wanted.
-/

namespace Polyglot.Tool

/-! ## Sizes -/

/-- The letters of the powers of the base. -/
def scaleLetters : List Char :=
  ['K', 'M', 'G', 'T', 'P', 'E', 'Z', 'Y', 'R', 'Q']

/-- A size with a letter, rounded up; below ten there is one decimal. -/
def scaledSize (base n : Nat) : String :=
  let rec scale : List Char → (unit : Nat) → String
    | [], unit => toString (n / unit)
    | letter :: letters, unit =>
      let unit := unit * base
      let tenths := (10 * n + unit - 1) / unit
      let whole := (n + unit - 1) / unit
      let shown := if base = 1000 && letter == 'K' then 'k' else letter
      if tenths < 100 then
        toString (tenths / 10) ++ "." ++ toString (tenths % 10) ++ String.singleton shown
      else if whole < base then toString whole ++ String.singleton shown
      else scale letters unit
  if n < base then toString n else scale scaleLetters 1

/-- The blocks of 512 octets that a node takes. -/
def blockCount (node : Node) : Nat :=
  match node.kind with
  | .directory => 8
  | .file content => (content.length + 4095) / 4096 * 8
  | .program _ => 64
  | _ => 0

/-! ## Settings -/

inductive ListFormat where
  | one
  | long
  | columns
  | rows
  | commas
deriving DecidableEq, Repr

inductive ListOrder where
  | name
  | time
  | size
  | ending
  | version
  | width
  | none
deriving DecidableEq, Repr

inductive NameStyle where
  | literal
  | escaped
  | inQuotes
  | shell
  | shellAlways
  /-- As the shell's quotes, but control characters are shown as they are. -/
  | rawShell
  | rawShellAlways
deriving DecidableEq, Repr

/-- What is put behind names to tell what they are. -/
inductive Indicators where
  | nothing
  | slashes
  | kinds
  | all
deriving DecidableEq, Repr

structure ListSettings where
  format : ListFormat := .one
  /-- The order that was asked for. -/
  order? : Option ListOrder := none
  /-- A time was asked for, which is the order too unless the list is long. -/
  asksForTime : Bool := false
  reversed : Bool := false
  all : Bool := false
  almostAll : Bool := false
  directoriesThemselves : Bool := false
  directoriesFirst : Bool := false
  recursive : Bool := false
  numbers : Bool := false
  blocks : Bool := false
  numeric : Bool := false
  showsOwner : Bool := true
  showsGroup : Bool := true
  showsAuthor : Bool := false
  /-- Sizes have letters; this is the base. -/
  scale? : Option Nat := none
  byAccess : Bool := false
  /-- How times are written: recent ones and others. -/
  times : String × String := ("%b %e %H:%M", "%b %e  %Y")
  style : NameStyle := .literal
  hidesControls : Bool := false
  indicators : Indicators := .nothing
  follows : Bool := false
  followsOperands : Bool := false
  width : Nat := 80
  tab : Nat := 8
  ignored : List String := []
  hidden : List String := []
  mark : String := "\n"
  colors : Bool := false
  users : List Account := []
  groups : List Account := []

def lsOptions : OptionTable where
  letters := "abcdfghiklmnopqrstuvw:xABCDFGHI:LNQRST:UXZ1"
  words := [("all", "a"), ("escape", "b"), ("directory", "d"), ("dired", "D"),
    ("full-time", "full-time"), ("group-directories-first", "directories"),
    ("human-readable", "h"), ("inode", "i"), ("kibibytes", "k"), ("numeric-uid-gid", "n"),
    ("no-group", "G"), ("hide-control-chars", "q"), ("reverse", "r"), ("size", "s"),
    ("width=", "w"), ("almost-all", "A"), ("ignore-backups", "B"), ("classify?", "classify"),
    ("file-type", "file-type"), ("si", "si"), ("dereference-command-line", "H"),
    ("dereference-command-line-symlink-to-dir", "H"), ("hide=", "hide"), ("ignore=", "I"),
    ("indicator-style=", "indicator"), ("dereference", "L"), ("literal", "N"),
    ("quote-name", "Q"), ("quoting-style=", "style"), ("recursive", "R"), ("format=", "format"),
    ("show-control-chars", "show"), ("sort=", "sort"), ("tabsize=", "T"), ("time=", "time"),
    ("time-style=", "time-style"), ("zero", "zero"), ("color?", "color"),
    ("hyperlink?", "hyperlink"), ("block-size=", "block"), ("context", "Z"), ("author", "author")]
  misuseCode := 2

namespace ListSettings

def formats : Choices ListFormat := [
  (["verbose", "long"], .long), (["commas"], .commas), (["horizontal", "across"], .rows),
  (["vertical"], .columns), (["single-column"], .one)]

def orders : Choices ListOrder := [
  (["none"], .none), (["time"], .time), (["size"], .size), (["extension"], .ending),
  (["version"], .version), (["name"], .name), (["width"], .width)]

def timeChoices : Choices Bool := [
  (["atime", "access", "use"], true), (["ctime", "status"], false),
  (["mtime", "modification"], false), (["birth", "creation"], false)]

def styles : Choices NameStyle := [
  (["literal"], .literal), (["shell"], .rawShell), (["shell-always"], .rawShellAlways),
  (["shell-escape"], .shell), (["shell-escape-always"], .shellAlways), (["c"], .inQuotes),
  (["c-maybe"], .escaped), (["escape"], .escaped), (["locale"], .inQuotes),
  (["clocale"], .inQuotes)]

def indicatorChoices : Choices Indicators := [
  (["none"], .nothing), (["slash"], .slashes), (["file-type"], .kinds), (["classify"], .all)]

def whenChoices : Choices Bool := [
  (["always", "yes", "force"], true), (["never", "no", "none"], false),
  (["auto", "tty", "if-tty"], false)]

/-- The formats of times that have a name. -/
def namedTimes? : String → Option (String × String)
  | "full-iso" => some ("%Y-%m-%d %H:%M:%S.%N %z", "%Y-%m-%d %H:%M:%S.%N %z")
  | "long-iso" => some ("%Y-%m-%d %H:%M", "%Y-%m-%d %H:%M")
  | "iso" => some ("%m-%d %H:%M", "%Y-%m-%d ")
  | "locale" => some ("%b %e %H:%M", "%b %e  %Y")
  | _ => none

def withTimeStyle (settings : ListSettings) (text : String) : Work ListSettings := do
  let bare := if text.startsWith "posix-" then (text.drop 6).toString else text
  if text.startsWith "+" then
    let format := (text.drop 1).toString
    Work.insistOnWidths format
    return { settings with times := (format, format) }
  else match namedTimes? bare with
    | some times => return { settings with times }
    | none => do
      Work.complain ("invalid argument " ++ quoted text ++ " for 'time style'")
      Work.murmur ("Valid arguments are:\n  - [posix-]full-iso\n  - [posix-]long-iso\n" ++
        "  - [posix-]iso\n  - [posix-]locale\n  - +FORMAT (e.g., +%H:%M) for a 'date'-style " ++
        "format\n")
      Work.hint
      Work.exit 2

def withLong (settings : ListSettings) : ListSettings :=
  { settings with format := .long }

/-- One of the times of files is shown in long lists, and otherwise sorted by. -/
def byTime (settings : ListSettings) (byAccess : Bool) : ListSettings :=
  { settings with byAccess, asksForTime := true }

def order (settings : ListSettings) : ListOrder :=
  settings.order?.getD
    (if settings.format != .long && settings.asksForTime then .time else .name)

/-- Is more to be known of files than the directory tells? -/
def looksAtNodes (settings : ListSettings) : Bool :=
  settings.format = .long || settings.order = .time || settings.order = .size ||
    settings.blocks || settings.numbers || settings.recursive || settings.colors ||
    settings.indicators != .nothing || settings.directoriesFirst

def step (settings : ListSettings) (option : GivenOption) : Work ListSettings := do
  let value := option.value
  match option.key with
  | "a" => return { settings with all := true }
  | "A" => return { settings with almostAll := true, all := false }
  | "b" => return { settings with style := .escaped }
  | "B" => return { settings with ignored := "*~" :: ".*~" :: settings.ignored }
  | "c" => return settings.byTime false
  | "C" => return { settings with format := .columns }
  | "d" => return { settings with directoriesThemselves := true }
  | "f" => return { settings with all := true, order? := some .none }
  | "F" => return { settings with indicators := .all }
  | "classify" => do
    let on ← match option.value? with
      | some text => Work.choice "--classify" text whenChoices 2
      | none => pure true
    return if on then { settings with indicators := .all } else settings
  | "file-type" => return { settings with indicators := .kinds }
  | "indicator" =>
    return { settings with indicators := ← Work.choice "--indicator-style" value indicatorChoices 2 }
  | "g" => return { settings.withLong with showsOwner := false }
  | "G" => return { settings with showsGroup := false }
  | "h" => return { settings with scale? := some 1024 }
  | "si" => return { settings with scale? := some 1000 }
  | "H" => return { settings with followsOperands := true }
  | "i" => return { settings with numbers := true }
  | "I" => return { settings with ignored := value :: settings.ignored }
  | "hide" => return { settings with hidden := value :: settings.hidden }
  | "l" => return settings.withLong
  | "L" => return { settings with follows := true }
  | "m" => return { settings with format := .commas }
  | "n" => return { settings.withLong with numeric := true }
  | "N" => return { settings with style := .literal }
  | "o" => return { settings.withLong with showsGroup := false }
  | "p" => return { settings with indicators := .slashes }
  | "q" => return { settings with hidesControls := true }
  | "show" => return { settings with hidesControls := false }
  | "Q" => return { settings with style := .inQuotes }
  | "style" => return { settings with style := ← Work.choice "--quoting-style" value styles 2 }
  | "r" => return { settings with reversed := true }
  | "R" => return { settings with recursive := true }
  | "s" => return { settings with blocks := true }
  | "S" => return { settings with order? := some .size }
  | "sort" => return { settings with order? := some (← Work.choice "--sort" value orders 2) }
  | "t" => return { settings with order? := some .time }
  | "time" => return settings.byTime (← Work.choice "--time" value timeChoices 2)
  | "time-style" => settings.withTimeStyle value
  | "full-time" => settings.withLong.withTimeStyle "full-iso"
  | "T" => do
    match decimal? value with
    | some tab => return { settings with tab }
    | none => Work.die ("invalid tab size: " ++ quoted value) 2
  | "u" => return settings.byTime true
  | "U" => return { settings with order? := some .none }
  | "v" => return { settings with order? := some .version }
  | "w" => do
    match decimal? value with
    | some width => return { settings with width }
    | none => Work.die ("invalid line width: " ++ quoted value) 2
  | "x" => return { settings with format := .rows }
  | "X" => return { settings with order? := some .ending }
  | "1" => return { settings with
      format := if settings.format = .long then .long else .one }
  | "format" => return { settings with format := ← Work.choice "--format" value formats 2 }
  | "color" => do
    let colors ← match option.value? with
      | some text => Work.choice "--color" text whenChoices 2
      | none => pure true
    return { settings with colors }
  | "zero" =>
    let format := if settings.format = .long then .long else .one
    return { settings with mark := "\x00", style := .literal, colors := false, format }
  | "directories" => return { settings with directoriesFirst := true }
  | "author" => return { settings with showsAuthor := true }
  | _ => return settings

end ListSettings

/-! ## Entries -/

/-- A name with its node. -/
structure Entry where
  /-- The name as it is shown. -/
  name : String
  number : Nat
  node : Node
  links : Nat := 1
  /-- What the name leads to if it is a link. -/
  target? : Option Node := none
  /-- Nothing could be found out about the file. -/
  isUnknown : Bool := false

namespace Entry

/-- What is known of an entry, as text. -/
def told (entry : Entry) (text : String) : String :=
  if entry.isUnknown then "?" else text

def blocks (entry : Entry) : Nat :=
  if entry.isUnknown then 0 else blockCount entry.node

def leadsToDirectory (entry : Entry) : Bool :=
  entry.node.isDirectory || (entry.target?.map Node.isDirectory).getD false

/-- What follows the last point of a name, if something stands before that. -/
def ending (name : String) : List Char :=
  let cs := name.toList
  let after := cs.reverse.takeWhile (· != '.')
  if after.length < cs.length then '.' :: after.reverse else []

end Entry

namespace ListSettings

def timeOf (settings : ListSettings) (node : Node) : Int :=
  if settings.byAccess then node.accessed else node.modified

/-- Does one entry come before another? -/
def precedes (settings : ListSettings) (a b : Entry) : Bool :=
  let byName := compare a.name b.name
  let order := match settings.order with
    | .name => byName
    | .time => (compare (settings.timeOf b.node) (settings.timeOf a.node)).then byName
    | .size => (compare b.node.size a.node.size).then byName
    | .ending => (compare (Entry.ending a.name) (Entry.ending b.name)).then byName
    | .version => (VersionOrder.order a.name.toList b.name.toList).then byName
    | .width => (compare a.name.length b.name.length).then byName
    | .none => .eq
  if settings.order = .none then true
  else if settings.reversed then order != .lt else order != .gt

def sorted (settings : ListSettings) (entries : List Entry) : List Entry :=
  let entries := entries.mergeSort settings.precedes
  if settings.directoriesFirst then
    entries.filter Entry.leadsToDirectory ++ entries.filter (!·.leadsToDirectory)
  else entries

/-- The shell's quotes around a name in which nothing is escaped. -/
def rawQuoted (name : String) : String :=
  let cs := name.toList
  if cs.contains '\'' && cs.all isPlainInside then "\"" ++ name ++ "\""
  else "'" ++ String.ofList (cs.flatMap fun c => if c == '\'' then "'\\''".toList else [c]) ++ "'"

/-- A name as it is shown. -/
def shownName (settings : ListSettings) (name : String) : String :=
  let masked (cs : String) : String := if settings.hidesControls
    then String.ofList (cs.toList.map fun c => if isPrintable c then c else '?') else cs
  let escape (special : List Char) : String := String.ofList (name.toList.flatMap fun c =>
    if special.contains c then ['\\', c] else if isPrintable c then [c] else backslashed c)
  match settings.style with
  | .literal => masked name
  | .escaped => escape ['\\', ' ']
  | .inQuotes => "\"" ++ escape ['\\', '"'] ++ "\""
  | .shell => masked (shellWord name)
  | .shellAlways => masked (shellQuoted name)
  | .rawShell => if needsQuotes false name then masked (rawQuoted name) else name
  | .rawShellAlways => masked (rawQuoted name)

/-- The sign behind a name. -/
def indicator (settings : ListSettings) (node : Node) : String :=
  match node.kind with
  | .directory => if settings.indicators = .nothing then "" else "/"
  | .link _ =>
    if settings.indicators = .nothing || settings.indicators = .slashes then "" else "@"
  | .fifo _ =>
    if settings.indicators = .nothing || settings.indicators = .slashes then "" else "|"
  | _ => if settings.indicators = .all && node.isExecutable then "*" else ""

/-- The color of a name, as the number in its control sequence. -/
def colorOf (node : Node) : Option String :=
  let has (bits : Nat) := node.mode &&& bits == bits
  match node.kind with
  | .directory =>
    some (if has 0o1002 then "30;42" else if has 0o0002 then "34;42"
      else if has 0o1000 then "37;44" else "01;34")
  | .link _ => some "01;36"
  | .fifo _ => some "33"
  | .device _ => some "01;33"
  | _ =>
    if has 0o4000 then some "37;41" else if has 0o2000 then some "30;43"
    else if node.isExecutable then some "01;32" else none

end ListSettings

/-! ## Showing entries -/

/-- A name with its length on the screen and all that belongs to it. -/
structure ShownEntry where
  text : String
  width : Nat

/-- What is known of a group of entries before they are shown. -/
structure ListWidths where
  number : Nat := 0
  blocks : Nat := 0
  links : Nat := 0
  owner : Nat := 0
  group : Nat := 0
  size : Nat := 0

/-- Listing remembers whether anything has been coloured. -/
abbrev Listing := StateT Bool Work

namespace ListSettings

def put (text : String) : Listing Unit :=
  StateT.lift (Work.say text)

def ownerText (settings : ListSettings) (n : Nat) : String :=
  if settings.numeric then toString n else Account.nameOf settings.users n

def groupText (settings : ListSettings) (n : Nat) : String :=
  if settings.numeric then toString n else Account.nameOf settings.groups n

def sizeText (settings : ListSettings) (node : Node) : String :=
  match node.kind with
  | .device .null => "1, 3"
  | .device .zeros => "1, 5"
  | .device .full => "1, 7"
  | _ => match settings.scale? with
    | some base => scaledSize base node.size
    | none => toString node.size

def blocksText (settings : ListSettings) (blocks : Nat) : String :=
  match settings.scale? with
  | some base => scaledSize base (blocks * 512)
  | none => toString ((blocks + 1) / 2)

def widths (settings : ListSettings) (entries : List Entry) : ListWidths :=
  let entries := entries.filter (!·.isUnknown)
  let most (f : Entry → String) : Nat := (entries.map fun entry => (f entry).length).foldl max 0
  { number := most fun entry => toString entry.number
    blocks := most fun entry => settings.blocksText (blockCount entry.node)
    links := most fun entry => toString entry.links
    owner := most fun entry => settings.ownerText entry.node.owner
    group := most fun entry => settings.groupText entry.node.group
    size := most fun entry => settings.sizeText entry.node }

def padLeft (width : Nat) (text : String) : String :=
  String.ofList (List.replicate (width - text.length) ' ') ++ text

def padRight (width : Nat) (text : String) : String :=
  text ++ String.ofList (List.replicate (width - text.length) ' ')

/-- A name in its color. -/
def colored (settings : ListSettings) (node : Node) (name : String) : Listing String := do
  match if settings.colors then colorOf node else none with
  | none => return name
  | some color => do
    let used ← get
    set true
    return (if used then "" else "\x1b[0m") ++ "\x1b[" ++ color ++ "m" ++ name ++ "\x1b[0m"

/-- What stands before a name in every format. -/
def frills (settings : ListSettings) (widths : ListWidths) (entry : Entry) : String :=
  let pads := settings.format != .commas
  let pad (width : Nat) (text : String) := if pads then padLeft width text else text
  (if settings.numbers then pad widths.number (entry.told (toString entry.number)) ++ " " else "") ++
    (if settings.blocks then
      pad widths.blocks (entry.told (settings.blocksText entry.blocks)) ++ " " else "")

def shown (settings : ListSettings) (widths : ListWidths) (entry : Entry) :
    Listing ShownEntry := do
  let frills := settings.frills widths entry
  let name := settings.shownName entry.name
  let mark := settings.indicator entry.node
  return {
    text := frills ++ (← settings.colored entry.node name) ++ mark
    width := frills.length + name.length + mark.length }

/-- A time, recent if it lies less than half a year back. -/
def timeText (settings : ListSettings) (zone : TimeZone) (now time : Int) : String :=
  let halfYear : Int := 31556952 / 2 * 1000000000
  let isRecent := now - halfYear < time && time ≤ now
  Calendar.formatted zone time (if isRecent then settings.times.1 else settings.times.2)

/-- A line with all about a file. -/
def longLine (settings : ListSettings) (widths : ListWidths) (zone : TimeZone) (now : Int)
    (entry : Entry) : Listing String := do
  let node := entry.node
  let letter := match node.kind with
    | .directory => "d"
    | .link _ => "l"
    | .device _ => "c"
    | .fifo _ => "p"
    | _ => "-"
  let known := entry.told
  let owner := padRight widths.owner (known (settings.ownerText node.owner)) ++ " "
  let shownName ← settings.colored node (settings.shownName entry.name)
  let target ← match if entry.isUnknown then none else node.target? with
    | none => pure ""
    | some target => do
      let name := settings.shownName target
      let shown ← match entry.target? with
        | some final => settings.colored final name
        | none => pure name
      pure (" -> " ++ shown ++ (entry.target?.map settings.indicator).getD "")
  let mark := if node.isLink then "" else settings.indicator node
  let time := settings.timeText zone now (settings.timeOf node)
  let time := if entry.isUnknown
    then padLeft (Calendar.formatted zone 0 settings.times.1).length "?" else time
  let mode := if entry.isUnknown then "?????????" else Mode.lettersOf node.mode
  return settings.frills widths entry ++ letter ++ mode ++ " " ++
    padLeft widths.links (known (toString entry.links)) ++ " " ++
    (if settings.showsOwner then owner else "") ++
    (if settings.showsGroup then
      padRight widths.group (known (settings.groupText node.group)) ++ " " else "") ++
    (if settings.showsAuthor then owner else "") ++
    padLeft widths.size (known (settings.sizeText node)) ++ " " ++
    time ++ " " ++ shownName ++ target ++ mark

/-- Blanks, or tabs where they reach as far, from one column to another. -/
def gap (tab : Nat) : (fuel first last : Nat) → List Char
  | 0, _, _ => []
  | fuel + 1, first, last =>
    if last ≤ first then []
    else if tab != 0 && (first + 1) / tab < last / tab then
      '\t' :: gap tab fuel (first + (tab - first % tab)) last
    else ' ' :: gap tab fuel (first + 1) last

/-- The widths of columns if there are so many of them. -/
def columnWidths (byColumns : Bool) (sizes : List Nat) (columns : Nat) : List Nat :=
  let rows := (sizes.length + columns - 1) / columns
  (List.range columns).map fun column =>
    let own := sizes.zipIdx.filterMap fun (size, i) =>
      if (if byColumns then i / rows else i % columns) == column then some size else none
    max 3 (own.foldl max 0 + if column + 1 = columns then 0 else 2)

/-- As many columns as fit into the width. -/
def fittingWidths (settings : ListSettings) (byColumns : Bool) (sizes : List Nat) : List Nat :=
  let most := if settings.width = 0 then sizes.length
    else max 1 (min sizes.length ((settings.width + 2) / 3))
  let fits (columns : Nat) : Option (List Nat) :=
    let widths := columnWidths byColumns sizes columns
    if columns ≤ 1 || settings.width = 0 || widths.foldl (· + ·) 0 < settings.width then some widths
    else none
  ((List.range most).reverse.findSome? fun n => fits (n + 1)).getD [0]

/-- A line of names that stand in columns. -/
def rowText (settings : ListSettings) : (place : Nat) → List (ShownEntry × Nat) → List Char
  | _, [] => []
  | _, [(entry, _)] => entry.text.toList
  | place, (entry, width) :: rest =>
    entry.text.toList ++ gap settings.tab (width + 8) (place + entry.width) (place + width) ++
      rowText settings (place + width) rest

/-- Names in columns, filled downwards or across. -/
def inColumns (settings : ListSettings) (byColumns : Bool) (entries : List ShownEntry) : String :=
  let widths := settings.fittingWidths byColumns (entries.map (·.width))
  let columns := widths.length
  let rows := (entries.length + columns - 1) / columns
  let row (r : Nat) : List ShownEntry := entries.zipIdx.filterMap fun (entry, i) =>
    if (if byColumns then i % rows else i / columns) == r then some entry else none
  String.join ((List.range rows).map fun r =>
    String.ofList (rowText settings 0 ((row r).zip widths)) ++ settings.mark)

/-- Names with commas between them. -/
def withCommas (settings : ListSettings) : (place : Nat) → List ShownEntry → String
  | _, [] => settings.mark
  | place, entry :: rest =>
    match rest with
    | [] => entry.text ++ settings.mark
    | next :: _ =>
      let place := place + entry.width
      if settings.width = 0 || place + next.width + 2 < settings.width then
        entry.text ++ ", " ++ withCommas settings (place + 2) rest
      else entry.text ++ ",\n" ++ withCommas settings 0 rest

/-- Show entries that are in order. -/
def showEntries (settings : ListSettings) (entries : List Entry) : Listing Unit := do
  let widths := settings.widths entries
  match settings.format with
  | .long => do
    let zone ← StateT.lift timeZone
    let now ← StateT.lift momentNow
    entries.forM fun entry => do
      put ((← settings.longLine widths zone now entry) ++ settings.mark)
  | .one => entries.forM fun entry => do
      put ((← settings.shown widths entry).text ++ settings.mark)
  | format => do
    let shown ← entries.mapM (settings.shown widths)
    if !shown.isEmpty then
      put (match format with
        | .commas => settings.withCommas 0 shown
        | .columns => settings.inColumns true shown
        | _ => settings.inColumns false shown)

/-- A name with its node as it is to be shown. -/
def entry (settings : ListSettings) (tree : FileTree) (place : Path) (name : String)
    (isOperand : Bool) : Option Entry := do
  let number ← tree.number? place
  let node ← tree.nodeAt? number
  let target := tree.find place.dropLast ((place.getLast?).getD "/")
  let (final?, finalNumber) := match target with
    | .ok (_, n, final) => (some final, n)
    | .error _ => (none, number)
  let follows := settings.follows || (isOperand && settings.followsOperands)
  if node.isLink && follows && final?.isNone then
    if settings.looksAtNodes then
      some { name, number, isUnknown := true
             node := { node with kind := .link "", modified := 0, accessed := 0 } }
    else some { name, number, node }
  else
    let (number, node) := if node.isLink && follows then (finalNumber, final?.getD node)
      else (number, node)
    some { name, number, node
           links := tree.linkCount place number
           target? := if node.isLink then final? else none }

/-- Is a name in a directory left out? -/
def leavesOut (settings : ListSettings) (name : String) : Bool :=
  let covers (pattern : String) := Shell.Wildcard.covers (pattern.toList.map (·, false)) name.toList
  let isHidden := name.startsWith "."
  let showsAll := settings.all || settings.almostAll
  (isHidden && !showsAll) || (!showsAll && settings.hidden.any covers) ||
    settings.ignored.any covers

/-- Show what is in a directory, with a headline if there is to be one, and then what is in those in
it, unless one of them is a directory that is being shown. -/
def showDirectory (settings : ListSettings) (headline : Bool) :
    (fuel : Nat) → (around : List Nat) → (isFirst : Bool) → String → Path → Listing Unit
  | 0, _, _, _, _ => pure ()
  | fuel + 1, around, isFirst, title, place => do
    let tree ← StateT.lift Work.getTree
    let number := (tree.number? place).getD 0
    if settings.recursive && around.contains number then
      StateT.lift (Work.fault (shellName title ++ ": not listing already-listed directory") 2)
    else
      let named := (tree.namesIn place).filter (!settings.leavesOut ·)
      let entries := named.filterMap fun name =>
        settings.entry tree (place ++ [name]) name false
      let dots := if settings.all then
          [settings.entry tree place "." false, settings.entry tree place.dropLast ".." false]
        else []
      let inside (name : String) : String :=
        if title == "." then name else PathName.inside title name
      if headline then
        put ((if isFirst then "" else "\n") ++ settings.shownName title ++ ":\n")
      StateT.lift ((entries.filter (·.isUnknown)).forM fun entry => do
        Work.fault ("cannot access " ++ shellQuoted (inside entry.name) ++ ": " ++
          SystemError.noSuchFile.reason) (max 1 (← get).code))
      let entries := settings.sorted (dots.filterMap id ++ entries)
      if settings.format = .long || settings.blocks then
        let total := (entries.map Entry.blocks).foldl (· + ·) 0
        put ("total " ++ settings.blocksText total ++ settings.mark)
      settings.showEntries entries
      if settings.recursive then
        entries.forM fun entry => do
          if entry.node.isDirectory && entry.name != "." && entry.name != ".." then
            match tree.find place entry.name with
            | .ok (below, _, _) =>
              settings.showDirectory headline fuel (number :: around) false
                (PathName.inside title entry.name) below
            | .error _ => pure ()

end ListSettings

/-- `ls`: lists files and what is in directories. -/
def list (stock : ListSettings) : Tool := do
  let (settings, operands) ← Work.options lsOptions stock ListSettings.step
  let settings := { settings with users := ← Work.users, groups := ← Work.groups }
  let usesTabs := settings.width != 0 && !settings.colors
  let settings := if usesTabs then settings else { settings with tab := 0 }
  let tree ← Work.getTree
  let here := (← read).directory
  let operands := if operands.isEmpty then ["."] else operands
  let looksThrough := settings.follows || settings.followsOperands ||
    (settings.format != .long && settings.indicators != .all && !settings.directoriesThemselves)
  let found ← operands.filterMapM fun operand => do
    let isDirectory := match tree.find here operand with
      | .ok (_, _, node) => node.isDirectory
      | .error _ => false
    let last := looksThrough && isDirectory || settings.follows || settings.followsOperands
    match tree.find here operand last with
    | .ok (place, _, _) =>
      match settings.entry tree place operand true with
      | some entry => return some (entry, place)
      | none => return none
    | .error e => do
      Work.fault ("cannot access " ++ shellQuoted operand ++ ": " ++ e.reason) 2
      return none
  let isShownItself (entry : Entry) : Bool :=
    settings.directoriesThemselves || !entry.node.isDirectory
  let files := settings.sorted ((found.filter (isShownItself ·.1)).map (·.1))
  let directories := settings.sorted ((found.filter (!isShownItself ·.1)).map (·.1))
  let headline := settings.recursive || 1 < operands.length
  let run : Listing Unit := do
    settings.showEntries files
    directories.zipIdx.forM fun (entry, i) => do
      match found.find? fun (other, _) => other.name == entry.name with
      | some (_, place) =>
        settings.showDirectory headline 4096 [] (i == 0 && files.isEmpty) entry.name place
      | none => pure ()
  discard <| run.run false

end Polyglot.Tool
