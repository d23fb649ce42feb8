import Polyglot.Sandbox.FileTree.Mode
import Polyglot.Sandbox.Tool.Moment
import Polyglot.Sandbox.Tool.PathName

/-!
# Making files

Tools that make directories, links and other files, and those that change when a file was changed
and how long it is.
-/

namespace Polyglot.Tool

/-! ## Directories -/

/-- The beginnings of a path that name the directories above its last name. A single dot names
none. -/
def pathsAbove (path : String) : List String :=
  let cs := path.toList
  (List.range cs.length).filterMap fun i =>
    let before := cs.take i
    let isEnd := cs[i]? == some '/' && before.getLast?.any (· != '/')
    let hasMore := (cs.drop i).any (· != '/')
    let name := (before.reverse.takeWhile (· != '/')).reverse
    if isEnd && hasMore && name != ['.'] then some (String.ofList before) else none

/-- Make the directories above the last name of a path; those that were made are told. What could
not be made is given with the reason. -/
def makeAbove (path : String) (mode : Nat) (tell : String → Work Unit) :
    Work (Except (String × SystemError) Unit) := do
  for above in pathsAbove path do
    let made ← Work.attempt fun tree directory => tree.make directory above .directory mode
    match made with
    | .ok () => tell above
    | .error e =>
      match ← Work.find above with
      | .ok (_, _, node) =>
        if !node.isDirectory then return .error (above, .notADirectory)
      | .error f => return .error (above, if f == .noSuchFile then e else f)
  return .ok ()

/-- A mode that an option gives, in place of one. -/
def modeOption (value? : Option String) (plain : Nat) : Work Nat := do
  match value? with
  | none => Work.newMode plain
  | some text =>
    match Mode.change? text with
    | some steps => return Mode.apply steps (plain == 0o777) (← read).mask plain
    | none => Work.die ("invalid mode " ++ quoted text)

def mkdirOptions : OptionTable where
  letters := "pm:vZ"
  words := [("context?", "context"), ("mode=", "m"), ("parents", "p"), ("verbose", "v")]

/-- `mkdir`: new directories. -/
def makeDirectories : Tool := do
  let (options, operands) ← Work.optionList mkdirOptions
  let has (key : String) := options.any (·.key == key)
  if operands.isEmpty then Work.misuse "missing operand"
  let value? := (options.filter (·.key == "m")).getLast?.map (·.value)
  let mode ← modeOption value? 0o777
  let tell (path : String) : Work Unit := do
    if has "v" then
      Work.sayLine ((← read).name ++ ": created directory " ++ shellQuoted path)
  operands.forM fun path => do
    let refuse (path : String) (e : SystemError) : Work Unit :=
      Work.fault ("cannot create directory " ++ shellQuoted path ++ ": " ++ e.reason)
    let above ← if has "p" then makeAbove path ((← Work.newMode 0o777) ||| 0o300) tell
      else pure (.ok ())
    match above with
    | .error (path, e) => refuse path e
    | .ok () =>
      match ← Work.attempt fun tree directory => tree.make directory path .directory mode with
      | .ok () => tell path
      | .error e =>
        let isThere := ((← Work.look? path).map Node.isDirectory).getD false
        if !(has "p" && isThere) then refuse path e

/-! ## Pipes and devices -/

/-- `mkfifo`: new pipes with names. -/
def makePipes : Tool := do
  let (options, operands) ← Work.optionList
    { letters := "m:Z", words := [("context?", "context"), ("mode=", "m")] }
  if operands.isEmpty then Work.misuse "missing operand"
  let value? := (options.filter (·.key == "m")).getLast?.map (·.value)
  let mode ← match value? with
    | none => Work.newMode 0o666
    | some text =>
      match Mode.change? text with
      | some steps => pure (Mode.apply steps false (← read).mask 0o666)
      | none => Work.die "invalid mode"
  if 0o777 < mode then Work.die "mode must specify only file permission bits"
  operands.forM fun path => do
    match ← Work.attempt fun tree directory => tree.make directory path (.fifo "") mode with
    | .ok () => pure ()
    | .error e => Work.fault ("cannot create fifo " ++ shellQuoted path ++ ": " ++ e.reason)

/-- `mknod`: a pipe with a name; devices cannot be made. -/
def makeNode : Tool := do
  let (options, operands) ← Work.optionList
    { letters := "m:Z", words := [("context?", "context"), ("mode=", "m")] }
  let value? := (options.filter (·.key == "m")).getLast?.map (·.value)
  let mode ← match value? with
    | none => Work.newMode 0o666
    | some text =>
      match Mode.change? text with
      | some steps => pure (Mode.apply steps false (← read).mask 0o666)
      | none => Work.die "invalid mode"
  let isPipe := operands[1]?.any (·.startsWith "p")
  let wanted := if isPipe then 2 else 4
  if operands.length < wanted then
    match operands.getLast? with
    | none => Work.misuse "missing operand"
    | some last =>
      Work.complain ("missing operand after " ++ quoted last)
      if operands.length == 2 then
        Work.murmur "Special files require major and minor device numbers.\n"
      Work.hint
      Work.exit 1
  if wanted < operands.length then
    Work.complain ("extra operand " ++ quoted ((operands[wanted]?).getD ""))
    if isPipe && operands.length == 4 then
      Work.murmur "Fifos do not have major and minor device numbers.\n"
    Work.hint
    Work.exit 1
  let path := operands.headD ""
  let kind := ((operands[1]?).getD "").toList.headD ' '
  if isPipe then
    match ← Work.attempt fun tree directory => tree.make directory path (.fifo "") mode with
    | .ok () => pure ()
    | .error e => Work.die (shellName path ++ ": " ++ e.reason)
  else if "bcu".toList.contains kind then
    Work.die (shellName path ++ ": " ++ (SystemError.errno 1).reason)
  else Work.misuse ("invalid device type " ++ quoted ((operands[1]?).getD ""))

/-! ## Temporary files -/

def mktempOptions : OptionTable where
  letters := "dp:qtuV"
  words := [("directory", "d"), ("dry-run", "u"), ("quiet", "q"), ("suffix=", "suffix"),
    ("tmpdir?", "tmpdir")]

/-- Letters for new names. -/
def nameLetters : List Char :=
  "abcdefghijklmnopqrstuvwxyzABCDEFGHIJKLMNOPQRSTUVWXYZ0123456789".toList

/-- A name of some length that depends on a number. -/
def letteredName : (length seed : Nat) → List Char
  | 0, _ => []
  | length + 1, seed =>
    let seed := (seed * 6364136223846793005 + 1442695040888963407) % 18446744073709551616
    ((nameLetters[seed / 4294967296 % 62]?).getD 'a') :: letteredName length seed

/-- `mktemp`: a new file with a name that no other has. -/
def makeTemporary : Tool := do
  let (options, operands) ← Work.optionList mktempOptions
  let has (key : String) := options.any (·.key == key)
  let value? (key : String) := (options.filter (·.key == key)).getLast?.bind (·.value?)
  match operands with
  | _ :: _ :: _ => Work.misuse "too many templates"
  | _ => pure ()
  let fromEnvironment ← Work.environmentValue? "TMPDIR"
  let (template, usesDirectory) := match operands.head? with
    | some template => (template, has "t" || has "p" || has "tmpdir")
    | none => ("tmp.XXXXXXXXXX", true)
  let stop {α : Type} (text : String) : Work α := Work.die text
  let ending ← match value? "suffix" with
    | some ending =>
      if !template.endsWith "X" then
        stop ("with --suffix, template " ++ quoted template ++ " must end in X")
      pure ending
    | none => pure (String.ofList ((template.toList.reverse.takeWhile (· != 'X')).reverse))
  if ending.toList.contains '/' then
    stop ("invalid suffix " ++ quoted ending ++ ", contains directory separator")
  let stem := if (value? "suffix").isSome then template.toList
    else template.toList.take (template.length - ending.length)
  let count := (stem.reverse.takeWhile (· == 'X')).length
  if count < 3 then stop ("too few X's in template " ++ quoted template)
  if usesDirectory && FileTree.isAbsolute template then
    stop ("invalid template, " ++ quoted template ++ "; with --tmpdir, it may not be absolute")
  if has "t" && template.toList.contains '/' then
    stop ("invalid template, " ++ quoted template ++ ", contains directory separator")
  let chosen? := (value? "p").or (value? "tmpdir")
  let directory := if has "t" then (fromEnvironment.or chosen?).getD "/tmp"
    else (chosen?.or fromEnvironment).getD "/tmp"
  let call ← read
  let tree ← Work.getTree
  let name := String.ofList (stem.take (stem.length - count) ++
    letteredName count (call.process * 1000003 + tree.nodes.size)) ++ ending
  let path := if usesDirectory then PathName.inside directory name else name
  let shown := if usesDirectory then PathName.inside directory template else template
  if !has "u" then
    let (kind, mode) : NodeKind × Nat := if has "d" then (.directory, 0o700) else (.file "", 0o600)
    match ← Work.attempt fun tree directory => tree.make directory path kind mode with
    | .ok () => Work.sayLine path
    | .error e =>
      let what := if has "d" then "directory" else "file"
      if has "q" then Work.exit 1
      else stop ("failed to create " ++ what ++ " via template " ++ quoted shown ++ ": " ++ e.reason)
  else Work.sayLine path

/-! ## Times -/

def touchOptions : OptionTable where
  letters := "acd:fhmr:t:"
  words := [("date=", "d"), ("no-create", "c"), ("no-dereference", "h"), ("reference=", "r"),
    ("time=", "time")]

def touchedTimes : Choices String := [
  (["atime", "access", "use"], "a"), (["mtime", "modify"], "m")]

/-- A moment as pairs of digits: month, day, hour and minute, maybe with a year in front and seconds
behind a point. -/
def stampedMoment? (zone : TimeZone) (now : Int) (text : String) : Option Int := do
  let (main, seconds?) := match text.toList.span (· != '.') with
    | (main, _ :: seconds) => (main, some seconds)
    | (main, []) => (main, none)
  if !main.all Char.isDigit then none
  let second ← match seconds? with
    | none => some 0
    | some digits =>
      if digits.length = 2 && digits.all Char.isDigit && decimal digits ≤ 60 then
        some (decimal digits) else none
  let rest := main.drop (main.length - 8)
  let yearDigits := main.take (main.length - 8)
  let pair (i : Nat) := decimal ((rest.drop (2 * i)).take 2)
  let year : Int ← match yearDigits.length with
    | 0 => if main.length = 8 then some (Civil.ofMoment zone now).year else none
    | 2 => some (MomentText.yearOf yearDigits)
    | 4 => some (decimal yearDigits : Nat)
    | _ => none
  let c : Civil := { year, month := pair 0, day := pair 1, hour := pair 2, minute := pair 3, second }
  let isDay := Calendar.ofDayNumber c.number == (year, c.month, c.day)
  if isDay && c.hour < 24 && c.minute < 60 then some (c.toMoment zone) else none

/-- Set when a node was read and changed. -/
def setTimes (number : Nat) (accessed? modified? : Option Int) : Work Unit := do
  Work.setTree ((← Work.getTree).modifyAt number fun node =>
    { node with
      accessed := accessed?.getD node.accessed
      modified := modified?.getD node.modified })

/-- `touch`: sets when files were changed, and makes them. -/
def touch : Tool := do
  let (options, operands) ← Work.optionList touchOptions
  let has (key : String) := options.any (·.key == key)
  let value? (key : String) := (options.filter (·.key == key)).getLast?.map (·.value)
  let named? ← (value? "time").mapM fun text => Work.choice "--time" text touchedTimes
  let isAccess := has "a" || named? == some "a"
  let isChange := has "m" || named? == some "m"
  let now ← momentNow
  let zone ← timeZone
  if (value? "t").isSome && ((value? "d").isSome || (value? "r").isSome) then
    Work.misuse "cannot specify times from more than one source"
  let (accessed, modified) ← match value? "r", value? "d", value? "t" with
    | some file, date?, _ => do
      match ← Work.find file (!has "h") with
      | .error e =>
        Work.die ("failed to get attributes of " ++ shellQuoted file ++ ": " ++ e.reason)
      | .ok (_, _, node) =>
        match date? with
        | none => pure (node.accessed, node.modified)
        | some text =>
          match MomentText.read? zone node.accessed text, MomentText.read? zone node.modified text with
          | some a, some m => pure (a, m)
          | _, _ => Work.die ("invalid date format " ++ quoted text)
    | none, some text, _ => do
      match MomentText.read? zone now text with
      | some moment => pure (moment, moment)
      | none => Work.die ("invalid date format " ++ quoted text)
    | none, none, some text => do
      match stampedMoment? zone now text with
      | some moment => pure (moment, moment)
      | none => Work.die ("invalid date format " ++ quoted text)
    | none, none, none => pure (now, now)
  if operands.isEmpty then Work.misuse "missing file operand"
  let accessed? := if isChange && !isAccess then none else some accessed
  let modified? := if isAccess && !isChange then none else some modified
  let mode ← Work.newMode 0o666
  operands.forM fun path => do
    if path == "-" then
      (← read).outputNode?.forM fun number => setTimes number accessed? modified?
    else
      let opened : Except SystemError Unit ← if has "c" || has "h" then pure (.ok ()) else
        Work.attempt fun tree directory =>
          (tree.openNew directory path mode false).map fun (_, tree) => tree
      match ← Work.find path (!has "h"), opened with
      | .ok (_, number, _), _ => setTimes number accessed? modified?
      | .error f, .error .isADirectory =>
        Work.fault ("setting times of " ++ shellQuoted path ++ ": " ++ f.reason)
      | .error _, .error e =>
        Work.fault ("cannot touch " ++ shellQuoted path ++ ": " ++ e.reason)
      | .error e, .ok () =>
        if !(has "c" && e == .noSuchFile) then
          Work.fault ("setting times of " ++ shellQuoted path ++ ": " ++ e.reason)

/-! ## Lengths -/

def truncateOptions : OptionTable where
  letters := "cor:s:"
  words := [("io-blocks", "o"), ("no-create", "c"), ("reference=", "r"), ("size=", "s")]

/-- How a length is given: as it is, or from the length that is there. -/
inductive LengthChange where
  | absolute
  | extend
  | reduce
  | atMost
  | atLeast
  | roundDown
  | roundUp
deriving DecidableEq, Repr

namespace LengthChange

def ofSign? : Char → Option LengthChange
  | '<' => some .atMost
  | '>' => some .atLeast
  | '/' => some .roundDown
  | '%' => some .roundUp
  | _ => none

def apply (change : LengthChange) (n length : Nat) : Nat :=
  match change with
  | .absolute => n
  | .extend => length + n
  | .reduce => length - n
  | .atMost => min n length
  | .atLeast => max n length
  | .roundDown => length - length % n
  | .roundUp => (length + n - 1) / n * n

end LengthChange

/-- `truncate`: gives files a length. -/
def truncateFiles : Tool := do
  let (options, operands) ← Work.optionList truncateOptions
  let has (key : String) := options.any (·.key == key)
  let value? (key : String) := (options.filter (·.key == key)).getLast?.map (·.value)
  let given? ← (value? "s").mapM fun text => do
    let cs := text.toList.dropWhile CharClass.isSpace
    let (change, cs) := match cs with
      | c :: rest =>
        match LengthChange.ofSign? c with
        | some change => (change, rest.dropWhile CharClass.isSpace)
        | none => (.absolute, cs)
      | [] => (.absolute, [])
    let (change, digits) ← match cs with
      | '+' :: rest =>
        if change != LengthChange.absolute then
          Work.misuse "multiple relative modifiers specified"
        else pure (.extend, rest)
      | '-' :: rest =>
        if change != LengthChange.absolute then
          Work.misuse "multiple relative modifiers specified"
        else pure (.reduce, rest)
      | cs => pure (change, cs)
    let n ← match Quantity.unsigned "EgGkKmMPQRtTYZ0" (String.ofList digits) with
      | .ok n =>
        if 0x7fffffffffffffff < n then Work.refuseQuantity "Invalid number" text .overflow
        else pure n
      | .error fault => Work.refuseQuantity "Invalid number" text fault
    if (change == .roundDown || change == .roundUp) && n = 0 then Work.die "division by zero"
    pure (change, n)
  if given?.isNone && (value? "r").isNone then
    Work.misuse ("you must specify either " ++ quoted "--size" ++ " or " ++ quoted "--reference")
  match given?, value? "r" with
  | some (.absolute, _), some _ =>
    Work.misuse ("you must specify a relative " ++ quoted "--size" ++ " with " ++
      quoted "--reference")
  | none, _ =>
    if has "o" then Work.misuse (quoted "--io-blocks" ++ " was specified but " ++
      quoted "--size" ++ " was not")
  | _, _ => pure ()
  if operands.isEmpty then Work.misuse "missing file operand"
  let base? ← (value? "r").mapM fun file => do
    match ← Work.find file with
    | .ok (_, _, node) => pure node.size
    | .error e => Work.die ("cannot stat " ++ shellQuoted file ++ ": " ++ e.reason)
  let mode ← Work.newMode 0o666
  operands.forM fun path => do
    let isThere := (← Work.look? path).isSome
    if !(has "c" && !isThere) then
      let tree ← Work.getTree
      match tree.openNew (← read).directory path mode false with
      | .error e => Work.fault ("cannot open " ++ shellQuoted path ++ " for writing: " ++ e.reason)
      | .ok (number, tree) => do
        Work.setTree tree
        match tree.kindAt? number with
        | some (.file content) =>
          let length := base?.getD content.length
          let length := match given? with
            | some (change, n) => change.apply (if has "o" then n * 4096 else n) length
            | none => length
          if 0x40000000 < length then
            Work.fault ("failed to truncate " ++ shellQuoted path ++ " at " ++ toString length ++
              " bytes: " ++ (SystemError.errno 27).reason)
          else
            let kept := if length < content.length then String.ofList (content.toList.take length)
              else content.pushn '\x00' (length - content.length)
            Work.setTree (tree.setContent number kept)
        | _ =>
          Work.fault ("failed to truncate " ++ shellQuoted path ++ " at 0 bytes: " ++
            SystemError.invalidArgument.reason)

end Polyglot.Tool
