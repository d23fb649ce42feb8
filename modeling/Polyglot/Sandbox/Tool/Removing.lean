import Polyglot.Sandbox.FileTree.Change
import Polyglot.Sandbox.Tool.Options
import Polyglot.Sandbox.Tool.PathName

/-!
# Removing files

Tools that take names away. Who is asked answers with a line of the standard input.
-/

namespace Polyglot.Work

/-- Ask a question; a line that begins with a `y` means yes. -/
def confirm (question : String) : Work Bool := do
  murmur ((← read).name ++ ": " ++ question ++ "? ")
  match ← peekInput with
  | .error _ => return false
  | .ok supply => do
    let line := supply.rest.takeWhile (· != '\n')
    takeInput (line.length + 1)
    return line.head?.any fun c => c == 'y' || c == 'Y'

end Polyglot.Work

namespace Polyglot.Tool

/-- What sort of thing a node is, in words. -/
def kindWords (node : Node) : String :=
  match node.kind with
  | .directory => "directory"
  | .file content => if content.isEmpty then "regular empty file" else "regular file"
  | .program _ => "regular file"
  | .link _ => "symbolic link"
  | .device _ => "character special file"
  | .fifo _ => "fifo"

/-! ## Names of all sorts -/

/-- When questions are asked. -/
inductive Caution where
  | never
  | once
  | always
deriving DecidableEq, Repr

structure RemovalSettings where
  forced : Bool := false
  caution : Caution := .never
  recursive : Bool := false
  emptyDirectories : Bool := false
  verbose : Bool := false
  sparesRoot : Bool := true

def rmOptions : OptionTable where
  letters := "dfirvIR"
  words := [("force", "f"), ("interactive?", "interactive"), ("one-file-system", "one"),
    ("no-preserve-root", "spoil"), ("preserve-root?", "spare"), ("presume-input-tty", "one"),
    ("recursive", "r"), ("dir", "d"), ("verbose", "v")]

def cautions : Choices Caution := [
  (["never", "no", "none"], .never), (["once"], .once), (["always", "yes"], .always)]

def rmStep (settings : RemovalSettings) (option : GivenOption) : Work RemovalSettings := do
  match option.key with
  | "d" => return { settings with emptyDirectories := true }
  | "f" => return { settings with forced := true, caution := .never }
  | "i" => return { settings with forced := false, caution := .always }
  | "I" => return { settings with forced := false, caution := .once }
  | "r" => return { settings with recursive := true }
  | "R" => return { settings with recursive := true }
  | "v" => return { settings with verbose := true }
  | "spoil" => return { settings with sparesRoot := false }
  | "spare" => return { settings with sparesRoot := true }
  | "interactive" =>
    match option.value? with
    | none => return { settings with forced := false, caution := .always }
    | some text => do
      let caution ← Work.choice "--interactive" text cautions
      return { settings with caution, forced := settings.forced && caution = .never }
  | _ => return settings

namespace RemovalSettings

def asks (settings : RemovalSettings) : Bool :=
  settings.caution = .always

def refuse (path : String) (e : SystemError) : Work Unit :=
  Work.fault ("cannot remove " ++ shellQuoted path ++ ": " ++ e.reason)

/-- Remove a name; tell whether it is gone. -/
def removeName (settings : RemovalSettings) (path : String) (isDirectory : Bool) : Work Bool := do
  let removed ← Work.attempt fun tree directory =>
    if isDirectory then tree.removeDirectory directory path else tree.unlink directory path
  match removed with
  | .ok () => do
    if settings.verbose then
      Work.sayLine ((if isDirectory then "removed directory " else "removed ") ++ shellQuoted path)
    return true
  | .error e => do
    refuse path e
    return false

/-- Remove a name and what is below it; tell whether it is gone. -/
def remove (settings : RemovalSettings) : (fuel : Nat) → String → Work Bool
  | 0, _ => return false
  | fuel + 1, path => do
    match ← Work.find path false with
    | .error e => do
      if settings.forced && (e == .noSuchFile || e == .notADirectory) then return true
      refuse path e
      return false
    | .ok (place, _, node) =>
      if !node.isDirectory then do
        if settings.asks then
          if !(← Work.confirm ("remove " ++ kindWords node ++ " " ++ shellQuoted path)) then
            return false
        settings.removeName path false
      else
        let names := (← Work.getTree).namesIn place
        if !settings.recursive && !(settings.emptyDirectories && names.isEmpty) then do
          refuse path (if settings.emptyDirectories then .directoryNotEmpty else .isADirectory)
          return false
        if settings.asks && !names.isEmpty then
          if !(← Work.confirm ("descend into directory " ++ shellQuoted path)) then return false
        let gone ← names.mapM fun name => settings.remove fuel (PathName.inside path name)
        if settings.asks then
          if !(← Work.confirm ("remove directory " ++ shellQuoted path)) then return false
        if gone.all id then settings.removeName path true else return false

end RemovalSettings

/-- Is the last name of a path one or two dots? -/
def endsInDots (path : String) : Bool :=
  let last := FileTree.withoutSlashes (PathName.lastPart path)
  last == "." || last == ".."

/-- `rm`: removes files. -/
def removeFiles : Tool := do
  let call ← read
  let reading := rmOptions.readFrom call.arguments
  if reading.fault?.isSome then
    let tree ← Work.getTree
    let strange := call.arguments.find? fun argument =>
      argument.startsWith "-" && argument != "--" &&
        (tree.look? call.directory ("./" ++ argument) false).isSome
    match reading.fault?, strange with
    | some fault, some argument =>
      discard <| reading.options.foldlM rmStep ({} : RemovalSettings)
      Work.complain fault.message
      Work.murmur ("Try '" ++ call.name ++ " ./" ++ shellWord argument ++ "' to remove the file " ++
        shellQuoted argument ++ ".\n")
      Work.hint
      Work.exit 1
    | _, _ => pure ()
  let (settings, operands) ← Work.options rmOptions ({} : RemovalSettings) rmStep
  if operands.isEmpty then
    if settings.forced then Work.exit 0 else Work.misuse "missing operand"
  let count := operands.length
  if settings.caution = .once && (settings.recursive || 3 < count) then
    let what := s!"remove {count} " ++ (if count == 1 then "argument" else "arguments") ++
      (if settings.recursive then " recursively" else "")
    if !(← Work.confirm what) then Work.exit 0
  operands.forM fun path => do
    let isRoot := match ← Work.find path with
      | .ok (place, _, _) => place.isEmpty
      | .error _ => false
    if settings.recursive && endsInDots path then
      Work.fault ("refusing to remove '.' or '..' directory: skipping " ++ shellQuoted path)
    else if settings.recursive && settings.sparesRoot && isRoot then
      Work.fault ("it is dangerous to operate recursively on " ++ (if path == "/" then
        shellQuoted path else shellQuoted path ++ " (same as '/')"))
      Work.complain "use --no-preserve-root to override this failsafe"
    else discard <| settings.remove 4096 path

/-! ## Single names -/

def rmdirOptions : OptionTable where
  letters := "pv"
  words := [("ignore-fail-on-non-empty", "ignore"), ("path", "p"), ("parents", "p"),
    ("verbose", "v")]

/-- `rmdir`: removes directories without names in them. -/
def removeDirectories : Tool := do
  let (options, operands) ← Work.optionList rmdirOptions
  let has (key : String) := options.any (·.key == key)
  if operands.isEmpty then Work.misuse "missing operand"
  let rec remove (fuel : Nat) (isFirst : Bool) (path : String) : Work Unit :=
    match fuel with
    | 0 => pure ()
    | fuel + 1 => do
      if has "v" then
        Work.sayLine ((← read).name ++ ": removing directory, " ++ shellQuoted path)
      match ← Work.attempt fun tree directory => tree.removeDirectory directory path with
      | .ok () =>
        let cs := (FileTree.withoutSlashes path).toList
        let above := String.ofList ((cs.reverse.dropWhile (· != '/')).reverse)
        let above := FileTree.withoutSlashes above
        if has "p" && !above.isEmpty then remove fuel false above
      | .error e =>
        if !(has "ignore" && e == .directoryNotEmpty) then
          if e == .notADirectory && path.endsWith "/" &&
              (((← Work.look? (FileTree.withoutSlashes path) false).map Node.isLink).getD false) then
            Work.fault ("failed to remove " ++ shellQuoted path ++ ": Symbolic link not followed")
          else
            Work.fault ((if isFirst then "failed to remove " else "failed to remove directory ") ++
              shellQuoted path ++ ": " ++ e.reason)
  operands.forM fun path => remove 4096 true path

/-- `unlink`: removes one name. -/
def unlinkFile : Tool := do
  let (_, operands) ← Work.optionList { letters := "" }
  match operands with
  | [] => Work.misuse "missing operand"
  | [path] =>
    match ← Work.attempt fun tree directory => tree.unlink directory path with
    | .ok () => pure ()
    | .error e => Work.die ("cannot unlink " ++ shellQuoted path ++ ": " ++ e.reason)
  | _ :: extra :: _ => Work.misuse ("extra operand " ++ quoted extra)

end Polyglot.Tool
