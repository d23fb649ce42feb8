import Polyglot.Sandbox.Tool.Backup
import Polyglot.Sandbox.Tool.Removing

/-!
# Linking files

Further names for files, and links that stand for paths.
-/

namespace Polyglot.Tool

structure LinkSettings where
  symbolic : Bool := false
  forced : Bool := false
  asks : Bool := false
  verbose : Bool := false
  relative : Bool := false
  /-- A link at the place of the new one is not followed to a directory. -/
  keepsTarget : Bool := false
  /-- The last operand is a name and no directory. -/
  isName : Bool := false
  follows : Bool := false
  /-- Links to directories are tried too. -/
  linksDirectories : Bool := false
  backup : BackupSettings := {}
  directory? : Option String := none

namespace LinkSettings

def options : OptionTable where
  letters := "bdfinrst:vFLPS:T"
  words := [("backup?", "b"), ("directory", "d"), ("no-dereference", "n"),
    ("no-target-directory", "T"), ("force", "f"), ("interactive", "i"), ("suffix=", "S"),
    ("target-directory=", "t"), ("logical", "L"), ("physical", "P"), ("relative", "r"),
    ("symbolic", "s"), ("verbose", "v")]

def step (settings : LinkSettings) (option : GivenOption) : Work LinkSettings := do
  match option.key with
  | "b" => return { settings with backup := settings.backup.withKind option.value? }
  | "d" => return { settings with linksDirectories := true }
  | "F" => return { settings with linksDirectories := true }
  | "f" => return { settings with forced := true, asks := false }
  | "i" => return { settings with forced := false, asks := true }
  | "L" => return { settings with follows := true }
  | "n" => return { settings with keepsTarget := true }
  | "P" => return { settings with follows := false }
  | "r" => return { settings with relative := true }
  | "s" => return { settings with symbolic := true }
  | "S" => return { settings with backup := settings.backup.withSuffix option.value }
  | "t" =>
    if settings.directory?.isSome then Work.die "multiple target directories specified"
    match ← Work.find option.value with
    | .error e => Work.die ("failed to access " ++ shellQuoted option.value ++ ": " ++ e.reason)
    | .ok (_, _, node) =>
      if !node.isDirectory then
        Work.die ("target " ++ shellQuoted option.value ++ " is not a directory")
    return { settings with directory? := some option.value }
  | "T" => return { settings with isName := true }
  | "v" => return { settings with verbose := true }
  | _ => return settings

/-- Make one link, or see why that cannot be. -/
def make (settings : LinkSettings) (source target : String) : Work (Except SystemError Unit) := do
  if settings.symbolic then
    if source.isEmpty then return .error .noSuchFile
    Work.attempt fun tree directory => tree.make directory target (.link source) 0o777
  else
    match ← Work.find source settings.follows with
    | .error e => return .error e
    | .ok (_, number, node) =>
      if node.isDirectory then return .error (.errno 1)
      Work.attempt fun tree directory => tree.linkTo directory number target

/-- What a link to a path says in the directory where it will be. -/
def relativeSource (source target : String) : Work String := do
  let tree ← Work.getTree
  let here := (← read).directory
  let place := Presence.nothing.resolve tree here source
  let home := Presence.nothing.resolve tree here (PathName.directory target)
  match place, home with
  | .ok place, .ok home => return relativePath home place
  | _, _ => return source

/-- Would what has the name already be lost, so that there is nothing to link to? -/
def isSame (settings : LinkSettings) (source target : String) : Work Bool := do
  if settings.backup.kind?.isSome && settings.symbolic then return false
  let tree ← Work.getTree
  match ← Work.find source (settings.symbolic || settings.follows), ← Work.find target false with
  | .ok (place, a, _), .ok (targetPlace, b, _) =>
    let sourcePlace := (tree.locate (← read).directory source false).toOption
    return a == b && (tree.linkCount place a == 1 || sourcePlace == some targetPlace)
  | _, _ => return false

/-- Put a link in the place of something. -/
def replace (settings : LinkSettings) (source target : String) :
    Work (Except SystemError Unit) := do
  let found ← Work.find source settings.follows
  let unlink : Work Unit :=
    discard <| Work.attempt fun tree directory => tree.unlink directory target
  if settings.symbolic then
    unlink
    settings.make source target
  else match found, ← Work.find target false with
    | .ok (_, number, _), .ok (_, other, _) => do
      if number == other then return .ok ()
      unlink
      Work.attempt fun tree directory => tree.linkTo directory number target
    | _, _ => settings.make source target

/-- Make one link and tell of it. `made` are the names that links have got before, with what they
lead to. The answer tells whether it was made. -/
def link (settings : LinkSettings) (made : List (Path × Nat)) (source target : String) :
    Work Bool := do
  let written ← if settings.relative then relativeSource source target else pure source
  let fail (text : String) : Work Bool := do
    Work.fault text
    return false
  let report (backup : String) : Work Bool := do
    if settings.verbose then
      Work.sayLine (backup ++ shellQuoted target ++ (if settings.symbolic then " -> " else " => ") ++
        shellQuoted written)
    return true
  let refuse (e : SystemError) : Work Bool :=
    let isShort := if settings.symbolic then e != .fileNameTooLong && !written.isEmpty
      else e == .fileExists || e == .noSpace
    fail ("failed to create " ++ (if settings.symbolic then "symbolic" else "hard") ++
      " link " ++ shellQuoted target ++ (if isShort then ""
        else (if settings.symbolic then " -> " else " => ") ++ shellQuoted written) ++
      ": " ++ e.reason)
  match ← settings.make written target with
  | .ok () => report ""
  | .error e => do
    if !settings.symbolic then
      match ← Work.find source settings.follows with
      | .error e => return ← fail ("failed to access " ++ shellQuoted source ++ ": " ++ e.reason)
      | .ok (_, _, node) =>
        if node.isDirectory && !settings.linksDirectories then
          return ← fail (shellName source ++ ": hard link not allowed for directory")
    let replaces := settings.forced || settings.asks || settings.backup.kind?.isSome
    match ← Work.find target false with
    | .error f =>
      if replaces && f != .noSuchFile then
        fail ("failed to access " ++ shellQuoted target ++ ": " ++ f.reason)
      else refuse e
    | .ok (place, number, node) =>
      if !replaces || e != .fileExists then refuse e
      else if node.isDirectory then
        fail (shellName target ++ ": cannot overwrite directory")
      else if made.contains (place, number) then
        fail ("will not overwrite just-created " ++ shellQuoted target ++ " with " ++
          shellQuoted source)
      else if (settings.forced || settings.backup.kind?.isSome) &&
          (← settings.isSame written target) then
        fail (shellQuoted written ++ " and " ++ shellQuoted target ++ " are the same file")
      else
        let goesOn ← if settings.asks then Work.confirm ("replace " ++ shellQuoted target)
          else pure true
        if !goesOn then
          Work.setCode 1
          return false
        else
          match ← settings.backup.keep target with
          | none =>
            match ← settings.replace written target with
            | .ok () => report ""
            | .error e => refuse e
          | some kept =>
            match ← settings.make written target with
            | .ok () => report (shellQuoted kept ++ " ~ ")
            | .error e => do
              discard <| Work.attempt fun tree directory => tree.rename directory kept target
              refuse e

/-- Make links in a directory. A name that has got a link to a file is not given to another. -/
def linkInto (settings : LinkSettings) (directory : String) (sources : List String) :
    Work Unit := do
  let guards := settings.forced && !settings.symbolic && settings.backup.kind? != some .numbered
  discard <| sources.foldlM (fun made source => do
    let name := FileTree.withoutSlashes (PathName.lastPart source)
    let target := PathName.inside directory name
    let isMade ← settings.link made source target
    match ← Work.find target false with
    | .ok (place, number, _) => return if guards && isMade then (place, number) :: made else made
    | .error _ => return made) ([] : List (Path × Nat))

end LinkSettings

/-- `ln`: makes links. -/
def makeLinks : Tool := do
  let (settings, operands) ← Work.options LinkSettings.options ({} : LinkSettings)
    LinkSettings.step
  if operands.isEmpty then Work.misuse "missing file operand"
  if settings.relative && !settings.symbolic then
    Work.die "cannot do --relative without --symbolic"
  let isDirectory (path : String) : Work (Except SystemError Unit) := do
    match ← Work.find path (!(settings.keepsTarget &&
        ((← Work.look? path false).map Node.isLink).getD false)) with
    | .error e => return .error e
    | .ok (_, _, node) => return if node.isDirectory then .ok () else .error .notADirectory
  let finish (action : LinkSettings → Work Unit) : Work Unit := do
    action { settings with backup := ← settings.backup.settled }
  if settings.isName then
    if settings.directory?.isSome then
      Work.die "cannot combine --target-directory and --no-target-directory"
    match operands with
    | [source, target] => finish fun settings => discard (settings.link [] source target)
    | _ :: _ :: extra :: _ => Work.misuse ("extra operand " ++ shellQuoted extra)
    | _ => Work.misuse ("missing destination file operand after " ++
        shellQuoted (operands.headD ""))
  else match settings.directory?, operands with
    | some directory, _ => finish (·.linkInto directory operands)
    | none, [source] => finish (·.linkInto "." [source])
    | none, _ =>
      let last := operands.getLast?.getD ""
      match ← isDirectory last, operands with
      | .ok (), _ => finish (·.linkInto last operands.dropLast)
      | .error _, [source, target] => finish fun settings => discard (settings.link [] source target)
      | .error e, _ => Work.die ("target " ++ shellQuoted last ++ ": " ++ e.reason)

/-- `link`: one further name for a file. -/
def linkFile : Tool := do
  let (_, operands) ← Work.optionList { letters := "" }
  match operands with
  | [] => Work.misuse "missing operand"
  | [only] => Work.misuse ("missing operand after " ++ quoted only)
  | [source, target] =>
    let settings : LinkSettings := {}
    match ← settings.make source target with
    | .ok () => pure ()
    | .error e =>
      Work.die ("cannot create link " ++ shellQuoted target ++ " to " ++ shellQuoted source ++
        ": " ++ e.reason)
  | _ :: _ :: extra :: _ => Work.misuse ("extra operand " ++ quoted extra)

end Polyglot.Tool
