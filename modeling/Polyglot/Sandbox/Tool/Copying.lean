import Polyglot.Sandbox.FileTree.Mode
import Polyglot.Sandbox.Tool.Backup
import Polyglot.Sandbox.Tool.Making
import Polyglot.Sandbox.Tool.Removing

/-!
# Copying and moving files

`cp`, `mv` and `install`. Several things go into a directory, one may get another name.
-/

namespace Polyglot.Tool

/-- Which links are followed to what they stand for. -/
inductive LinkUse where
  | follow
  | followOperands
  | keep
deriving DecidableEq, Repr

/-- Whether what has the name already is replaced. -/
inductive Replacement where
  | always
  /-- No, and that is no problem. -/
  | skip
  /-- No, and that is a problem. -/
  | refuse
  | ask
deriving DecidableEq, Repr

structure CopySettings where
  moves : Bool := false
  recursive : Bool := false
  links? : Option LinkUse := none
  replacement : Replacement := .always
  /-- Nothing is ever replaced. -/
  noClobber : Bool := false
  forced : Bool := false
  /-- Only files that are newer replace others. -/
  updates : Bool := false
  verbose : Bool := false
  keepsMode : Bool := false
  keepsTimes : Bool := false
  /-- Names of one file become names of one copy. -/
  keepsHardLinks : Bool := false
  backup : BackupSettings := {}
  /-- Directories above sources are made in the target too. -/
  withParents : Bool := false
  removesFirst : Bool := false
  makesLinks : Bool := false
  makesSymbolicLinks : Bool := false
  onlyAttributes : Bool := false
  stripsSlashes : Bool := false
  isName : Bool := false
  directory? : Option String := none
  /-- The mode that all copies get. -/
  mode? : Option (List Mode.Step) := none
  /-- There are several sources. -/
  isMany : Bool := false

/-- A thing with the place of the name that it was seen under. -/
abbrev Sighting := Path × Nat

/-- What has been done so far, to tell what comes twice. -/
structure CopyRecord where
  /-- Things that were copied, and under which names. -/
  copied : List (Nat × String) := []
  sources : List Sighting := []
  targets : List Sighting := []
  /-- This operand has led to a new directory. -/
  madeDirectory : Bool := false
  /-- A directory was found in itself, so that there is no end to this operand. -/
  isCircular : Bool := false

abbrev Copying := StateT CopyRecord Work

namespace CopySettings

/-- Tell of a problem; what was tried has failed. -/
def object (text : String) : Copying Bool := do
  StateT.lift (Work.fault text)
  return false

def refuse (text : String) (e : SystemError) : Copying Bool :=
  object (text ++ ": " ++ e.reason)

def links (settings : CopySettings) : LinkUse :=
  settings.links?.getD
    (if settings.moves || settings.recursive && !settings.makesLinks then .keep else .follow)

/-- Is a link followed that is an operand, or one below? -/
def follows (settings : CopySettings) (isOperand : Bool) : Bool :=
  match settings.links with
  | .follow => true
  | .followOperands => isOperand
  | .keep => false

/-- Are backups wanted where nothing will be replaced? -/
def wantsNeedlessBackups (settings : CopySettings) : Bool :=
  settings.backup.isWanted && (settings.noClobber || settings.replacement = .refuse)

def keepsBackups (settings : CopySettings) : Bool :=
  settings.backup.kind?.isSome

/-- Tell what was done. -/
def report (settings : CopySettings) (source target backup : String) : Copying Unit := do
  if settings.verbose then
    StateT.lift (Work.sayLine (shellQuoted source ++ " -> " ++ shellQuoted target ++
      (if backup.isEmpty then "" else " (backup: " ++ shellQuoted backup ++ ")")))

def attempt (change : FileTree → Path → Except SystemError FileTree) :
    Copying (Except SystemError Unit) :=
  StateT.lift (Work.attempt change)

def find (path : String) (last : Bool) : Copying (Except SystemError (Path × Nat × Node)) :=
  StateT.lift (Work.find path last)

/-- Remove what stands in the way. -/
def clear (settings : CopySettings) (target : String) : Copying Unit := do
  discard <| attempt fun tree directory => tree.unlink directory target
  if settings.verbose then StateT.lift (Work.sayLine ("removed " ++ shellQuoted target))

/-! ### What is remembered -/

/-- The place that a name has itself. -/
def placeOf (path : String) : Copying (Option Path) := do
  match (← StateT.lift Work.getTree).locate (← StateT.lift read).directory path false with
  | .ok place => return some place
  | .error _ => return none

/-- Do two paths stand for one name in one directory? -/
def isSameName (a b : String) : Copying Bool := do
  match ← placeOf a, ← placeOf b with
  | some a, some b => return a == b
  | _, _ => return false

/-- How many names a thing has. -/
def linkCount (place : Path) (number : Nat) : Copying Nat := do
  return (← StateT.lift Work.getTree).linkCount place number

/-- The name under which a thing has been copied. If there is none, it is remembered that it is
copied under a name now. -/
def remember? (number : Nat) (target : String) : Copying (Option String) := do
  let record ← get
  match record.copied.find? (·.1 == number) with
  | some (_, name) => return some name
  | none => do
    set { record with copied := (number, target) :: record.copied }
    return none

def forget (number : Nat) : Copying Unit :=
  modify fun record => { record with copied := record.copied.filter (·.1 != number) }

/-- Remember what has been made under a name. -/
def noteTarget (settings : CopySettings) (target : String) : Copying Unit := do
  if settings.isMany then
    match ← placeOf target, ← find target false with
    | some place, .ok (_, number, _) =>
      modify fun record => { record with targets := (place, number) :: record.targets }
    | _, _ => pure ()

/-! ### What has the name already -/

/-- Whether one thing may be put in the place of another. -/
inductive Sameness where
  | distinct
  /-- They are the same, as was wanted. -/
  | done
  | same
deriving DecidableEq, Repr

/-- Would the source be lost if it were put in the place of what has the target's name? The numbers
and nodes are of what is copied and of what is replaced. -/
def sameness (settings : CopySettings) (source target : String) (number : Nat) (node : Node)
    (other : Nat) (there : Node) : Copying Sameness := do
  let isKept := settings.links = .keep
  let isOne := number == other
  if isOne && settings.makesLinks then return .done
  if !isKept && !isOne then return .distinct
  let isOneName ← isSameName source target
  if isKept && node.isLink && there.isLink then
    if !isOneName && !settings.keepsBackups && isOne then
      return if settings.moves then .same else .done
    return if isOneName then .same else .distinct
  let targetItself ← if isKept then
      pure (.ok ((← placeOf target).getD [], other, there)) else find target false
  match ← find source false, targetItself with
  | .ok (_, sourceNumber, sourceNode), .ok (targetPlace, targetNumber, targetNode) => do
    if sourceNode.isLink && targetNode.isLink && settings.removesFirst then return .distinct
    let isOneNode := sourceNumber == targetNumber
    let isShared := decide (1 < (← linkCount targetPlace targetNumber))
    if settings.keepsBackups then
      if isOneNode then return if isOneName then .same else .distinct
      return if !isKept && sourceNode.isLink && !targetNode.isLink then .same else .distinct
    if settings.moves || settings.removesFirst then
      if targetNode.isLink then return .distinct
      if isOneNode && isShared && !isOneName then
        return if settings.moves then .same else .distinct
    if !sourceNode.isLink && !targetNode.isLink && !isOneNode then return .distinct
    if !sourceNode.isLink && !targetNode.isLink && settings.makesLinks then return .done
    if settings.moves && node.isLink && isShared then
      match ← find source true with
      | .ok (place, _, _) => return if (← placeOf target) == some place then .same else .distinct
      | .error _ => pure ()
    if settings.makesSymbolicLinks && targetNode.isLink then return .distinct
    if isKept then
      match ← find source true, ← find target true with
      | .ok (_, a, _), .ok (_, b, _) =>
        if a != b then return .distinct
        if settings.makesLinks then return if targetNode.isLink then .distinct else .done
      | _, _ => return .distinct
    return .same
  | _, _ => return .distinct

/-- What is to be done with a thing that has the name already. -/
inductive Verdict where
  | goOn (isNew : Bool) (backup : String)
  | skip
deriving DecidableEq, Repr

def skipAfter (problem : Copying Bool) : Copying Verdict := do
  discard problem
  return .skip

/-- Would a backup of the target take the name of the source? -/
def isBackupOf (settings : CopySettings) (source target : String) (number : Nat) :
    Copying Bool := do
  if settings.backup.kind? = some .numbered then return false
  if PathName.lastPart source != PathName.lastPart target ++ settings.backup.suffix then
    return false
  match ← find (target ++ settings.backup.suffix) true with
  | .ok (_, other, _) => return other == number
  | .error _ => return false

/-- Look at what has the name already. -/
def judge (settings : CopySettings) (isOperand : Bool) (source target : String) (number : Nat)
    (node : Node) : Copying Verdict := do
  let looksAtLinks := settings.moves || settings.makesLinks || settings.makesSymbolicLinks ||
    settings.keepsBackups || settings.removesFirst || node.isDirectory || node.isLink ||
    (!node.isFile && settings.recursive)
  match ← find target (!looksAtLinks) with
  | .error e =>
    if target.isEmpty && settings.moves then
      skipAfter (object "cannot overwrite directory '' with non-directory")
    else if e == .noSuchFile then return .goOn true ""
    else skipAfter (refuse ("cannot stat " ++ shellQuoted target) e)
  | .ok (place, other, there) =>
    let sameness ← if settings.replacement = .always || settings.replacement = .ask then
        settings.sameness source target number node other there
      else pure .distinct
    if sameness = .same then
      return ← skipAfter (object
        (shellQuoted source ++ " and " ++ shellQuoted target ++ " are the same file"))
    if settings.updates && !node.isDirectory && node.modified ≤ there.modified then return .skip
    if settings.moves || !node.isDirectory then
      match settings.replacement with
      | .always => pure ()
      | .skip => return .skip
      | .refuse => return ← skipAfter (object ("not replacing " ++ shellQuoted target))
      | .ask =>
        if !(← StateT.lift (Work.confirm ("overwrite " ++ shellQuoted target))) then
          StateT.lift (Work.setCode 1)
          return .skip
    if sameness = .done then return .skip
    let mayExchange := settings.moves && settings.keepsBackups
    if !there.isDirectory then
      if node.isDirectory && !mayExchange then
        return ← skipAfter (object ("cannot overwrite non-directory " ++ shellQuoted target ++
          " with directory " ++ shellQuoted source))
      if isOperand && settings.backup.kind? != some .numbered then
        match ← placeOf target with
        | some place =>
          if (← get).targets.contains (place, other) then
            return ← skipAfter (object ("will not overwrite just-created " ++
              shellQuoted target ++ " with " ++ shellQuoted source))
        | none => pure ()
    if !node.isDirectory && there.isDirectory && !mayExchange then
      return ← skipAfter (object
        ("cannot overwrite directory " ++ shellQuoted target ++ " with non-directory"))
    let isDots := ["", ".", ".."].contains (FileTree.withoutSlashes (PathName.lastPart source))
    if settings.keepsBackups && !isDots && (settings.moves || !there.isDirectory) then
      if ← settings.isBackupOf source target number then
        return ← skipAfter (object ("backing up " ++ shellQuoted target ++
          " might destroy source;  " ++ shellQuoted source ++
          (if settings.moves then " not moved" else " not copied")))
      return .goOn true ((← StateT.lift (settings.backup.keep target)).getD "")
    let isShared := decide (1 < (← linkCount place other))
    let isInTheWay := settings.removesFirst || !settings.onlyAttributes &&
      (settings.keepsHardLinks && isShared || settings.links = .keep && !node.isFile)
    if !there.isDirectory && !settings.moves && isInTheWay then
      settings.clear target
      return .goOn true ""
    return .goOn false ""

/-- Give a backup its old name after a failure. -/
def restore (settings : CopySettings) (target backup : String) : Copying Unit := do
  if !backup.isEmpty then
    match ← attempt fun tree directory => tree.rename directory backup target with
    | .error e => discard <| refuse ("cannot un-backup " ++ shellQuoted target) e
    | .ok () =>
      if settings.verbose then
        StateT.lift (Work.sayLine
          (shellQuoted backup ++ " -> " ++ shellQuoted target ++ " (unbackup)"))

/-! ### Copying -/

/-- Give a copy the mode and the times of its source, as far as wanted. -/
def dress (settings : CopySettings) (target : String) (source : Node) (isNew : Bool) :
    Copying Unit := do
  match ← find target false with
  | .error _ => pure ()
  | .ok (_, number, node) =>
    let mask := (← StateT.lift read).mask
    let plain := if isNew && !source.isLink then Mode.without source.mode mask else node.mode
    let mode := match settings.mode? with
      | some steps => Mode.apply steps node.isDirectory 0 0
      | none => if settings.keepsMode && !source.isLink then source.mode else plain
    let (modified, accessed) := if settings.keepsTimes then (source.modified, source.accessed)
      else (node.modified, node.accessed)
    let tree ← StateT.lift Work.getTree
    StateT.lift (Work.setTree (tree.modifyAt number fun node =>
      { node with mode, modified, accessed }))

/-- Write the content of a file to another name. -/
def copyContent (settings : CopySettings) (source target : String) (node : Node) (isNew : Bool) :
    Copying Bool := do
  let mode := Mode.without node.mode (← StateT.lift read).mask
  -- a backup may have taken the source away
  match (← find source true).bind fun (_, _, _) => node.content with
  | .error e => refuse ("cannot open " ++ shellQuoted source ++ " for reading") e
  | .ok content => do
    let isDangling := match ← find target false, ← find target true with
      | .ok (_, _, there), .error _ => there.isLink
      | _, _ => false
    if isDangling && isNew then
      return ← object ("not writing through dangling symlink " ++ shellQuoted target)
    if isNew && target.endsWith "/" then
      match ← find (FileTree.withoutSlashes target) true with
      | .error .noSuchFile =>
        return ← refuse ("cannot create regular file " ++ shellQuoted target) .notADirectory
      | _ => pure ()
    if settings.onlyAttributes && !isNew then
      settings.dress target node false
      return true
    let content := if settings.onlyAttributes then "" else content
    let write : Copying (Except SystemError Unit) :=
      attempt fun tree directory => tree.write directory target content mode
    match ← write with
    | .ok () =>
      settings.dress target node isNew
      return true
    | .error e =>
      if !settings.forced || isNew then
        return ← refuse ("cannot create regular file " ++ shellQuoted target) e
      settings.clear target
      match ← write with
      | .error e => refuse ("cannot create regular file " ++ shellQuoted target) e
      | .ok () =>
        settings.dress target node true
        return true

/-- Make something under a name; on request, what has the name gives way. -/
def put (replaces : Bool) (target : String)
    (make : FileTree → Path → Except SystemError FileTree) : Copying (Except SystemError Unit) := do
  match ← attempt make with
  | .error .fileExists =>
    if replaces then
      discard <| attempt fun tree directory => tree.unlink directory target
      attempt make
    else return .error .fileExists
  | made => return made

/-- Give a thing another name. -/
def linkTo (replaces : Bool) (source target : String) (number : Nat) : Copying Bool := do
  match ← put replaces target fun tree directory => tree.linkTo directory number target with
  | .ok () => return true
  | .error e =>
    refuse ("cannot create hard link " ++ shellQuoted target ++ " to " ++ shellQuoted source) e

/-- Make a copy of something that is no directory. -/
def copyPlain (settings : CopySettings) (source target : String) (number : Nat) (node : Node)
    (isNew : Bool) : Copying Bool := do
  if settings.makesSymbolicLinks then
    if !FileTree.isAbsolute source && PathName.directory target != "." then
      return ← object (shellName target ++
        ": can make relative symbolic links only in current directory")
    match ← put settings.forced target fun tree directory =>
        tree.make directory target (.link source) 0o777 with
    | .ok () => return true
    | .error e => refuse ("cannot create symbolic link " ++ shellQuoted target ++ " to " ++
        shellQuoted source) e
  else if settings.makesLinks then
    linkTo (settings.forced || settings.replacement = .ask) source target number
  else match node.kind with
    | .link text =>
      match ← put settings.forced target fun tree directory =>
          tree.make directory target (.link text) 0o777 with
      | .ok () =>
        settings.dress target node true
        return true
      | .error e => refuse ("cannot create symbolic link " ++ shellQuoted target) e
    | .fifo _ =>
      if !settings.recursive then return ← settings.copyContent source target node isNew
      match ← attempt fun tree directory => tree.make directory target (.fifo "") 0o644 with
      | .ok () =>
        settings.dress target node true
        return true
      | .error e => refuse ("cannot create fifo " ++ shellQuoted target) e
    | _ => settings.copyContent source target node isNew

/-- The name under which something has been copied, if it counts. -/
def earlierName? (settings : CopySettings) (isOperand : Bool) (target : String) (place : Path)
    (number : Nat) (node : Node) : Copying (Option String) := do
  if settings.recursive && node.isDirectory then
    if isOperand then remember? number target
    else return ((← get).copied.find? (·.1 == number)).map (·.2)
  else if settings.keepsHardLinks && (1 < (← linkCount place number) ||
      settings.links = .follow || (isOperand && settings.links = .followOperands)) then
    remember? number target
  else return none

/-- Complain of a directory that has been copied, or has been made, already. The answer tells
whether that is so. -/
def isRepeated (settings : CopySettings) (isOperand : Bool) (top : String × String)
    (source target earlier : String) : Copying Bool := do
  if ← isSameName source earlier then
    discard <| object ("cannot copy a directory, " ++ shellQuoted top.1 ++ ", into itself, " ++
      shellQuoted top.2)
    modify fun record => { record with isCircular := true }
    return true
  if ← isSameName target earlier then
    StateT.lift (Work.complain
      ("warning: source directory " ++ shellQuoted top.1 ++ " specified more than once"))
    return true
  if settings.follows isOperand && settings.links != .keep then return false
  discard <| object ("will not create hard link " ++ shellQuoted target ++ " to directory " ++
    shellQuoted earlier)
  return true

/-- The names in a directory, the oldest thing first. -/
def namesByAge (tree : FileTree) (place : Path) : List String :=
  let numbered := (tree.namesIn place).map fun name =>
    ((tree.number? (place ++ [name])).getD 0, name)
  (numbered.mergeSort fun a b => a.1 ≤ b.1).map (·.2)

/-- Copy something with what is below it. `top` are the names with which that began, and `above`
are the directories that are being copied. -/
def copy (settings : CopySettings) (top : String × String) :
    (fuel : Nat) → (isOperand : Bool) → (above : List Nat) → String → String → Copying Unit
  | 0, _, _, _, _ => pure ()
  | fuel + 1, isOperand, above, source, target => do
    match ← find source (settings.follows isOperand) with
    | .error e => discard <| refuse ("cannot stat " ++ shellQuoted source) e
    | .ok (place, number, node) =>
      if node.isDirectory && !settings.recursive then
        discard <| object ((if settings.mode?.isSome then "" else "-r not specified; ") ++
          "omitting directory " ++ shellQuoted source)
        return
      if isOperand && settings.isMany then
        let sighting : Sighting := ((← placeOf source).getD [], number)
        if !node.isDirectory && !settings.keepsBackups &&
            (← get).sources.contains sighting then
          StateT.lift (Work.complain
            ("warning: source file " ++ shellQuoted source ++ " specified more than once"))
          return
        modify fun record => { record with sources := sighting :: record.sources }
      match ← settings.judge isOperand source target number node with
      | .skip => pure ()
      | .goOn isNew backup =>
        if !node.isDirectory then settings.report source target backup
        let earlier? ← settings.earlierName? isOperand target place number node
        let fail : Copying Unit := do
          if earlier?.isNone then forget number
          settings.restore target backup
        if node.isDirectory then
          match earlier? with
          | some earlier =>
            if ← settings.isRepeated isOperand top source target earlier then return
          | none => pure ()
          if above.contains number then
            discard <| object ("cannot copy cyclic symbolic link " ++ shellQuoted source)
            fail
            return
          if isNew then
            let mode := Mode.without node.mode (← StateT.lift read).mask
            match ← attempt fun tree directory =>
              tree.make directory target .directory (mode ||| 0o700) with
            | .error e =>
              discard <| refuse ("cannot create directory " ++ shellQuoted target) e
              fail
              return
            | .ok () =>
              match ← find target true with
              | .ok (_, made, _) =>
                if !(← get).madeDirectory then
                  discard <| remember? made target
                  modify fun record => { record with madeDirectory := true }
              | .error _ => pure ()
              settings.report source target ""
          let names := namesByAge (← StateT.lift Work.getTree) place
          names.forM fun name => do
            if !(← get).isCircular then
              settings.copy top fuel false (number :: above) (PathName.inside source name)
                (PathName.inside target name)
          if isNew || settings.keepsMode || settings.keepsTimes then
            settings.dress target node isNew
        else
          let isDone ← match earlier? with
            | some earlier => do
              let earlierNumber := match ← find earlier false with
                | .ok (_, n, _) => n
                | .error _ => number
              if !isNew && settings.verbose then
                StateT.lift (Work.sayLine ("removed " ++ shellQuoted target))
              linkTo true earlier target earlierNumber
            | none => settings.copyPlain source target number node isNew
          if !isDone then fail
        if isOperand then settings.noteTarget target

/-- Give something another name. -/
def move (settings : CopySettings) (source target : String) : Copying Unit := do
  match ← find source false with
  | .error e => discard <| refuse ("cannot stat " ++ shellQuoted source) e
  | .ok (place, number, node) =>
    let tell (backup : String) : Copying Unit := do
      if settings.verbose then
        StateT.lift (Work.sayLine ("renamed " ++ shellQuoted source ++ " -> " ++
          shellQuoted target ++
          (if backup.isEmpty then "" else " (backup: " ++ shellQuoted backup ++ ")")))
    let isBelow := match ← placeOf target with
      | some path => node.isDirectory && place.isPrefixOf path && !FileTree.endsInDots source
      | none => false
    let isFree := match ← find target false with
      | .error .noSuchFile => !isBelow
      | _ => false
    match ← settings.judge true source target number node with
    | .skip => pure ()
    | .goOn _ backup =>
      if node.isDirectory && !isFree then
        match ← remember? number target with
        | some earlier =>
          if ← settings.isRepeated true (source, target) source target earlier then return
        | none => pure ()
      if isBelow then
        discard <| object ("cannot move " ++ shellQuoted source ++
          " to a subdirectory of itself, " ++ shellQuoted target)
        return
      match ← attempt fun tree directory => tree.rename directory source target with
      | .ok () =>
        tell backup
        settings.noteTarget target
      | .error e =>
        let isTargetsFault := [SystemError.fileExists, .isADirectory, .noSpace,
          .directoryNotEmpty, .textFileBusy].contains e
        discard <| refuse (if isTargetsFault then "cannot overwrite " ++ shellQuoted target
          else "cannot move " ++ shellQuoted source ++ " to " ++ shellQuoted target) e
        forget number

/-- Copy or move one thing. -/
def transfer (settings : CopySettings) (source target : String) : Copying Unit :=
  if settings.moves then settings.move source target
  else do
    modify fun record => { record with madeDirectory := false, isCircular := false }
    settings.copy (source, target) 4096 true [] source target

/-- Copy or move things into a directory. -/
def transferInto (settings : CopySettings) (directory : String) (sources : List String) :
    Copying Unit :=
  let settings := { settings with isMany := 1 < sources.length }
  sources.forM fun source => do
    let stem := FileTree.withoutSlashes source
    let source := if settings.stripsSlashes then stem else source
    if settings.withParents then
      let target := PathName.inside directory (String.ofList (stem.toList.dropWhile (· == '/')))
      let above ← StateT.lift (makeAbove target 0o755 fun made => do
        if settings.verbose then
          let original := String.ofList (made.toList.drop (directory.length + 1))
          Work.sayLine (original ++ " -> " ++ made))
      match above with
      | .ok () => settings.transfer source target
      | .error (path, e) => discard <| refuse ("cannot make directory " ++ shellQuoted path) e
    else
      let name := FileTree.withoutSlashes (PathName.lastPart source)
      let name := if name == ".." && !settings.moves then "." else if name.isEmpty then "/" else name
      settings.transfer source (PathName.inside directory name)

/-- Copy or move all operands. -/
def transferAll (settings : CopySettings) (operands : List String) : Work Unit := do
  let run (action : CopySettings → Copying Unit) : Work Unit := do
    if settings.moves && settings.wantsNeedlessBackups then
      Work.misuse "cannot combine --backup with --exchange, -n, or --update=none-fail"
    let backup ← settings.backup.settled
    discard <| (action { settings with backup }).run {}
  if operands.isEmpty then Work.misuse "missing file operand"
  if settings.directory?.isNone && operands.length == 1 then
    Work.misuse ("missing destination file operand after " ++ shellQuoted (operands.headD ""))
  let operands := if settings.moves && settings.stripsSlashes
    then operands.map FileTree.withoutSlashes else operands
  let directoryFault? (path : String) : Work (Option SystemError) := do
    match ← Work.find path with
    | .error e => return some e
    | .ok (_, _, node) => return if node.isDirectory then none else some .notADirectory
  if settings.isName then
    if settings.directory?.isSome then
      Work.die ("cannot combine --target-directory (-t) and --no-target-directory (-T)")
    match operands with
    | [source, target] => run (·.transfer source target)
    | _ => Work.misuse ("extra operand " ++ shellQuoted ((operands[2]?).getD ""))
  else match settings.directory? with
    | some directory =>
      match ← directoryFault? directory with
      | none => run (·.transferInto directory operands)
      | some e => Work.die ("target directory " ++ shellQuoted directory ++ ": " ++ e.reason)
    | none =>
      let last := operands.getLast?.getD ""
      match ← directoryFault? last, operands with
      | none, _ => run (·.transferInto last operands.dropLast)
      | some _, [source, target] =>
        if settings.withParents then
          Work.misuse "with --parents, the destination must be a directory"
        let isFile := ((← Work.look? target).map Node.isFile).getD false
        run fun settings => do
          if settings.forced && settings.keepsBackups && source == target && isFile &&
              !settings.moves then
            -- the copy of a file to itself is its backup
            let kept? ← StateT.lift (settings.backup.nameFor target)
            { settings with backup := {} }.transfer source (kept?.getD target)
          else settings.transfer source target
      | some e, _ => Work.die ("target " ++ shellQuoted last ++ ": " ++ e.reason)

end CopySettings

/-! ## The tools -/

def cpOptions : OptionTable where
  letters := "abdfHilLnprst:uvxPRS:TZ"
  words := [("archive", "a"), ("attributes-only", "attributes"), ("backup?", "b"),
    ("copy-contents", "contents"), ("debug", "v"), ("dereference", "L"), ("force", "f"),
    ("interactive", "i"), ("link", "l"), ("no-clobber", "n"), ("no-dereference", "P"),
    ("no-preserve=", "spoil"), ("no-target-directory", "T"), ("one-file-system", "x"),
    ("parents", "parents"), ("path", "parents"), ("preserve?", "p"), ("recursive", "r"),
    ("remove-destination", "first"), ("sparse=", "sparse"), ("reflink?", "reflink"),
    ("strip-trailing-slashes", "slashes"), ("suffix=", "S"), ("symbolic-link", "s"),
    ("target-directory=", "t"), ("update?", "u"), ("verbose", "v"), ("context?", "Z")]

/-- What can be kept of a file. -/
def attributes : Choices String := [
  (["mode"], "mode"), (["timestamps"], "timestamps"), (["ownership"], "ownership"),
  (["links"], "links"), (["context"], "context"), (["xattr"], "xattr"), (["all"], "all")]

/-- Which files an update replaces. -/
inductive UpdateUse where
  | all
  | never
  | refuse
  | older
deriving DecidableEq, Repr

def updateUses : Choices UpdateUse := [
  (["all"], .all), (["none"], .never), (["none-fail"], .refuse), (["older"], .older)]

/-- What options of `cp` and `mv` have in common. -/
def commonStep (settings : CopySettings) (option : GivenOption) : Work CopySettings := do
  match option.key with
  | "b" => return { settings with backup := settings.backup.withKind option.value? }
  | "i" => return { settings with replacement := .ask, noClobber := false }
  | "n" => return { settings with replacement := .skip, noClobber := true }
  | "S" => return { settings with backup := settings.backup.withSuffix option.value }
  | "t" =>
    if settings.directory?.isSome then Work.die "multiple target directories specified"
    return { settings with directory? := some option.value }
  | "T" => return { settings with isName := true }
  | "u" =>
    let use ← match option.value? with
      | some text => Work.choice "--update" text updateUses
      | none => pure .older
    return match use with
      | .all => { settings with updates := false, replacement := .always }
      | .never => { settings with updates := false, replacement := .skip }
      | .refuse => { settings with updates := false, replacement := .refuse }
      | .older => { settings with updates := true }
  | "v" => return { settings with verbose := true }
  | "slashes" => return { settings with stripsSlashes := true }
  | _ => return settings

def cpStep (settings : CopySettings) (option : GivenOption) : Work CopySettings := do
  match option.key with
  | "a" => return { settings with
      links? := some .keep, recursive := true, keepsMode := true, keepsTimes := true
      keepsHardLinks := true }
  | "d" => return { settings with links? := some .keep, keepsHardLinks := true }
  | "f" => return { settings with forced := true }
  | "H" => return { settings with links? := some .followOperands }
  | "l" => return { settings with makesLinks := true }
  | "L" => return { settings with links? := some .follow }
  | "P" => return { settings with links? := some .keep }
  | "p" =>
    match option.value? with
    | none => return { settings with keepsMode := true, keepsTimes := true }
    | some text => do
      let chosen ← ((text.toList.splitOn ',').map String.ofList).mapM fun word =>
        Work.choice "--preserve" word attributes
      let has (name : String) := chosen.contains name || chosen.contains "all"
      return { settings with
        keepsMode := settings.keepsMode || has "mode"
        keepsTimes := settings.keepsTimes || has "timestamps"
        keepsHardLinks := settings.keepsHardLinks || has "links" }
  | "spoil" => do
    let chosen ← ((option.value.toList.splitOn ',').map String.ofList).mapM fun word =>
      Work.choice "--no-preserve" word attributes
    let has (name : String) := chosen.contains name || chosen.contains "all"
    return { settings with
      keepsMode := settings.keepsMode && !has "mode"
      keepsTimes := settings.keepsTimes && !has "timestamps"
      keepsHardLinks := settings.keepsHardLinks && !has "links" }
  | "r" => return { settings with recursive := true }
  | "R" => return { settings with recursive := true }
  | "s" => return { settings with makesSymbolicLinks := true }
  | "attributes" => return { settings with onlyAttributes := true }
  | "first" => return { settings with removesFirst := true }
  | "parents" => return { settings with withParents := true }
  | _ => commonStep settings option

/-- `cp`: copies files. -/
def copyFiles : Tool := do
  let (settings, operands) ← Work.options cpOptions ({} : CopySettings) cpStep
  if settings.makesLinks && settings.makesSymbolicLinks then
    Work.misuse "cannot make both hard and symbolic links"
  if settings.wantsNeedlessBackups then
    Work.misuse "--backup is mutually exclusive with -n or --update=none-fail"
  settings.transferAll operands

def mvOptions : OptionTable where
  letters := "bfint:uvS:TZ"
  words := [("backup?", "b"), ("context", "Z"), ("debug", "v"), ("force", "f"),
    ("interactive", "i"), ("no-clobber", "n"), ("no-copy", "no-copy"),
    ("no-target-directory", "T"), ("strip-trailing-slashes", "slashes"), ("suffix=", "S"),
    ("target-directory=", "t"), ("update?", "u"), ("verbose", "v")]

def mvStep (settings : CopySettings) (option : GivenOption) : Work CopySettings := do
  match option.key with
  | "f" => return { settings with replacement := .always, noClobber := false }
  | _ => commonStep settings option

/-- `mv`: gives files other names. -/
def moveFiles : Tool := do
  let (settings, operands) ← Work.options mvOptions ({ moves := true, recursive := true } : CopySettings)
    mvStep
  settings.transferAll operands

def installOptions : OptionTable where
  letters := "bcCsDdg:m:o:pt:TvS:Z"
  words := [("backup?", "b"), ("compare", "C"), ("context?", "Z"), ("debug", "v"),
    ("directory", "d"), ("group=", "g"), ("mode=", "m"), ("no-target-directory", "T"),
    ("owner=", "o"), ("preserve-timestamps", "p"), ("strip", "s"), ("suffix=", "S"),
    ("target-directory=", "t"), ("verbose", "v")]

def installStep (settings : CopySettings) (option : GivenOption) : Work CopySettings := do
  match option.key with
  | "p" => return { settings with keepsTimes := true }
  | "m" =>
    match Mode.change? option.value with
    | some steps => return { settings with mode? := some steps }
    | none => Work.die ("invalid mode " ++ quoted option.value)
  | "i" => return settings
  | "u" => return settings
  | "n" => return settings
  | _ => commonStep settings option

/-- `install`: copies files and gives them a mode, or makes directories. -/
def installFiles : Tool := do
  let (options, operands) ← Work.optionList installOptions
  let has (key : String) := options.any (·.key == key)
  let stock := (Mode.change? "755").getD []
  let settings ← options.foldlM installStep ({ mode? := some stock, removesFirst := true } :
    CopySettings)
  let settings := { settings with removesFirst := false }
  let steps := settings.mode?.getD []
  if has "d" then
    if settings.directory?.isSome then
      Work.die "target directory not allowed when installing a directory"
    if operands.isEmpty then Work.misuse "missing file operand"
    let tell (path : String) : Work Unit := do
      if settings.verbose then
        Work.sayLine ((← read).name ++ ": creating directory " ++ shellQuoted path)
    operands.forM fun path => do
      match ← makeAbove path 0o755 tell with
      | .error (path, e) =>
        Work.fault ("cannot create directory " ++ shellQuoted path ++ ": " ++ e.reason)
      | .ok () =>
        let mode := Mode.apply steps true 0 0
        match ← Work.attempt fun tree directory => tree.make directory path .directory mode with
        | .ok () => tell path
        | .error e =>
          match ← Work.find path with
          | .ok (_, number, node) =>
            if node.isDirectory then
              Work.setTree ((← Work.getTree).modifyAt number fun node => { node with mode })
            else Work.fault ("cannot create directory " ++ shellQuoted path ++ ": " ++ e.reason)
          | .error _ =>
            Work.fault ("cannot create directory " ++ shellQuoted path ++ ": " ++ e.reason)
  else
    if has "D" then
      match settings.directory?, operands.getLast? with
      | some directory, _ =>
        discard <| makeAbove (PathName.inside directory "x") 0o755 fun _ => pure ()
      | none, some target =>
        if operands.length == 2 then
          let above ← makeAbove target 0o755 fun made => do
            if settings.verbose then
              Work.sayLine ((← read).name ++ ": creating directory " ++ shellQuoted made)
          match above with
          | .ok () => pure ()
          | .error (path, e) =>
            Work.die ("cannot create directory " ++ shellQuoted path ++ ": " ++ e.reason)
      | none, none => pure ()
    settings.transferAll operands

end Polyglot.Tool
