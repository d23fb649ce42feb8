import Polyglot.Sandbox.FileTree.Change
import Polyglot.Sandbox.Tool.Options
import Polyglot.Sandbox.Tool.PathName
import Polyglot.Sandbox.Tool.Quantity

/-!
# Backups

What has a name already may be kept under another one: the name with an ending, or with a number
that counts the backups.
-/

namespace Polyglot.Tool

/-- How the names of backups are made. -/
inductive BackupKind where
  | simple
  | numbered
  /-- With numbers if there are such backups already. -/
  | asBefore
deriving DecidableEq, Repr

/-- Whether backups are made and how they are called. The last two are settled when all options are
known. -/
structure BackupSettings where
  isWanted : Bool := false
  /-- The kind and the ending as options give them. -/
  control? : Option String := none
  ending? : Option String := none
  kind? : Option BackupKind := none
  suffix : String := "~"

namespace BackupSettings

def kinds : Choices (Option BackupKind) := [
  (["none", "off"], none), (["simple", "never"], some .simple),
  (["existing", "nil"], some .asBefore), (["numbered", "t"], some .numbered)]

def withKind (settings : BackupSettings) (text? : Option String) : BackupSettings :=
  { settings with isWanted := true, control? := text?.or settings.control? }

def withSuffix (settings : BackupSettings) (ending : String) : BackupSettings :=
  { settings with isWanted := true, ending? := some ending }

/-- What options leave open is looked up in the environment. -/
def settled (settings : BackupSettings) : Work BackupSettings := do
  let kind? ← if !settings.isWanted then pure none else
    match settings.control?, ← Work.environmentValue? "VERSION_CONTROL" with
    | some text, _ => Work.choice "backup type" text kinds
    | none, some text => Work.choice "$VERSION_CONTROL" text kinds
    | none, none => pure (some .asBefore)
  let ending? := settings.ending?.or (← Work.environmentValue? "SIMPLE_BACKUP_SUFFIX")
  let suffix := match ending? with
    | some ending => if ending.isEmpty || ending.toList.contains '/' then "~" else ending
    | none => "~"
  return { settings with kind?, suffix }

/-- The numbers of the backups of a name. -/
def numbersOf (names : List String) (name : String) : List Nat :=
  names.filterMap fun other =>
    if other.startsWith (name ++ ".~") && other.endsWith "~" then
      decimal? ((other.drop (name.length + 2)).dropEnd 1).toString
    else none

/-- The name under which something is kept. -/
def nameFor (settings : BackupSettings) (path : String) : Work (Option String) := do
  match settings.kind? with
  | none => return none
  | some kind => do
    let tree ← Work.getTree
    let path := FileTree.withoutSlashes path
    let names := match tree.locate (← read).directory (PathName.directory path) with
      | .ok place => tree.namesIn place
      | .error _ => []
    let numbers := numbersOf names (PathName.base path)
    if kind = .numbered || (kind = .asBefore && !numbers.isEmpty) then
      return some (path ++ ".~" ++ toString (numbers.foldl max 0 + 1) ++ "~")
    else return some (path ++ settings.suffix)

/-- Give something the name of a backup, which is given. -/
def keep (settings : BackupSettings) (path : String) : Work (Option String) := do
  match ← settings.nameFor path with
  | none => return none
  | some kept => do
    discard <| Work.attempt fun tree directory => tree.rename directory path kept
    return some kept

end BackupSettings

end Polyglot.Tool
