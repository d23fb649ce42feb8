import Polyglot.Sandbox.FileTree.Mode
import Polyglot.Sandbox.Tool.Identity
import Polyglot.Sandbox.Tool.PathName

/-!
# Permissions

Tools that change who may do what with a file, and whose it is.
-/

namespace Polyglot.Tool

/-- How much is told of changes. -/
inductive Report where
  | faults
  | changes
  | everything
deriving DecidableEq, Repr

/-- What is done with links that are found below an operand. -/
inductive LinkRule where
  /-- They are left alone, and that is told. -/
  | leave
  /-- They are changed themselves. -/
  | change
  /-- What they lead to is changed. -/
  | follow
  /-- So is everything below that. -/
  | enter
deriving DecidableEq, Repr

/-- What the tools of this module have in common. -/
structure ChangeSettings where
  recursive : Bool := false
  report : Report := .faults
  sparesRoot : Bool := false
  reference? : Option String := none
  /-- Problems with single files are not told. -/
  isSilent : Bool := false
  /-- Links that are operands are looked through. -/
  followsLast : Bool := true
  linksBelow : LinkRule := .leave
  /-- A directory is changed after what is in it. -/
  isUpward : Bool := false
  /-- What is told of a file that cannot be reached. -/
  unreached : String → String := fun path => shellQuoted path ++ " could not be accessed"
  /-- The complaint about a link that leads nowhere. -/
  dangling : String → String := fun path =>
    "cannot operate on dangling symlink " ++ shellQuoted path

namespace ChangeSettings

def step (settings : ChangeSettings) (option : GivenOption) : Work ChangeSettings := do
  match option.key with
  | "R" => return { settings with recursive := true }
  | "c" => return { settings with report := .changes }
  | "f" => return { settings with isSilent := true }
  | "v" => return { settings with report := .everything }
  | "spare" => return { settings with sparesRoot := true }
  | "spoil" => return { settings with sparesRoot := false }
  | "reference" => return { settings with reference? := some option.value }
  | "h" => return { settings with followsLast := false }
  | "dereference" => return { settings with followsLast := true }
  | _ => return settings

/-- Tell of a problem unless nothing is to be told. -/
def fault (settings : ChangeSettings) (text : String) : Work Unit := do
  if settings.isSilent then Work.setCode 1 else Work.fault text

/-- Go to a path and, on request, to everything below it. -/
def visit (settings : ChangeSettings) (change : String → Nat → Node → Work Unit) :
    (fuel : Nat) → (isFirst : Bool) → String → Work Unit
  | 0, _, _ => pure ()
  | fuel + 1, isFirst, path => do
    let rule := settings.linksBelow
    let follows := if isFirst then settings.followsLast else rule = .follow || rule = .enter
    let isLink := ((← Work.look? path false).map Node.isLink).getD false
    match ← Work.find path follows with
    | .error e => do
      settings.fault (if isLink && e == .noSuchFile then settings.dangling path
        else "cannot access " ++ shellQuoted path ++ ": " ++ e.reason)
      if settings.report = .everything then Work.sayLine (settings.unreached path)
    | .ok (place, number, node) => do
      let changeIt : Work Unit := do
        if isFirst || !node.isLink || rule = .change then change path number node
        else if settings.report = .everything then
          Work.sayLine ("neither symbolic link " ++ shellQuoted path ++
            " nor referent has been changed")
      if !settings.isUpward then changeIt
      if settings.recursive && node.isDirectory && (isFirst || !isLink || rule = .enter) then
        if settings.sparesRoot && place.isEmpty then
          settings.fault ("it is dangerous to operate recursively on " ++ shellQuoted path)
        else
          ((← Work.getTree).namesIn place).forM fun name =>
            settings.visit change fuel false (PathName.inside path name)
      if settings.isUpward then changeIt

end ChangeSettings

/-! ## Modes -/

def chmodOptions : OptionTable where
  letters := "Rcfvr::w::x::X::s::t::u::g::o::a::,::+::=::0::1::2::3::4::5::6::7::"
  words := [("changes", "c"), ("recursive", "R"), ("no-preserve-root", "spoil"),
    ("preserve-root", "spare"), ("quiet", "f"), ("reference=", "reference"), ("silent", "f"),
    ("verbose", "v"), ("dereference", "dereference"), ("no-dereference", "h")]

/-- A mode as digits and letters. -/
def modeWords (mode : Nat) : String :=
  let digits := Mode.digits mode
  String.ofList (List.replicate (4 - digits.length) '0') ++ digits ++ " (" ++
    Mode.lettersOf mode ++ ")"

/-- Change the mode of one node. `isStrict` asks for a complaint if the mask kept something that the
change alone would not have kept. -/
def changeMode (settings : ChangeSettings) (isStrict : Bool) (steps : List Mode.Step)
    (path : String) (number : Nat) (node : Node) : Work Unit := do
  let mode := Mode.apply steps node.isDirectory (← read).mask node.mode
  Work.setTree ((← Work.getTree).modifyAt number fun node => { node with mode })
  let isChanged := mode != node.mode
  if settings.report = .everything || (settings.report = .changes && isChanged) then
    Work.sayLine ("mode of " ++ shellQuoted path ++ (if isChanged then
      " changed from " ++ modeWords node.mode ++ " to " ++ modeWords mode
      else " retained as " ++ modeWords mode))
  let naive := Mode.apply steps node.isDirectory 0 node.mode
  if isStrict && Mode.without mode naive != 0 then
    settings.fault (shellName path ++ ": new permissions are " ++ Mode.lettersOf mode ++ ", not " ++
      Mode.lettersOf naive)

/-- `chmod`: changes modes. -/
def changeModes : Tool := do
  let (options, operands) ← Work.optionList chmodOptions
  let isModeLetter (key : String) : Bool :=
    key.length == 1 && "rwxXstugoa,+=01234567".toList.any fun c => key == String.singleton c
  let settings ← (options.filter fun o => !isModeLetter o.key).foldlM ChangeSettings.step
    ({} : ChangeSettings)
  let hyphened := (options.filter fun o => isModeLetter o.key).map fun o => "-" ++ o.key ++ o.value
  let isStrict := !hyphened.isEmpty
  let (change, operands) ← match settings.reference? with
    | some _ =>
      if isStrict then Work.misuse "cannot combine mode and --reference options"
      else pure ("", operands)
    | none =>
      if isStrict then pure (",".intercalate hyphened, operands)
      else match operands with
        | [] => Work.misuse "missing operand"
        | change :: rest =>
          if rest.isEmpty then Work.misuse ("missing operand after " ++ quoted change)
          else pure (change, rest)
  if operands.isEmpty then
    Work.misuse "missing operand"
  let steps ← match settings.reference? with
    | some file =>
      match ← Work.find file with
      | .ok (_, _, node) =>
        pure [({ operator := '=', affected := Mode.allBits, value := node.mode,
                 mentioned := Mode.allBits } : Mode.Step)]
      | .error e =>
        Work.die ("failed to get attributes of " ++ shellQuoted file ++ ": " ++ e.reason)
    | none =>
      match Mode.change? change with
      | some steps => pure steps
      | none => Work.misuse ("invalid mode: " ++ quoted change)
  operands.forM (settings.visit (changeMode settings isStrict steps) 4096 true)

/-! ## Owners -/

def chownOptions : OptionTable where
  letters := "HLPRcfhv"
  words := [("recursive", "R"), ("changes", "c"), ("dereference", "dereference"), ("from=", "from"),
    ("no-dereference", "h"), ("no-preserve-root", "spoil"), ("preserve-root", "spare"),
    ("quiet", "f"), ("silent", "f"), ("reference=", "reference"), ("verbose", "v")]

/-- Whose a file is to be, and how that was written. -/
structure NewOwner where
  owner? : Option Nat := none
  group? : Option Nat := none
  written : String := ""

/-- An owner and a group that were written, as `user:group` or, out of use, `user.group`. -/
def NewOwner.read (text : String) : Work NewOwner := do
  let cs := text.toList
  let parts (mark : Char) : List Char × Option (List Char) :=
    let user := cs.takeWhile (· != mark)
    (user, if user.length < cs.length then some (cs.drop (user.length + 1)) else none)
  let users ← Work.users
  let groups ← Work.groups
  let plain (part : List Char) : List Char := if part.head? == some '+' then part.tail else part
  let ofParts : List Char × Option (List Char) → Except String NewOwner
    | (user, group?) => do
      let isSpec := !user.isEmpty && group? == some []
      let owner? ← if user.isEmpty then pure none else
        match Account.find? users (String.ofList user) with
        | some account => pure (some account)
        | none => throw ((if isSpec then "invalid spec: " else "invalid user: ") ++ quoted text)
      match group? with
      | none => return { owner? := owner?.map (·.number), written := String.ofList (plain user) }
      | some [] =>
        if isSpec && !users.any (·.name == String.ofList user) then throw ("invalid spec: " ++ quoted text)
        let group := (owner?.map fun owner => Account.nameOf groups owner.group).getD ""
        return {
          owner? := owner?.map (·.number), group? := owner?.map (·.group)
          written := if owner?.isSome then String.ofList user ++ ":" ++ group else "" }
      | some group =>
        match Account.find? groups (String.ofList group) with
        | some account =>
          return {
            owner? := owner?.map (·.number), group? := some account.number
            written := String.ofList (plain user ++ ':' :: plain group) }
        | none => throw ("invalid group: " ++ quoted text)
  match ofParts (parts ':') with
  | .ok new => return new
  | .error problem =>
    if cs.contains ':' || !cs.contains '.' then Work.die problem
    match ofParts (parts '.') with
    | .ok new => do
      Work.complain ("warning: '.' should be ':': " ++ quoted text)
      return new
    | .error _ => Work.die problem

/-- Change the owner and the group of one node. -/
def changeOwner (settings : ChangeSettings) (onlyGroup : Bool) (required wanted : NewOwner)
    (path : String) (number : Nat) (node : Node) : Work Unit := do
  let agrees (required? : Option Nat) (n : Nat) : Bool := required?.all (· == n)
  let isMeant := agrees required.owner? node.owner && agrees required.group? node.group
  let new := if isMeant then wanted else {}
  let owner := new.owner?.getD node.owner
  let group := new.group?.getD node.group
  Work.setTree ((← Work.getTree).modifyAt number fun node => { node with owner, group })
  let isChanged := owner != node.owner || group != node.group
  let oldOwner := Account.nameOf (← Work.users) node.owner
  let oldGroup := Account.nameOf (← Work.groups) node.group
  let old := if onlyGroup then (if wanted.group?.isSome then oldGroup else "")
    else if wanted.group?.isSome then oldOwner ++ ":" ++ oldGroup
    else if wanted.owner?.isSome then oldOwner
    else ""
  if settings.report = .everything || (settings.report = .changes && isChanged) then
    let what := if onlyGroup && wanted.group?.isSome then "group" else "ownership"
    Work.sayLine (if isChanged then
      "changed " ++ what ++ " of " ++ shellQuoted path ++ " from " ++ old ++ " to " ++ wanted.written
      else what ++ " of " ++ shellQuoted path ++ " retained" ++
        (if old.isEmpty then "" else " as " ++ old))

/-- `chown` and `chgrp`: change whose files are. -/
def changeOwners (onlyGroup : Bool) : Tool := do
  let (options, operands) ← Work.optionList chownOptions
  let settings ← options.foldlM ChangeSettings.step ({} : ChangeSettings)
  match operands with
  | [] => Work.misuse "missing operand"
  | [only] =>
    if settings.reference?.isNone then Work.misuse ("missing operand after " ++ quoted only)
  | _ => pure ()
  let walk := ((options.filter fun o => ["H", "L", "P"].contains o.key).getLast?.map (·.key)).getD "P"
  let given := (options.filter fun o => ["h", "dereference"].contains o.key).getLast?.map (·.key)
  if settings.recursive && walk == "P" && given == some "dereference" then
    Work.die "-R --dereference requires either -H or -L"
  let users ← Work.users
  let groups ← Work.groups
  let (new, operands) : NewOwner × List String ← match settings.reference? with
    | some file =>
      match ← Work.find file with
      | .ok (_, _, node) =>
        let group := Account.nameOf groups node.group
        let written := if onlyGroup then group else Account.nameOf users node.owner ++ ":" ++ group
        pure ({ owner? := if onlyGroup then none else some node.owner, group? := some node.group,
                written }, operands)
      | .error e =>
        Work.die ("failed to get attributes of " ++ shellQuoted file ++ ": " ++ e.reason)
    | none =>
      let text := operands.headD ""
      if onlyGroup then
        match Account.find? groups text with
        | some account =>
          let written := if text.startsWith "+" then (text.drop 1).toString else text
          pure ({ group? := some account.number, written }, operands.tail)
        | none =>
          if text.isEmpty then pure ({}, operands.tail)
          else Work.die ("invalid group: " ++ quoted text)
      else pure (← NewOwner.read text, operands.tail)
  let required ← match (options.filter (·.key == "from")).getLast? with
    | some option => NewOwner.read option.value
    | none => pure {}
  let settings := if settings.recursive then
      { settings with
        isUpward := true
        followsLast := walk != "P"
        linksBelow := if given == some "h" || walk == "P" then .change
          else if walk == "L" then .enter else .follow }
    else settings
  let settings := { settings with
    unreached := fun path =>
      "failed to change " ++ (if onlyGroup then "group" else "ownership") ++ " of " ++
        shellQuoted path ++ (if new.written.isEmpty then "" else " to " ++ new.written)
    dangling := fun path =>
      "cannot dereference " ++ shellQuoted path ++ ": " ++ SystemError.noSuchFile.reason }
  operands.forM (settings.visit (changeOwner settings onlyGroup required new) 4096 true)

end Polyglot.Tool
