import Polyglot.Sandbox.Tool.Options
import Polyglot.Sandbox.Tool.PathName
import Polyglot.Sandbox.Tool.Quantity

/-!
# Who and where

The names and numbers of users and groups that the machine knows, out of the files that list them,
and tools that tell of the user and of the machine. There is one user, who may do everything.
-/

namespace Polyglot

/-! ## Users and groups -/

/-- A user or a group: its name, its number and, for users, the number of the group. -/
structure Account where
  name : String
  number : Nat
  group : Nat := 0
deriving DecidableEq, Repr

namespace Account

/-- A line of a file of accounts, with colons between its fields. -/
def ofLine? (line : List Char) : Option Account :=
  match (line.splitOn ':').map String.ofList with
  | name :: _ :: number :: group :: _ =>
    (Tool.decimal? number).map fun number =>
      { name, number, group := (Tool.decimal? group).getD 0 }
  | _ => none

/-- The name of a number, or what stands for one without a name: the number itself. -/
def nameOf (accounts : List Account) (number : Nat) (unknown : String := toString number) :
    String :=
  match accounts.find? (·.number == number) with
  | some account => account.name
  | none => unknown

/-- The account of a name or a number. -/
def find? (accounts : List Account) (text : String) : Option Account :=
  match accounts.find? (·.name == text) with
  | some account => some account
  | none =>
    let digits := if text.startsWith "+" then (text.drop 1).toString else text
    (Tool.decimal? digits).map fun number =>
      (accounts.find? (·.number == number)).getD { name := text, number }

end Account

namespace Work

/-- The accounts in a file. -/
def accounts (path : String) : Work (List Account) := do
  match (← getTree).read [] path with
  | .ok text => return (textLines text.toList).filterMap Account.ofLine?
  | .error _ => return []

def users : Work (List Account) :=
  accounts "/etc/passwd"

def groups : Work (List Account) :=
  accounts "/etc/group"

end Work

end Polyglot

namespace Polyglot.Tool

/-! ## Tools -/

def idOptions : OptionTable where
  letters := "agnruzGZ"
  words := [("context", "Z"), ("group", "g"), ("groups", "G"), ("name", "n"), ("real", "r"),
    ("user", "u"), ("zero", "z")]

/-- `id`: users and groups. -/
def tellIdentity : Tool := do
  let (options, users) ← Work.optionList idOptions
  let has (key : String) := options.any (·.key == key)
  let chosen := (["g", "u", "G", "Z"].filter has).length
  if 1 < users.length + (if has "Z" then 1 else 0) && has "Z" then
    Work.die "cannot print security context when user specified"
  if 1 < chosen then Work.die "cannot print \"only\" of more than one choice"
  if chosen = 0 && (has "n" || has "r") then
    Work.die "cannot print only names or real IDs in default format"
  if chosen = 0 && has "z" then Work.die "option --zero not permitted in default format"
  if has "Z" then
    Work.die "--context (-Z) works only on an SELinux-enabled kernel"
  let mark := if has "z" then "\x00" else "\n"
  let known ← Work.users
  let groups ← Work.groups
  let tell (account : Account) : Work Unit := do
    let group := Account.nameOf groups account.group
    let isUser := has "u"
    let text :=
      if chosen = 0 then
        s!"uid={account.number}(" ++ account.name ++ s!") gid={account.group}(" ++ group ++
          s!") groups={account.group}(" ++ group ++ ")"
      else if has "n" then (if isUser then account.name else group)
      else toString (if isUser then account.number else account.group)
    Work.say (text ++ mark)
  (if users.isEmpty then ["0"] else users).forM fun user => do
    match known.find? fun account => account.name == user || toString account.number == user with
    | some account => tell account
    | none => Work.fault (quoted user ++ ": no such user")

/-- A tool that takes no operands. -/
def withoutOperands (table : OptionTable) (tool : Tool) : Tool := do
  let (_, operands) ← Work.optionList table
  match operands with
  | [] => tool
  | extra :: _ => Work.misuse ("extra operand " ++ quoted extra)

/-- `groups`: the groups of users. -/
def tellGroups : Tool := do
  let (_, users) ← Work.optionList { letters := "" }
  if users.isEmpty then Work.sayLine "root"
  else
    let known ← Work.users
    let groups ← Work.groups
    users.forM fun user => do
      match known.find? (·.name == user) with
      | some account => Work.sayLine (user ++ " : " ++ Account.nameOf groups account.group)
      | none => Work.fault (quoted user ++ ": no such user")

def unameOptions : OptionTable where
  letters := "asnrvmpio"
  words := [("all", "a"), ("kernel-name", "s"), ("sysname", "s"), ("nodename", "n"),
    ("kernel-release", "r"), ("release", "r"), ("kernel-version", "v"), ("machine", "m"),
    ("processor", "p"), ("hardware-platform", "i"), ("operating-system", "o")]

/-- `uname`: the system. -/
def tellSystem : Tool := do
  let (options, operands) ← Work.optionList unameOptions
  match operands with
  | extra :: _ => Work.misuse ("extra operand " ++ quoted extra)
  | [] =>
    let has (key : String) := options.any fun option => option.key == key || option.key == "a"
    let known : List (String × String) := [("s", "Linux"), ("n", "localhost"), ("r", "6.0.0"),
      ("v", "#1 SMP"), ("m", "x86_64"), ("p", "x86_64"), ("i", "x86_64"), ("o", "GNU/Linux")]
    let parts := if options.isEmpty then ["Linux"]
      else known.filterMap fun (key, text) => if has key then some text else none
    Work.sayLine (" ".intercalate parts)

def ttyOptions : OptionTable where
  letters := "s"
  words := [("quiet", "s"), ("silent", "s")]
  misuseCode := 2

/-- `tty`: the terminal, which there is none of. -/
def tellTerminal : Tool := do
  let (options, operands) ← Work.optionList ttyOptions
  match operands with
  | extra :: _ => Work.misuse ("extra operand " ++ quoted extra) 2
  | [] =>
    if !options.any (·.key == "s") then Work.sayLine "not a tty"
    Work.setCode 1

/-- `stty`: the settings of the terminal, which there is none of. -/
def tellTerminalSettings : Tool := do
  let table : OptionTable := {
    letters := "agF:", words := [("all", "a"), ("save", "g"), ("file=", "F")] }
  discard <| Work.optionList table
  Work.die "'standard input': Inappropriate ioctl for device"

def visitorOptions : OptionTable where
  letters := "abdlmpqrstuwHT"
  words := [("all", "a"), ("boot", "b"), ("count", "q"), ("dead", "d"), ("heading", "H"),
    ("login", "l"), ("lookup", "lookup"), ("message", "T"), ("mesg", "T"), ("process", "p"),
    ("runlevel", "r"), ("short", "s"), ("time", "t"), ("users", "u"), ("writable", "T")]

/-- `who`: those who are logged in, of whom there are none. -/
def tellVisitors : Tool := do
  let (options, operands) ← Work.optionList visitorOptions
  match operands with
  | _ :: _ :: extra :: _ => Work.misuse ("extra operand " ++ quoted extra)
  | _ => pure ()
  if options.any (·.key == "q") then Work.say "\n# users=0\n"
  else if options.any (·.key == "H") then
    Work.sayLine "NAME     LINE         TIME             COMMENT"

/-- `sync`: there is nothing that would have to be written. -/
def synchronize : Tool := do
  let (_, operands) ← Work.optionList
    { letters := "df", words := [("data", "d"), ("file-system", "f")] }
  operands.forM fun path => do
    match ← Work.find path with
    | .ok _ => pure ()
    | .error e => Work.fault ("error opening " ++ shellQuoted path ++ ": " ++ e.reason)

/-- The tools that say one thing. -/
def simpleTools : List (String × Tool) := [
  ("whoami", withoutOperands { letters := "" } (Work.sayLine "root")),
  ("logname", withoutOperands { letters := "" } (Work.die "no login name")),
  ("hostid", withoutOperands { letters := "" } (Work.sayLine "007f0100")),
  ("arch", withoutOperands { letters := "" } (Work.sayLine "x86_64")),
  ("nproc", withoutOperands
    { letters := "", words := [("all", "all"), ("ignore=", "ignore")] } (Work.sayLine "1")),
  ("users", withoutOperands { letters := "" } (pure ()))]

end Polyglot.Tool
