import Polyglot.Sandbox.Launch
import Polyglot.Sandbox.Script.Reader
import Polyglot.Sandbox.Shell.Arguments
import Polyglot.Sandbox.Shell.Variables

/-!
# Finding commands

What a name means as a command: a word of the language, an alias, a function, a command inside the
shell or a program, and where the program is.
-/

namespace Polyglot.Shell

/-- Commands of the language itself, whose errors end the shell. -/
def isSpecial (name : String) : Bool :=
  Reader.specialCommands.contains name

/-- Other commands that the shell has inside. -/
def regularCommands : List String :=
  ["[", "alias", "bg", "cd", "chdir", "command", "echo", "false", "fg", "getopts", "hash", "jobs",
    "kill", "printf", "pwd", "read", "test", "true", "type", "ulimit", "umask", "unalias", "wait"]

def isInside (name : String) : Bool :=
  isSpecial name || regularCommands.contains name

/-- Commands whose arguments are expanded like assignments if they look like them. -/
def takesAssignments (name : String) : Bool :=
  ["alias", "export", "local", "readonly"].contains name

/-- Search directories for the file of a program. What is in the way is remembered. -/
def searchProgram (tree : FileTree) (directory : Path) (name : String) (cause : SystemError) :
    List String → Except SystemError String
  | [] => .error cause
  | dir :: dirs =>
    let path := Launch.candidate dir name
    match tree.find directory path with
    | .ok (_, _, node) =>
      if node.isExecutable then .ok path
      else searchProgram tree directory name .permissionDenied dirs
    | .error e =>
      searchProgram tree directory name
        (if e = .noSuchFile || e = .notADirectory then cause else e) dirs

/-- Where the program is that a name means. -/
def findProgram (path name : String) : Act (Except SystemError String) := do
  let session ← get
  if name.toList.contains '/' then return .ok name
  return searchProgram session.machine.tree session.shell.directory name .noSuchFile
    (Launch.searched path)

/-- Find a program and remember where it is. -/
def hashProgram (name : String) : Act (Except SystemError String) := do
  match ← findProgram ((← getShell).searchPath) name with
  | .error e => do
    modifyShell fun shell => { shell with hashed := shell.hashed.filter (·.1 != name) }
    return .error e
  | .ok path => do
    if !name.toList.contains '/' then
      modifyShell fun shell =>
        { shell with hashed :=
            if (shell.hashed.lookup name).isSome then
              shell.hashed.map fun entry => if entry.1 == name then (name, path, true) else entry
            else shell.hashed ++ [(name, path, true)] }
    return .ok path

def refusedReason (cause : SystemError) : String :=
  if cause = .noSuchFile || cause = .notADirectory then "not found" else cause.reason

/-- The code of the shell for a program that could not be started. -/
def refusedCode (cause : SystemError) : Nat :=
  if [.noSuchFile, .notADirectory, .tooManyLinks, .fileNameTooLong].contains cause then 127
  else 126

/-- Tell what a name means as a command: at length or in brief. -/
def describeCommand (name : String) (atLength : Bool) : Act Nat := do
  let shell ← getShell
  let tell (long short : String) : Act Nat := do
    say ((if atLength then name ++ long else short) ++ "\n")
    return 0
  if Token.keywords.contains name then tell " is a shell keyword" name
  else if let some value := shell.aliases.lookup name then
    tell (" is an alias for " ++ value) ("alias " ++ name ++ "=" ++ singleQuoted value)
  else if (shell.functions.lookup name).isSome then tell " is a shell function" name
  else if isInside name then
    tell (if isSpecial name then " is a special shell builtin" else " is a shell builtin") name
  else if let some (path, _) := shell.hashed.lookup name then
    tell (" is a tracked alias for " ++ path) path
  else
    let found? ← if name.toList.contains '/' then do
        let session ← get
        pure (if (session.machine.tree.look? shell.directory name).isSome then some name else none)
      else do
        match ← findProgram shell.searchPath name with
        | .ok path => pure (some path)
        | .error _ => pure none
    match found? with
    | some path => tell (" is " ++ path) path
    | none => do
      if atLength then say (name ++ ": not found\n")
      return 127

def typeCommand (arguments : List String) : Act Nat := do
  let names ← operands arguments
  names.foldlM (fun code name => return code ||| (← describeCommand name true)) 0

/-- `command` where it only tells what a name means. -/
def describingCommand (arguments : List String) : Act Nat := do
  let (given, names) ← options "pvV" arguments
  match names with
  | name :: _ =>
    if given.any (·.1 != 'p') then describeCommand name (given.any (·.1 == 'V')) else return 0
  | [] => return 0

/-- The order in which the programs that were found are kept. -/
def hashBucket (name : String) : Nat :=
  let cs := name.toList.map Char.toNat
  (cs.foldl (· + ·) (16 * cs.headD 0)) % 32768 % 31

def hashCommand (arguments : List String) : Act Nat := do
  let (given, names) ← options "r" arguments
  if !given.isEmpty then do
    modifyShell fun shell => { shell with hashed := [] }
    return 0
  if names.isEmpty then do
    let entries := (← getShell).hashed.mergeSort fun a b => hashBucket a.1 ≤ hashBucket b.1
    entries.forM fun (_, path, counts) => say (path ++ (if counts then "\n" else "*\n"))
    return 0
  names.foldlM
    (fun code name => do
      let shell ← getShell
      if (shell.functions.lookup name).isSome || isInside name then return code
      match ← hashProgram name with
      | .ok _ => return code
      | .error e => do
        complain (name ++ ": " ++ refusedReason e)
        return 1)
    0

end Polyglot.Shell
