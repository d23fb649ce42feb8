import Polyglot.Sandbox.Launch
import Polyglot.Sandbox.Shell.Arguments
import Polyglot.Sandbox.Shell.Variables

/-!
# The directory of the shell

Changing it and telling it. The shell keeps the path by which it came there beside the place that the
path leads to.
-/

namespace Polyglot.Shell

/-- The path that a text means from another path on, without following links: dots and slashes
are taken out. -/
def joinPath (here text : String) : String :=
  let absolute := FileTree.isAbsolute text
  let start := if absolute then "" else here
  let doubled := (if absolute then text else here).startsWith "//" &&
    !(if absolute then text else here).startsWith "///"
  let names := FileTree.names start ++ FileTree.names text
  let kept := names.foldl
    (fun kept name =>
      if name.isEmpty || name == "." then kept
      else if name == ".." then kept.dropLast
      else kept ++ [name])
    []
  (if doubled then "//" else "/") ++ "/".intercalate kept

/-- Is a path free of the search in `CDPATH`? -/
def isPlainDirectory (name : String) : Bool :=
  match name.toList with
  | '/' :: _ => true
  | ['.'] => true
  | '.' :: '/' :: _ => true
  | ['.', '.'] => true
  | '.' :: '.' :: '/' :: _ => true
  | _ => false

/-- Go to a directory; tell whether that was possible. -/
def enterDirectory (name : String) (physical : Bool) : Act Bool := do
  let session ← get
  let shell := session.shell
  let working := joinPath shell.workingPath name
  match session.machine.tree.find shell.directory (if physical then name else working) with
  | .ok (path, _, node) =>
    if !node.isDirectory then return false
    modifyShell fun s => { s with
      directory := path
      workingPath := if physical then path.text else working
      hashed := s.hashed.map fun (n, p, _) => (n, p, false) }
    setVariable "OLDPWD" (some shell.workingPath) { exported := true }
    setVariable "PWD" (some (if physical then path.text else working)) { exported := true }
    return true
  | .error _ => return false

def changeDirectory (arguments : List String) : Act Nat := do
  let (given, names) ← options "LP" arguments
  let physical := (given.getLast?.map (·.1)) == some 'P'
  let session ← get
  let shell := session.shell
  let (wanted, tells) := match names with
    | [] => ((shell.valueOf? "HOME").getD "", false)
    | "-" :: _ => ((shell.valueOf? "OLDPWD").getD "", true)
    | name :: _ => (name, false)
  let places := if isPlainDirectory wanted then []
    else (Launch.searched ((shell.valueOf? "CDPATH").getD "")).map fun dir =>
      if dir == "." then ("", wanted) else (dir ++ "/", wanted)
  let wanted' := if wanted.isEmpty then "." else wanted
  let found? := places.findSome? fun (dir, _) =>
    let path := dir ++ wanted'
    if (session.machine.tree.look? shell.directory path).any Node.isDirectory then
      some (dir, path) else none
  let (path, tells) := match found? with
    | some (dir, path) => (path, tells || !dir.isEmpty)
    | none => (wanted', tells)
  if !(← enterDirectory path physical) then giveUp ("can't cd to " ++ wanted')
  if tells then say ((← getShell).workingPath ++ "\n")
  return 0

def printDirectory (arguments : List String) : Act Nat := do
  let (given, _) ← options "LP" arguments
  let shell ← getShell
  let physical := (given.getLast?.map (·.1)) == some 'P'
  say ((if physical then shell.directory.text else shell.workingPath) ++ "\n")
  return 0

end Polyglot.Shell
