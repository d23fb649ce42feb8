import Polyglot.Sandbox.Shell.Evaluation
import Polyglot.System.Environment

/-!
# A workshop in memory

A machine with the usual directories and programs, on which toolchains can be tried: scripts stand
in for compilers and interpreters, and nothing outside is touched.
-/

namespace Polyglot

namespace Machine

def programsPath : Path :=
  ["usr", "bin"]

def scratchPath : Path :=
  ["tmp", "codexchange"]

def toolsPath : Path :=
  ["tools"]

/-- Where processes look for programs. -/
def searchPath : String :=
  Path.text toolsPath ++ ":/usr/bin:/bin"

/-- The names under which the system has programs: the tools and the shell. -/
def programs : List String :=
  Tool.all.map (·.1) ++ ["sh", "dash"]

/-- The users of the system. -/
def passwords : List String := [
  "root:x:0:0:root:/root:/bin/bash", "daemon:x:1:1:daemon:/usr/sbin:/usr/sbin/nologin",
  "bin:x:2:2:bin:/bin:/usr/sbin/nologin", "sys:x:3:3:sys:/dev:/usr/sbin/nologin",
  "sync:x:4:65534:sync:/bin:/bin/sync", "games:x:5:60:games:/usr/games:/usr/sbin/nologin",
  "man:x:6:12:man:/var/cache/man:/usr/sbin/nologin",
  "lp:x:7:7:lp:/var/spool/lpd:/usr/sbin/nologin", "mail:x:8:8:mail:/var/mail:/usr/sbin/nologin",
  "news:x:9:9:news:/var/spool/news:/usr/sbin/nologin",
  "uucp:x:10:10:uucp:/var/spool/uucp:/usr/sbin/nologin",
  "proxy:x:13:13:proxy:/bin:/usr/sbin/nologin",
  "www-data:x:33:33:www-data:/var/www:/usr/sbin/nologin",
  "backup:x:34:34:backup:/var/backups:/usr/sbin/nologin",
  "list:x:38:38:Mailing List Manager:/var/list:/usr/sbin/nologin",
  "irc:x:39:39:ircd:/run/ircd:/usr/sbin/nologin",
  "_apt:x:42:65534::/nonexistent:/usr/sbin/nologin",
  "nobody:x:65534:65534:nobody:/nonexistent:/usr/sbin/nologin"]

/-- The groups of the system. -/
def groups : List String :=
  ([("root", 0), ("daemon", 1), ("bin", 2), ("sys", 3), ("adm", 4), ("tty", 5), ("disk", 6),
    ("lp", 7), ("mail", 8), ("news", 9), ("uucp", 10), ("man", 12), ("proxy", 13), ("kmem", 15),
    ("dialout", 20), ("fax", 21), ("voice", 22), ("cdrom", 24), ("floppy", 25), ("tape", 26),
    ("sudo", 27), ("audio", 29), ("dip", 30), ("www-data", 33), ("backup", 34), ("operator", 37),
    ("list", 38), ("irc", 39), ("src", 40), ("shadow", 42), ("utmp", 43), ("video", 44),
    ("sasl", 45), ("plugdev", 46), ("staff", 50), ("games", 60), ("users", 100),
    ("nogroup", 65534)] : List (String × Nat)).map fun (name, number) =>
      name ++ ":x:" ++ toString number ++ ":"

/-- The system without any files of users. -/
def system : FileTree :=
  let directories : List Path :=
    [["dev"], ["etc"], ["home"], ["root"], ["tmp"], ["usr"], ["var"], ["var", "tmp"], ["usr", "lib"],
      ["usr", "sbin"], programsPath, toolsPath, scratchPath]
  let tree := directories.foldl FileTree.withDirectory { now := epoch }
  let tree := programs.foldl
    (fun tree name => tree.add (programsPath ++ [name]) (.program name) 0o755) tree
  let tree := [("bin", "usr/bin"), ("sbin", "usr/sbin"), ("lib", "usr/lib")].foldl
    (fun tree (name, target) => tree.add [name] (.link target) 0o777) tree
  let tree := [("null", Device.null), ("zero", .zeros), ("full", .full)].foldl
    (fun tree (name, device) => tree.add ["dev", name] (.device device) 0o666) tree
  let tree := [("passwd", passwords), ("group", groups)].foldl
    (fun tree (name, lines) =>
      tree.withFile ["etc", name] (String.join (lines.map (· ++ "\n"))) FileTree.newFileMode) tree
  [["tmp"], ["var", "tmp"]].foldl
    (fun tree path => match tree.number? path with
      | some number => tree.modifyAt number fun node => { node with mode := 0o1777 }
      | none => tree) tree

/-- A machine with scripts as further programs. -/
def withTools (tools : List (String × List UInt8)) : Machine where
  tree := tools.foldl
    (fun tree (name, content) =>
      tree.withFile (toolsPath ++ [Octets.ofText name]) (Octets.ofBytes content) 0o755)
    system

/-- The machine with its scratch directory emptied. -/
def withFreshScratch (machine : Machine) : Machine :=
  { machine with tree := (machine.tree.removeAll scratchPath).withDirectory scratchPath }

def hasNul (text : String) : Bool :=
  text.toList.contains '\x00'

def saveFile (directory : Path) (name : String) (content : List UInt8) (machine : Machine) :
    Except SystemError Unit × Machine :=
  if hasNul name then (.error .nulInPath, machine)
  else match machine.tree.write directory (Octets.ofText name) (Octets.ofBytes content) with
    | .error e => (.error e, machine)
    | .ok tree => (.ok (), { machine with tree })

def loadFile (directory : Path) (name : String) (machine : Machine) :
    Except SystemError (List UInt8) :=
  if hasNul name then .error .nulInPath
  else (machine.tree.read directory (Octets.ofText name)).map Octets.toBytes

/-- Make a directory. If that cannot be done, nothing is. -/
def makeDirectory (directory : Path) (name : String) (machine : Machine) : Machine :=
  match machine.tree.make directory (Octets.ofText name) .directory 0o755 with
  | .ok tree => { machine with tree }
  | .error _ => machine

/-- Far more than any script needs that ends. -/
def fuel : Nat := 400000

/-- Forget what processes had open. -/
def atRest (machine : Machine) : Machine :=
  { machine with openings := #[], pipes := #[], background := [], signals := [] }

/-- Start a program and wait for its end and for that of everything in its background. -/
def startCommand (environment : Environment) (directory : Path) (command : Command)
    (machine : Machine) : ProcessOutcome × Machine :=
  if (command.program :: command.arguments).any hasNul then (.refused .nulInArgument, machine)
  else
    let bindings := environment.map fun (name, value) => (Octets.ofText name, Octets.ofBytes value)
    let bindings := bindings ++ [("PATH", searchPath), ("LC_ALL", "C")].filter fun (name, _) =>
      (bindings.lookup name).isNone
    let path := (bindings.lookup "PATH").getD searchPath
    let name := Octets.ofText command.program
    match Launch.locate machine.tree directory path name with
    | .error e => (.refused e, machine)
    | .ok path =>
      let (input, machine) := machine.atRest.withNothing
      let (_, output, machine) := machine.withPipe
      let (_, complaints, machine) := machine.withPipe
      let call : Call := {
        path, name
        arguments := command.arguments.map Octets.ofText
        environment := bindings
        channels := [(0, input), (1, output), (2, complaints)]
        directory
        process := machine.nextProcess }
      let (launch, machine) :=
        Shell.launch fuel call { machine with nextProcess := machine.nextProcess + 1 }
      match launch, machine.settle? with
      | .refused e, _ => (.refused e, machine.atRest)
      | .endless, _ => (.endless, machine.atRest)
      | .ended _, none => (.endless, machine.atRest)
      | .ended status, some machine =>
        (.ended status (Octets.toBytes (machine.written output))
          (Octets.toBytes (machine.written complaints)), machine.atRest)

/-- The scratch directory of machines as a workshop. -/
def workshop (environment : Environment) : Workshop Machine where
  directory := Path.text scratchPath
  save := saveFile scratchPath
  load := loadFile scratchPath
  start := startCommand environment scratchPath
  clock machine := ⟨machine.clock⟩

end Machine

end Polyglot
