import Polyglot.System.Error
import Polyglot.Text.Lines
import Polyglot.Text.Utf8

/-!
# File trees

Directories, files and what else has a name, in memory. A node is known by its number; names lead
to numbers, so that a file can have several names, and one that lost its last name can still be
written by whoever has it open. Names and contents are octets. Whoever asks may read and write
everything; only the permission to execute is looked at.
-/

namespace Polyglot

/-- The names on the way from the root. -/
abbrev Path := List String

/-- A path as it is written. -/
def Path.text (path : Path) : String :=
  if path.isEmpty then "/" else String.join (path.map ("/" ++ ·))

/-- What stands behind a device. -/
inductive Device where
  /-- What is written to it is gone, and nothing can be read from it. -/
  | null
  /-- Reads as zeros without end. -/
  | zeros
  /-- Nothing can be written to it for want of space. -/
  | full
deriving DecidableEq, Repr

inductive NodeKind where
  | directory
  | file (content : String)
  /-- A program of the system, known by its name. -/
  | program (name : String)
  /-- Another path to be followed. -/
  | link (target : String)
  | device (device : Device)
  /-- A pipe with a name, and what was written to it and not read. -/
  | fifo (held : String)
deriving DecidableEq, Repr

structure Node where
  kind : NodeKind
  /-- Who may read, write and execute it, and three bits above those. -/
  mode : Nat
  owner : Nat := 0
  group : Nat := 0
  /-- When its content was changed last, in nanoseconds. -/
  modified : Int := 0
  /-- When it was read last, in nanoseconds. -/
  accessed : Int := 0
deriving DecidableEq, Repr

namespace Node

def isDirectory (node : Node) : Bool :=
  node.kind == .directory

/-- The path that a link stands for. -/
def target? (node : Node) : Option String :=
  match node.kind with
  | .link target => some target
  | _ => none

def isLink (node : Node) : Bool :=
  node.target?.isSome

/-- A file with content, be it a program. -/
def isFile (node : Node) : Bool :=
  match node.kind with
  | .file _ => true
  | .program _ => true
  | _ => false

/-- May somebody execute it? -/
def isExecutable (node : Node) : Bool :=
  node.isFile && node.mode &&& 0o111 != 0

/-- What a node reads as. -/
def content (node : Node) : Except SystemError String :=
  match node.kind with
  | .directory => .error .isADirectory
  | .file content => .ok content
  | .program name => .ok ("\x7fELF" ++ name)
  | .fifo held => .ok held
  | _ => .ok ""

/-- How many octets it has. -/
def size (node : Node) : Nat :=
  match node.kind with
  | .file content => content.length
  | .program name => name.length + 4
  | .link target => target.length
  | .directory => 4096
  | _ => 0

end Node

/-- Names and the nodes that they lead to. The root is node 0 and has no name. -/
structure FileTree where
  entries : List (Path × Nat) := []
  nodes : Array Node := #[{ kind := .directory, mode := 0o755 }]
  /-- The time that changes are marked with, in nanoseconds. -/
  now : Int := 0
deriving DecidableEq

namespace FileTree

def number? (tree : FileTree) (path : Path) : Option Nat :=
  if path.isEmpty then some 0 else tree.entries.lookup path

def nodeAt? (tree : FileTree) (number : Nat) : Option Node :=
  tree.nodes[number]?

def kindAt? (tree : FileTree) (number : Nat) : Option NodeKind :=
  (tree.nodeAt? number).map fun node => node.kind

def node? (tree : FileTree) (path : Path) : Option Node :=
  (tree.number? path).bind tree.nodeAt?

def isDirectory (tree : FileTree) (path : Path) : Bool :=
  (tree.node? path).any Node.isDirectory

/-- The names in a directory, in order. -/
def namesIn (tree : FileTree) (path : Path) : List String :=
  (tree.entries.filterMap fun (p, _) =>
    if p.dropLast == path then p.getLast? else none).mergeSort (· ≤ ·)

/-- How many names a node has. A directory is also named by itself and by those in it. -/
def linkCount (tree : FileTree) (path : Path) (number : Nat) : Nat :=
  if tree.isDirectory path then
    2 + ((tree.namesIn path).filter fun name => tree.isDirectory (path ++ [name])).length
  else (tree.entries.filter (·.2 == number)).length

/-! ## Changing nodes and names -/

def modifyAt (tree : FileTree) (number : Nat) (f : Node → Node) : FileTree :=
  { tree with nodes := tree.nodes.modify number f }

/-- Mark a directory as changed. -/
def stamp (tree : FileTree) (path : Path) : FileTree :=
  match tree.number? path with
  | some number => tree.modifyAt number fun node => { node with modified := tree.now }
  | none => tree

/-- A name for a node that is there. -/
def addName (tree : FileTree) (path : Path) (number : Nat) : FileTree :=
  { tree with entries := (path, number) :: tree.entries.filter (·.1 != path) }.stamp path.dropLast

/-- A new node under a name. -/
def add (tree : FileTree) (path : Path) (kind : NodeKind) (mode : Nat) : FileTree :=
  let node : Node := { kind, mode, modified := tree.now, accessed := tree.now }
  { tree with nodes := tree.nodes.push node }.addName path tree.nodes.size

def removeName (tree : FileTree) (path : Path) : FileTree :=
  { tree with entries := tree.entries.filter (·.1 != path) }.stamp path.dropLast

/-- Remove a name and every name below it. -/
def removeAll (tree : FileTree) (path : Path) : FileTree :=
  { tree with entries := tree.entries.filter fun (p, _) => !path.isPrefixOf p }.stamp path.dropLast

/-- Give a name and every name below it another beginning. -/
def moveAll (tree : FileTree) (source target : Path) : FileTree :=
  let tree := tree.removeAll target
  ({ tree with
    entries := tree.entries.map fun (p, number) =>
      if source.isPrefixOf p then (target ++ p.drop source.length, number) else (p, number)
    }.stamp source.dropLast).stamp target.dropLast

/-- Replace the content of a file. -/
def setContent (tree : FileTree) (number : Nat) (content : String) : FileTree :=
  tree.modifyAt number fun node => { node with kind := .file content, modified := tree.now }

/-- A directory with everything above it. -/
def withDirectory (tree : FileTree) (path : Path) : FileTree :=
  (List.range path.length).foldl
    (fun tree n =>
      let above := path.take (n + 1)
      if (tree.node? above).isSome then tree else tree.add above .directory 0o755) tree

/-- A file with the directories above it. -/
def withFile (tree : FileTree) (path : Path) (content : String) (mode : Nat) : FileTree :=
  (tree.withDirectory path.dropLast).add path (.file content) mode

end FileTree

end Polyglot
