import Polyglot.Sandbox.FileTree.Basic

/-!
# Paths into file trees

Following a path to what it leads to, and changing what is there.
-/

/-!
## Following paths

What a written path leads to. Everything before the last name must be there and be a directory,
links on the way are followed, and two dots go up.
-/

namespace Polyglot.FileTree

/-- The octets that a name may have. -/
def longestName : Nat := 255

/-- The octets that a path may have. -/
def longestPath : Nat := 4095

/-- The links that may be followed on the way. -/
def mostLinks : Nat := 40

/-- The names in a written path. -/
def names (text : String) : List String :=
  (text.toList.splitOn '/').map String.ofList

def isAbsolute (text : String) : Bool :=
  text.toList.head? == some '/'

/-- A written path without the slashes at its end; the root keeps one. -/
def withoutSlashes (text : String) : String :=
  let cs := text.toList.reverse.dropWhile (· == '/')
  if cs.isEmpty && isAbsolute text then "/" else String.ofList cs.reverse

/-- Follow names from a directory on. The place of the last name need not hold anything; whether
a link there is followed too is up to `last`. The fuel bounds the names passed on all links. -/
def walk (tree : FileTree) (last : Bool) :
    (fuel links : Nat) → Path → List String → Except SystemError Path
  | 0, _, _, _ => .error .tooManyLinks
  | _ + 1, _, here, [] => .ok here
  | fuel + 1, links, here, name :: rest =>
    match tree.node? here with
    | none => .error .noSuchFile
    | some node =>
      if !node.isDirectory then .error .notADirectory
      else if name.isEmpty || name == "." then walk tree last fuel links here rest
      else if name == ".." then walk tree last fuel links here.dropLast rest
      else if longestName < name.length then .error .fileNameTooLong
      else
        let there := here ++ [name]
        match (tree.node? there).bind Node.target? with
        | none => walk tree last fuel links there rest
        | some target =>
          if !last && rest.isEmpty then .ok there
          else if links = 0 then .error .tooManyLinks
          else
            walk tree last fuel (links - 1) (if isAbsolute target then [] else here)
              (names target ++ rest)

/-- Far more names than links of the greatest length can bring. -/
def walkFuel : Nat := longestPath * (mostLinks + 2)

/-- What a written path means in a directory. -/
def locate (tree : FileTree) (directory : Path) (text : String) (last : Bool := true) :
    Except SystemError Path :=
  if text.isEmpty then .error .noSuchFile
  else if text.toList.contains '\x00' then .error .invalidArgument
  else if longestPath < text.length then .error .fileNameTooLong
  else tree.walk last walkFuel mostLinks (if isAbsolute text then [] else directory) (names text)

/-- What a written path leads to: its place, its number and its node. -/
def find (tree : FileTree) (directory : Path) (text : String) (last : Bool := true) :
    Except SystemError (Path × Nat × Node) := do
  let path ← tree.locate directory text last
  match tree.number? path with
  | none => throw .noSuchFile
  | some number =>
    match tree.nodeAt? number with
    | some node => return (path, number, node)
    | none => throw .noSuchFile

/-- The node of a written path, if there is one. -/
def look? (tree : FileTree) (directory : Path) (text : String) (last : Bool := true) :
    Option Node :=
  match tree.find directory text last with
  | .ok (_, _, node) => some node
  | .error _ => none

def read (tree : FileTree) (directory : Path) (text : String) : Except SystemError String := do
  let (_, _, node) ← tree.find directory text
  node.content

/-- The place of something to be made: the directory above must be there. -/
def locateNew (tree : FileTree) (directory : Path) (text : String) (last : Bool := true) :
    Except SystemError Path := do
  let path ← tree.locate directory text last
  if (tree.number? path).isSome || tree.isDirectory path.dropLast then return path
  else if (tree.number? path.dropLast).isSome then throw .notADirectory
  else throw .noSuchFile

end Polyglot.FileTree

/-!
## Changing file trees

What a file system does when it is asked to make, open, remove or rename something, and the error
where it refuses. Modes of new things are given as they will be.
-/

namespace Polyglot.FileTree

/-- The mode of new files where nobody says otherwise. -/
def newFileMode : Nat := 0o644

/-- Open a file for writing, which makes it if it is not there. Links are followed, also to a place
where nothing is yet. -/
def openNew (tree : FileTree) (directory : Path) (text : String) (mode : Nat) (empties : Bool) :
    Except SystemError (Nat × FileTree) := do
  if text.endsWith "/" then
    discard <| tree.locate directory (withoutSlashes text)
    throw .isADirectory
  let path ← tree.locateNew directory text
  match tree.number? path with
  | none => return (tree.nodes.size, tree.add path (.file "") mode)
  | some number =>
    match tree.kindAt? number with
    | some .directory => throw .isADirectory
    | some (.file _) => return (number, if empties then tree.setContent number "" else tree)
    | some (.program _) => throw .textFileBusy
    | _ => return (number, tree)

/-- Octets put over what is there from some place on; a gap is filled with zeros. -/
def overwrite (content : String) (offset : Nat) (text : String) : String :=
  let cs := content.toList
  let before := cs.take offset ++ List.replicate (offset - cs.length) '\x00'
  String.ofList (before ++ text.toList ++ cs.drop (offset + text.length))

/-- Write into a file from some place on. -/
def writeAt (tree : FileTree) (number offset : Nat) (text : String) : FileTree :=
  match tree.kindAt? number with
  | some (.file content) =>
    tree.setContent number
      (if content.length == offset then content ++ text else overwrite content offset text)
  | _ => tree

/-- Write a whole file. -/
def write (tree : FileTree) (directory : Path) (text content : String)
    (mode : Nat := newFileMode) : Except SystemError FileTree := do
  let (number, tree) ← tree.openNew directory text mode true
  return tree.writeAt number 0 content

/-- Make something at a place where nothing may be yet. -/
def make (tree : FileTree) (directory : Path) (text : String) (kind : NodeKind) (mode : Nat) :
    Except SystemError FileTree := do
  let stem := withoutSlashes text
  let path ← tree.locate directory stem false
  if (tree.number? path).isSome then throw .fileExists
  if text.endsWith "/" && kind != .directory then throw .noSuchFile
  let path ← tree.locateNew directory stem false
  return tree.add path kind mode

/-- Another name for a file. -/
def linkTo (tree : FileTree) (directory : Path) (source : Nat) (text : String) :
    Except SystemError FileTree := do
  let path ← tree.locateNew directory text false
  if (tree.number? path).isSome then throw .fileExists
  return tree.addName path source

/-- Remove the name of anything but a directory. -/
def unlink (tree : FileTree) (directory : Path) (text : String) : Except SystemError FileTree := do
  let (path, _, node) ← tree.find directory text false
  if node.isDirectory then throw .isADirectory
  return tree.removeName path

/-- Remove a directory without names in it. -/
def removeDirectory (tree : FileTree) (directory : Path) (text : String) :
    Except SystemError FileTree := do
  let (path, _, node) ← tree.find directory (withoutSlashes text) false
  if !node.isDirectory then throw .notADirectory
  if (names (withoutSlashes text)).getLast? == some "." then throw .invalidArgument
  if path.isEmpty then throw .busy
  if !(tree.namesIn path).isEmpty then throw .directoryNotEmpty
  return tree.removeName path

/-- Does a path end in a name that stands for another? -/
def endsInDots (text : String) : Bool :=
  let last := (names (withoutSlashes text)).getLast?
  last == some "." || last == some ".."

/-- Rename something; what has the new name is replaced if it is of the same sort. -/
def rename (tree : FileTree) (directory : Path) (source target : String) :
    Except SystemError FileTree := do
  let (old, number, node) ← tree.find directory source false
  if endsInDots source || endsInDots target then throw .busy
  let new ← tree.locateNew directory (withoutSlashes target) false
  if target.endsWith "/" && !node.isDirectory && !tree.isDirectory new then throw .notADirectory
  match tree.number? new with
  | none =>
    if node.isDirectory && old.isPrefixOf new then throw .invalidArgument
    return tree.moveAll old new
  | some other =>
    if other == number then return tree
    if node.isDirectory && old.isPrefixOf new then throw .invalidArgument
    if tree.isDirectory new then
      if !node.isDirectory then throw .isADirectory
      if !(tree.namesIn new).isEmpty then throw .directoryNotEmpty
    else if node.isDirectory then throw .notADirectory
    return tree.moveAll old new

end Polyglot.FileTree
