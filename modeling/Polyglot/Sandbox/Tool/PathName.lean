import Polyglot.Sandbox.FileTree.Change
import Polyglot.Sandbox.Tool.Options
import Polyglot.Sandbox.Tool.Quote

/-!
# Names in paths

The parts of written paths, and what the paths lead to when all links are followed: the tools that
tell the one and the other.
-/

namespace Polyglot.Tool

namespace PathName

/-- The last name of a path, with the slashes after it. -/
def lastPart (path : String) : String :=
  let cs := path.toList.dropWhile (· == '/')
  let trailing := cs.reverse.takeWhile (· == '/')
  let stem := cs.reverse.drop trailing.length
  String.ofList ((stem.takeWhile (· != '/')).reverse ++ trailing)

/-- The last name of a path; of one that has none, a slash or nothing. -/
def base (path : String) : String :=
  let last := FileTree.withoutSlashes (lastPart path)
  if last.isEmpty then String.ofList (path.toList.take 1) else last

/-- What stands before the last name; a dot if nothing does. -/
def directory (path : String) : String :=
  let before := path.toList.take (path.length - (lastPart path).length)
  let stem := (before.reverse.dropWhile (· == '/')).reverse
  if !stem.isEmpty then String.ofList stem
  else if before.isEmpty then "." else "/"

/-- A name put behind the path of a directory. -/
def inside (directory name : String) : String :=
  if directory.isEmpty then name
  else if directory.endsWith "/" then directory ++ name
  else directory ++ "/" ++ name

/-- A name without an ending that is not all of it. -/
def without (ending name : String) : String :=
  if ending.length < name.length && name.endsWith ending then (name.dropEnd ending.length).toString
  else name

end PathName

/-! ## Parts -/

def partsOptions : OptionTable where
  letters := "as:z"
  words := [("multiple", "a"), ("suffix=", "s"), ("zero", "z")]
  stopsEarly := true

/-- `basename`: the last names of paths. -/
def baseNames : Tool := do
  let (options, operands) ← Work.optionList partsOptions
  let mark := if options.any (·.key == "z") then "\x00" else "\n"
  let ending? := (options.filter (·.key == "s")).getLast?.map (·.value)
  let all := ending?.isSome || options.any (·.key == "a")
  let tell (path ending : String) : Work Unit :=
    let base := PathName.base path
    Work.say ((if FileTree.isAbsolute base then base else PathName.without ending base) ++ mark)
  match operands with
  | [] => Work.misuse "missing operand"
  | path :: rest =>
    if all then operands.forM fun path => tell path (ending?.getD "")
    else match rest with
      | [] => tell path ""
      | [ending] => tell path ending
      | _ :: extra :: _ => Work.misuse ("extra operand " ++ quoted extra)

/-- `dirname`: paths without their last names. -/
def directoryNames : Tool := do
  let (options, operands) ← Work.optionList { letters := "z", words := [("zero", "z")] }
  let mark := if options.any (·.key == "z") then "\x00" else "\n"
  if operands.isEmpty then Work.misuse "missing operand"
  operands.forM fun path => Work.say (PathName.directory path ++ mark)

/-! ## Where paths lead -/

/-- How much of a path must be there. -/
inductive Presence where
  | all
  | allButLast
  | nothing
deriving DecidableEq, Repr

namespace Presence

/-- Follow names as far as they lead; from where nothing is they are put together as written. -/
def follow (tree : FileTree) : (fuel : Nat) → Path → List String → Except SystemError Path
  | 0, _, _ => .error .tooManyLinks
  | _ + 1, here, [] => .ok here
  | fuel + 1, here, name :: rest =>
    if name.isEmpty || name == "." then follow tree fuel here rest
    else if name == ".." then follow tree fuel here.dropLast rest
    else match (tree.node? (here ++ [name])).bind Node.target? with
      | some target =>
        follow tree fuel (if FileTree.isAbsolute target then [] else here)
          (FileTree.names target ++ rest)
      | none => follow tree fuel (here ++ [name]) rest

/-- Where a path leads. -/
def resolve (presence : Presence) (tree : FileTree) (directory : Path) (text : String) :
    Except SystemError Path := do
  if text.isEmpty then throw .noSuchFile
  match presence with
  | .nothing =>
    follow tree 4096 (if FileTree.isAbsolute text then [] else directory) (FileTree.names text)
  | .all => return (← tree.find directory text).1
  | .allButLast =>
    let bare ← tree.locateNew directory (FileTree.withoutSlashes text)
    if (tree.node? bare).isSome then return (← tree.find directory text).1
    else return bare

end Presence

def readlinkOptions : OptionTable where
  letters := "efmnqsvz"
  words := [("canonicalize", "f"), ("canonicalize-existing", "e"), ("canonicalize-missing", "m"),
    ("no-newline", "n"), ("quiet", "q"), ("silent", "s"), ("verbose", "v"), ("zero", "z")]

/-- `readlink`: what links stand for, or where paths lead. -/
def readLinks : Tool := do
  let (options, operands) ← Work.optionList readlinkOptions
  let has (key : String) := options.any (·.key == key)
  let presence? := (options.filterMap fun option => match option.key with
    | "e" => some Presence.all
    | "f" => some Presence.allButLast
    | "m" => some Presence.nothing
    | _ => none).getLast?
  let tells := ((options.filter fun option => ["q", "s", "v"].contains option.key).getLast?.any
    (·.key == "v"))
  if operands.isEmpty then Work.misuse "missing operand"
  let one := operands.length == 1
  if has "n" && !one then Work.complain "ignoring --no-newline with multiple arguments"
  let mark := if has "n" && one then "" else if has "z" then "\x00" else "\n"
  operands.forM fun operand => do
    let answer : Except SystemError String ← match presence? with
      | some presence => do
        pure ((presence.resolve (← Work.getTree) (← read).directory operand).map Path.text)
      | none => do
        pure (match ← Work.find operand false with
          | .error e => .error e
          | .ok (_, _, node) => match node.target? with
            | some target => .ok target
            | none => .error .invalidArgument)
    match answer with
    | .ok text => Work.say (text ++ mark)
    | .error e =>
      Work.setCode 1
      if tells then Work.complain (shellName operand ++ ": " ++ e.reason)

def realpathOptions : OptionTable where
  letters := "eLmPqsz"
  words := [("canonicalize-existing", "e"), ("canonicalize-missing", "m"), ("relative-to=", "to"),
    ("relative-base=", "base"), ("quiet", "q"), ("no-symlinks", "s"), ("strip", "s"), ("zero", "z"),
    ("logical", "L"), ("physical", "P")]

/-- The path that leads from one directory to another. -/
def relativePath (source target : Path) : String :=
  let rec shared : Path → Path → Nat
    | a :: as, b :: bs => if a == b then shared as bs + 1 else 0
    | _, _ => 0
  let common := shared source target
  let up := List.replicate (source.length - common) ".."
  let names := up ++ target.drop common
  if names.isEmpty then "." else "/".intercalate names

/-- Does what follows a name in a path only make sense behind a directory? -/
def needsDirectory : List String → Bool
  | [] => false
  | [""] => true
  | ["."] => true
  | ".." :: _ => true
  | name :: rest => (name.isEmpty || name == ".") && needsDirectory rest

/-- The path that is meant once dots are taken out of it, without following links. -/
def plainPath (presence : Presence) (tree : FileTree) : (here : Path) → List String →
    Except SystemError Path
  | here, [] => .ok here
  | here, name :: rest =>
    if name.isEmpty || name == "." then plainPath presence tree here rest
    else if name == ".." then plainPath presence tree here.dropLast rest
    else
      let path := here ++ [name]
      let found : Except SystemError Unit :=
        match tree.find [] path.text with
        | .ok (_, _, node) =>
          if needsDirectory rest && !node.isDirectory then .error .notADirectory else .ok ()
        | .error e => if needsDirectory rest || rest.isEmpty then .error e else .ok ()
      let isLast := rest.all String.isEmpty
      match found with
      | .ok () => plainPath presence tree path rest
      | .error e =>
        if presence = .nothing || (presence = .allButLast && e = .noSuchFile && isLast) then
          plainPath presence tree path rest
        else .error e

/-- `realpath`: where paths lead, from the root or from some directory. -/
def realPaths : Tool := do
  let (options, operands) ← Work.optionList realpathOptions
  let has (key : String) := options.any (·.key == key)
  let value? (key : String) := (options.filter (·.key == key)).getLast?.map (·.value)
  let presence := (options.filterMap fun option => match option.key with
    | "e" => some Presence.all
    | "m" => some Presence.nothing
    | _ => none).getLast?.getD .allButLast
  let style := (options.filter fun o => ["s", "L", "P"].contains o.key).getLast?.map (·.key)
  let mark := if has "z" then "\x00" else "\n"
  if operands.isEmpty then Work.misuse "missing operand"
  let tree ← Work.getTree
  let directory := (← read).directory
  let plain (text : String) : Except SystemError Path :=
    if text.isEmpty then .error .noSuchFile
    else plainPath presence tree (if FileTree.isAbsolute text then [] else directory)
      (FileTree.names text)
  let resolve (text : String) : Except SystemError Path :=
    match style with
    | some "s" => plain text
    | some "L" => do presence.resolve tree directory (← plain text).text
    | _ => presence.resolve tree directory text
  let place (text : String) : Work Path := do
    match resolve text with
    | .error e => Work.die (shellName text ++ ": " ++ e.reason)
    | .ok path =>
      if presence = .all && !tree.isDirectory path then
        Work.die (shellName text ++ ": " ++ SystemError.notADirectory.reason)
      return path
  let origin? ← (value? "to").mapM place
  let base? ← (value? "base").mapM place
  let shown (path : Path) : String :=
    match origin?, base? with
    | none, none => path.text
    | some origin, none => relativePath origin path
    | none, some base => if base.isPrefixOf path then relativePath base path else path.text
    | some origin, some base =>
      if base.isPrefixOf origin && base.isPrefixOf path then relativePath origin path else path.text
  operands.forM fun operand => do
    match resolve operand with
    | .ok path => Work.say (shown path ++ mark)
    | .error e =>
      Work.setCode 1
      if !has "q" then Work.complain (shellName operand ++ ": " ++ e.reason)

/-- `pwd`: the directory. -/
def tellDirectory : Tool := do
  let (options, operands) ← Work.optionList
    { letters := "LP", words := [("logical", "L"), ("physical", "P")] }
  if !operands.isEmpty then Work.complain "ignoring non-option arguments"
  let call ← read
  let claimed := (← Work.environmentValue? "PWD").getD ""
  let isPlain := (FileTree.names claimed).all fun name => name != "." && name != ".."
  let isTrue := match ← Work.find claimed with
    | .ok (path, _, _) => path == call.directory
    | .error _ => false
  let logical := (options.getLast?.map (·.key)) == some "L"
  Work.sayLine (if logical && FileTree.isAbsolute claimed && isPlain && isTrue then claimed
    else call.directory.text)

/-! ## Checking paths -/

/-- Characters that names may have everywhere. -/
def isPortable (c : Char) : Bool :=
  c.isAlphanum || "/._-".toList.contains c

def pathchkOptions : OptionTable where
  letters := "pP"
  words := [("portability", "portability")]
  stopsEarly := true

/-- What is wrong with a path: its characters if it is to be of use everywhere, or that it leads
nowhere here, and its length. -/
def pathFault? (portable noHyphens : Bool) (path : String) : Work (Option String) := do
  let names := FileTree.names path
  if noHyphens && names.any (·.startsWith "-") then
    return some ("leading '-' in a component of file name " ++ shellQuoted path)
  if (portable || noHyphens) && path.isEmpty then return some "empty file name"
  let found : Except SystemError Unit ← if portable then pure (.error .noSuchFile)
    else pure ((← Work.find path false).map fun _ => ())
  match found, path.toList.find? (portable && !isPortable ·) with
  | _, some c =>
    return some ("non-portable character " ++ quoted (String.singleton c) ++ " in file name " ++
      shellQuoted path)
  | .ok _, none => return none
  | .error e, none =>
    if e != .noSuchFile || path.isEmpty then return some (shellName path ++ ": " ++ e.reason)
    let longestName := if portable then 14 else FileTree.longestName
    let longestPath := if portable then 256 else FileTree.longestPath + 1
    if longestPath ≤ path.length then
      return some (s!"limit {longestPath - 1} exceeded by length {path.length} of file name " ++
        shellQuoted path)
    return (names.find? (longestName < ·.length)).map fun name =>
      s!"limit {longestName} exceeded by length {name.length} of file name component " ++
        shellQuoted name

/-- `pathchk`: tells of paths that are of no use, here or elsewhere. -/
def checkPaths : Tool := do
  let (options, operands) ← Work.optionList pathchkOptions
  let has (key : String) : Bool :=
    options.any fun option => option.key == key || option.key == "portability"
  if operands.isEmpty then Work.misuse "missing operand"
  operands.forM fun path => do
    if let some text ← pathFault? (has "p") (has "P") path then Work.fault text

end Polyglot.Tool
