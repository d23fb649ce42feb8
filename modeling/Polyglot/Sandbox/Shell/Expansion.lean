import Polyglot.Sandbox.Script.Token
import Polyglot.Sandbox.Shell.Fields
import Polyglot.Sandbox.Shell.Variables

/-!
# Expansion of words

Parameters, outputs of commands and arithmetic are put into words, and tildes stand for the
directories of users. What came out of them without quotes is split into fields; and fields with
wildcards become the names of files.
-/

namespace Polyglot.Shell

/-- What is wanted of a word. -/
structure ExpansionMode where
  /-- It stands in double quotes. -/
  quoted : Bool := false
  /-- It is to become fields. -/
  full : Bool := false
  /-- It stands in the braces of a parameter, where even bare characters are split. -/
  inBraces : Bool := false
  /-- A tilde at the start means a directory. -/
  tilde : Bool := false
  /-- Tildes after colons do so too. -/
  isAssignment : Bool := false

namespace ExpansionMode

/-- A word that becomes fields. -/
def words : ExpansionMode := { full := true, tilde := true }

/-- A word that stays one. -/
def word : ExpansionMode := { tilde := true }

/-- `name=value`. -/
def assignment : ExpansionMode := { isAssignment := true }

/-- A text in the script. -/
def document : ExpansionMode := { quoted := true }

/-- The word in the braces of a parameter. -/
def braces (mode : ExpansionMode) : ExpansionMode :=
  { mode with inBraces := true, tilde := true }

/-- Where what comes out of an expansion is split. -/
def splitting (mode : ExpansionMode) : Splitting :=
  if mode.quoted then .never else .atSeparators

end ExpansionMode

/-! ## Tildes -/

/-- The directories of users. -/
def userDirectories : List (String × String) := [
  ("root", "/root"), ("daemon", "/usr/sbin"), ("bin", "/bin"), ("sys", "/dev"), ("sync", "/bin"),
  ("games", "/usr/games"), ("man", "/var/cache/man"), ("lp", "/var/spool/lpd"),
  ("mail", "/var/mail"), ("news", "/var/spool/news"), ("uucp", "/var/spool/uucp"),
  ("proxy", "/bin"), ("www-data", "/var/www"), ("backup", "/var/backups"),
  ("list", "/var/list"), ("irc", "/run/ircd"), ("nobody", "/nonexistent"),
  ("_apt", "/nonexistent")]

def userDirectory? (shell : ShellState) (name : String) : Option String :=
  if name.isEmpty then shell.valueOf? "HOME" else userDirectories.lookup name

/-- Bare characters of which some are read, latest first. `tilde` says that a tilde here means a
directory, `equals` that it does after an equals sign, and `closed` that nothing follows. -/
def barePieces (shell : ShellState) (mode : ExpansionMode) (closed : Bool) :
    (fuel : Nat) → (tilde equals : Bool) → List MarkedChar → List Char → List Piece
  | 0, _, _, _, _ => []
  | _, _, _, read, [] => [.text read.reverse (if mode.inBraces then .atSeparators else .never)]
  | fuel + 1, tilde, equals, read, c :: rest =>
    let name := rest.takeWhile fun c => c != '/' && !(c == ':' && mode.isAssignment)
    let home? :=
      if tilde && c == '~' && (closed || name.length < rest.length) then
        userDirectory? shell (String.ofList name)
      else none
    match home? with
    | some home =>
      .text read.reverse (if mode.inBraces then .atSeparators else .never) ::
        .ofText home true .never ::
        barePieces shell mode closed fuel false equals [] (rest.drop name.length)
    | none =>
      let tilde := mode.isAssignment && (c == ':' || (equals && c == '='))
      barePieces shell mode closed fuel tilde (equals && c != '=') ((c, mode.quoted) :: read) rest

/-! ## Parameters -/

/-- All parameters as one piece. Where fields are wanted, they are kept apart. -/
def allParameters (shell : ShellState) (mode : ExpansionMode) (name : String) : Piece :=
  let apart := mode.full && (if mode.quoted then name == "@" else (shell.valueOf? "IFS").isSome)
  let joint := if apart then ['\x00'] else shell.joint
  let chars := ((shell.parameters.map String.toList).intersperse joint).flatten
  let splitting := if !mode.quoted then .atSeparators
    else if name == "@" && !shell.parameters.isEmpty then .atBorders
    else .never
  .text (chars.map (·, mode.quoted)) splitting

/-- The value of a parameter as a piece, if it is set. -/
def parameterPiece? (shell : ShellState) (mode : ExpansionMode) (name : String) : Option Piece :=
  if name == "@" || name == "*" then some (allParameters shell mode name)
  else (shell.parameter? name).map fun value => .ofText value mode.quoted mode.splitting

/-- Complain about a parameter that is not set. -/
def complainUnset {α : Type} (name : String) (message : String := "parameter not set") : Act α :=
  giveUp (name ++ ": " ++ message)

/-- Carry out assignments, which come latest first. -/
def assignAll (assigned : List (String × Int)) : Act Unit :=
  assigned.reverse.forM fun (name, n) => setVariable name (some (toString n))

/-- Drop the line feeds at the end of an output, and zeros. -/
def outputText (text : String) : String :=
  String.ofList ((text.toList.filter (· != '\x00')).reverse.dropWhile (· == '\n')).reverse

/-- The value of an arithmetic expression. -/
def arithmeticValue (text : String) : Act Int := do
  match Arithmetic.evaluate (← getShell).parameter? text with
  | .error (.malformed message) => giveUp message
  | .error (.illegalNumber text) => giveUp ("Illegal number: " ++ text)
  | .error .trap => throw (.gone (.killed 8))
  | .ok (value, assigned) => do
    assignAll assigned
    return value

/-- Is this the word for all parameters, each of them a field? -/
def isAllParameters : List WordPart → Bool
  | [.parameter "@" .value _] => true
  | _ => false

mutual

/-- The pieces of a word part. `first` says that it begins the word, `last` that it ends it. -/
def expandPart (substitute : Script → Act String) (mode : ExpansionMode) (first last : Bool) :
    WordPart → Act (List Piece)
  | .bare text => do
    if mode.quoted then return [.ofText text true .never]
    return barePieces (← getShell) mode last (text.length + 1) (first && mode.tilde) first []
      text.toList
  | .quoted text =>
    return if text.isEmpty then [.mark] else [.ofText text true .never]
  | .doubleQuoted parts => do
    let pieces ← expandParts substitute { mode with quoted := true } false parts
    return if !mode.quoted && isAllParameters parts then pieces else .mark :: pieces ++ [.mark]
  | .output script => do
    let text ← substitute script
    return [.ofText (outputText text) mode.quoted mode.splitting]
  | .arithmetic parts => do
    let text := plainText (Piece.join (← expandParts substitute {} false parts))
    let value ← arithmeticValue text
    return [.ofText (toString value) mode.quoted mode.splitting]
  | .parameter name use word => do
    let shell ← getShell
    let piece? := parameterPiece? shell mode name
    let isEmpty := (piece?.map fun piece => (Piece.join [piece]).isEmpty).getD true
    let lacks (ifEmpty : Bool) := piece?.isNone || (ifEmpty && isEmpty)
    match use with
    | .senseless => giveUp "Bad substitution"
    | .value => do
      match piece? with
      | some piece => return [piece]
      | none => if shell.has 'u' then complainUnset name else return []
    | .length => do
      match piece? with
      | some piece =>
        return [.ofText (toString (Piece.join [piece]).length) mode.quoted mode.splitting]
      | none =>
        if shell.has 'u' then complainUnset name
        else return [.ofText "0" mode.quoted mode.splitting]
    | .orElse ifEmpty =>
      if lacks ifEmpty then expandParts substitute mode.braces true word
      else return piece?.toList
    | .inStead ifEmpty =>
      if lacks ifEmpty then return []
      else expandParts substitute mode.braces true word
    | .orAssign ifEmpty =>
      if lacks ifEmpty then do
        let text := plainText (Piece.join (← expandParts substitute .word true word))
        setNamed name (some text)
        return (parameterPiece? (← getShell) mode name).toList
      else return piece?.toList
    | .orComplain ifEmpty =>
      if lacks ifEmpty then do
        let text := plainText (Piece.join (← expandParts substitute .word true word))
        complainUnset name (if !word.isEmpty then text
          else if ifEmpty then "parameter not set or null" else "parameter not set")
      else return piece?.toList
    | .cut atEnd longest => do
      match piece? with
      | some (.text chars splitting) => do
        let pattern := Piece.join (← expandParts substitute .word true word)
        return [.text (Wildcard.cut (·.1) pattern atEnd longest chars) splitting]
      | some .mark => return []
      | none => if shell.has 'u' then complainUnset name else return []

def expandParts (substitute : Script → Act String) (mode : ExpansionMode) (first : Bool) :
    List WordPart → Act (List Piece)
  | [] => return []
  | part :: parts => do
    let pieces ← expandPart substitute mode first parts.isEmpty part
    return pieces ++ (← expandParts substitute mode false parts)

end

/-- A word as one text, without splitting. -/
def expandText (substitute : Script → Act String) (mode : ExpansionMode) (word : Word) :
    Act String := do
  return plainText (Piece.join (← expandParts substitute mode true word))

/-- A word as a pattern. -/
def expandPattern (substitute : Script → Act String) (word : Word) : Act (List MarkedChar) := do
  return Piece.join (← expandParts substitute .word true word)

/-- The words that a word becomes. -/
def expandWord (substitute : Script → Act String) (word : Word) : Act (List String) := do
  let pieces ← expandParts substitute .words true word
  let session ← get
  let found := fields session.shell.separators none pieces
  if session.shell.has 'f' then return found.map plainText
  return found.flatMap (fileNames session.machine.tree session.shell.directory)

def expandWords (substitute : Script → Act String) : List Word → Act (List String)
  | [] => return []
  | word :: words => do
    let first ← expandWord substitute word
    return first ++ (← expandWords substitute words)

end Polyglot.Shell
