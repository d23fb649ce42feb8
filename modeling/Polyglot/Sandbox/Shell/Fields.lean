import Polyglot.Sandbox.FileTree.Change
import Polyglot.Sandbox.Script.Wildcard

/-!
# Fields

What an expanded word consists of, how it is split at separators, and the names of files that a
field with wildcards stands for.
-/

namespace Polyglot.Shell

/-- Where a part of an expanded word is split. -/
inductive Splitting where
  | never
  | atSeparators
  /-- Only between parameters. -/
  | atBorders
deriving DecidableEq, Repr

/-- A part of an expanded word. A zero character stands between two parameters. -/
inductive Piece where
  | text (chars : List MarkedChar) (splitting : Splitting)
  /-- Quotes, which make a field even if there is nothing between them. -/
  | mark

namespace Piece

def ofText (text : String) (quoted : Bool) (splitting : Splitting) : Piece :=
  .text (text.toList.map (·, quoted)) splitting

/-- Pieces as one text. -/
def join (pieces : List Piece) : List MarkedChar :=
  pieces.flatMap fun
    | text chars _ => chars
    | mark => []

end Piece

def plainText (chars : List MarkedChar) : String :=
  String.ofList (chars.map (·.1))

/-! ## Splitting -/

/-- Fields under way. -/
structure FieldState where
  /-- The finished fields, latest first. -/
  finished : List (List MarkedChar) := []
  /-- The field that has begun, latest character first. -/
  current : List MarkedChar := []
  /-- Nothing belongs to the field yet, not even quotes. -/
  isEmpty : Bool := true
  /-- Nothing but blanks has ended the last field. -/
  blankEnd : Bool := false
  /-- The last part that could be split was one that is split at borders only. -/
  atBorders : Bool := false
  /-- How many fields there may still be, if there is a limit. -/
  left? : Option Nat := none
  /-- How much of the last field remains if nothing but blanks follows. -/
  kept? : Option Nat := none

namespace FieldState

def add (state : FieldState) (c : MarkedChar) : FieldState :=
  { state with current := c :: state.current, isEmpty := false }

def close (state : FieldState) : FieldState :=
  { state with finished := state.current.reverse :: state.finished, current := [], isEmpty := true }

def isBlankSeparator (c : Char) : Bool :=
  [' ', '\t', '\n', '\x00'].contains c

/-- Take a character of the last field that there may be, which keeps its separators. -/
def takeLast (isSeparator isBlank : Bool) (state : FieldState) (c : MarkedChar) : FieldState :=
  if isBlank then { state with kept? := some (state.kept?.getD state.current.length) }.add c
  else
    let kept? := if isSeparator && state.blankEnd then state.kept? else none
    { state with kept?, blankEnd := false }.add c

/-- Take a character that may separate fields; `quiet` says that blanks are not special. -/
def takeSplit (separators : List Char) (quiet : Bool) (state : FieldState) (c : MarkedChar) :
    FieldState :=
  let isSeparator := c.1 == '\x00' || separators.contains c.1
  let isBlank := isSeparator && isBlankSeparator c.1
  if state.left? == some 0 then takeLast isSeparator isBlank state c
  else if state.blankEnd && isSeparator then { state with blankEnd := isBlank }
  else if !isSeparator then { state with blankEnd := false }.add c
  else
    let blankEnd := if quiet then state.blankEnd else isBlank
    if state.isEmpty && blankEnd then { state with blankEnd := false }
    else match state.left? with
      | some 1 =>
        { state with blankEnd, left? := some 0, kept? := some state.current.length }.add c
      | left? => { state with blankEnd, left? := left?.map (· - 1) }.close

def take (separators : List Char) (state : FieldState) : Piece → FieldState
  | .mark => { state with isEmpty := false }
  | .text chars .never => chars.foldl add state
  | .text chars splitting =>
    let borders := splitting == .atBorders
    let quiet := state.atBorders || borders
    chars.foldl (takeSplit (if borders then [] else separators) quiet)
      { state with blankEnd := false, atBorders := borders }

/-- Add the last field if there is one. -/
def finish (state : FieldState) : List (List MarkedChar) :=
  if state.atBorders then state.close.finished.reverse
  else match state.kept? with
    | some n =>
      if n = 0 then state.finished.reverse
      else { state with current := state.current.drop (state.current.length - n) }.close.finished
        |>.reverse
    | none => if state.isEmpty then state.finished.reverse else state.close.finished.reverse

end FieldState

/-- The fields of an expanded word, of which there may be a limited number. -/
def fields (separators : List Char) (limit? : Option Nat) (pieces : List Piece) :
    List (List MarkedChar) :=
  (pieces.foldl (FieldState.take separators) { left? := limit? }).finish

/-! ## Names of files -/

/-- A field between slashes. -/
def fieldParts : List MarkedChar → List (List MarkedChar)
  | [] => [[]]
  | c :: cs =>
    if c.1 == '/' then [] :: fieldParts cs
    else match fieldParts cs with
      | [] => [[c]]
      | part :: parts => (c :: part) :: parts

/-- The names in a directory that a pattern covers. Hidden ones have to be asked for. -/
def coveredNames (tree : FileTree) (directory : Path) (text : String) (pattern : List MarkedChar) :
    List String :=
  match tree.find directory (if text.isEmpty then "." else text) with
  | .ok (path, _, node) =>
    if !node.isDirectory then []
    else
      let hidden := pattern.head?.any (·.1 == '.')
      ("." :: ".." :: tree.namesIn path).filter fun name =>
        (hidden || !name.startsWith ".") && Wildcard.covers pattern name.toList
  | .error _ => []

/-- The paths that a pattern in parts stands for, after the text of a path. -/
def matchingPaths (tree : FileTree) (directory : Path) :
    (fuel : Nat) → String → List (List MarkedChar) → List String
  | 0, _, _ => []
  | fuel + 1, text, parts =>
    let literal := parts.takeWhile (!Wildcard.isProper ·)
    match parts.drop literal.length with
    | [] =>
      let path := text ++ "/".intercalate (literal.map plainText)
      if (tree.look? directory path false).isSome then [path] else []
    | pattern :: rest =>
      let text := text ++ String.join (literal.map fun part => plainText part ++ "/")
      (coveredNames tree directory text pattern).flatMap fun name =>
        if rest.isEmpty then [text ++ name]
        else matchingPaths tree directory fuel (text ++ name ++ "/") rest

/-- The files that a field matches, or the field itself if there are none. -/
def fileNames (tree : FileTree) (directory : Path) (field : List MarkedChar) : List String :=
  let pattern := Wildcard.ofMarked field
  if !(fieldParts pattern).any Wildcard.isProper then [plainText field]
  else
    let parts := fieldParts pattern
    match matchingPaths tree directory (parts.length + 1) "" parts with
    | [] => [plainText field]
    | paths => paths.mergeSort (· ≤ ·)

end Polyglot.Shell
