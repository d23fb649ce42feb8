import Polyglot.Number.Floating
import Polyglot.Sandbox.CharClass
import Polyglot.Sandbox.Tool.Quantity
import Polyglot.Sandbox.VersionOrder

/-!
# Sort keys

Which part of a line counts when lines are compared, and how the parts are compared: letter by
letter, as numbers of several sorts, as months or as versions.
-/

namespace Polyglot.Tool

/-- The way in which parts of lines are compared. -/
structure SortOrder where
  /-- Blanks at the start, and at the end, do not count. -/
  skipsBlanks : Bool := false
  skipsEndBlanks : Bool := false
  dictionary : Bool := false
  printable : Bool := false
  folds : Bool := false
  numeric : Bool := false
  general : Bool := false
  human : Bool := false
  month : Bool := false
  random : Bool := false
  version : Bool := false
  reversed : Bool := false
deriving DecidableEq, Repr

namespace SortOrder

/-- Does nothing but blanks and the direction set it apart from the usual order? -/
def isPlain (order : SortOrder) : Bool :=
  !(order.dictionary || order.printable || order.folds || order.skipsBlanks ||
    order.skipsEndBlanks || order.numeric || order.general || order.human || order.month ||
    order.random || order.version)

/-- What a letter asks for. -/
def withLetter? (order : SortOrder) : Char → Option SortOrder
  | 'd' => some { order with dictionary := true }
  | 'f' => some { order with folds := true }
  | 'g' => some { order with general := true }
  | 'h' => some { order with human := true }
  | 'i' => some { order with printable := !order.dictionary }
  | 'M' => some { order with month := true }
  | 'n' => some { order with numeric := true }
  | 'R' => some { order with random := true }
  | 'r' => some { order with reversed := true }
  | 'V' => some { order with version := true }
  | _ => none

/-- Letters that ask for ways of comparing, and what follows them. A `b` counts for the start or for
the end. -/
def withLetters (atEnd : Bool) : SortOrder → List Char → SortOrder × List Char
  | order, [] => (order, [])
  | order, c :: rest =>
    if c == 'b' then
      withLetters atEnd (if atEnd then { order with skipsEndBlanks := true }
        else { order with skipsBlanks := true }) rest
    else match order.withLetter? c with
      | some order => withLetters atEnd order rest
      | none => (order, c :: rest)

/-- The letters of the ways that do not go together, if there are such. -/
def conflict? (order : SortOrder) : Option String :=
  let ignores := order.dictionary || order.printable
  let count := ([order.numeric, order.general, order.human, order.month,
    order.version || order.random || ignores].filter id).length
  if count ≤ 1 then none
  else
    let letters : List (Bool × Char) := [(order.dictionary, 'd'), (order.folds, 'f'),
      (order.general, 'g'), (order.human, 'h'), (order.printable, 'i'), (order.month, 'M'),
      (order.numeric, 'n'), (order.random, 'R'), (order.version, 'V')]
    some (String.ofList (letters.filterMap fun (given, c) => if given then some c else none))

/-! ## Numbers -/

/-- A number at the start of a text: its value and what follows it; nothing counts as zero. -/
def plainNumber (cs : List Char) : Rat × List Char :=
  let (negative, cs) := match cs with
    | '-' :: rest => (true, rest)
    | cs => (false, cs)
  let whole := cs.takeWhile Char.isDigit
  let rest := cs.drop whole.length
  let (fraction, rest) := match rest with
    | '.' :: more =>
      let fraction := more.takeWhile Char.isDigit
      (fraction, if fraction.isEmpty then rest else more.drop fraction.length)
    | rest => ([], rest)
  let value : Rat := (decimal (whole ++ fraction) : Rat) / (Nat.pow 10 fraction.length : Nat)
  (if negative then -value else value, rest)

/-- How far up a letter for a power takes a number that is not zero. -/
def unitRank (cs : List Char) : Int :=
  let (value, rest) := plainNumber cs
  let rank : Int := match rest.head? with
    | some 'k' => 1
    | some c => match ['K', 'M', 'G', 'T', 'P', 'E', 'Z', 'Y', 'R', 'Q'].findIdx? (· == c) with
      | some i => i + 1
      | none => 0
    | none => 0
  if value = 0 then 0 else if value < 0 then -rank else rank

/-- Where something that is read as a number stands: what is none comes first. -/
def generalRank (cs : List Char) : Nat × Rat :=
  match Floating.read? .extended cs with
  | none => (0, 0)
  | some (.nan _, _) => (1, 0)
  | some (.infinite true, _) => (2, 0)
  | some (.finite negative magnitude, _) => (3, if negative then -magnitude else magnitude)
  | some (.infinite false, _) => (4, 0)

/-- The number of a month by its first letters, or zero. -/
def monthRank (cs : List Char) : Nat :=
  let letters := String.ofList (((cs.dropWhile CharClass.isBlank).take 3).map Char.toUpper)
  let months := ["JAN", "FEB", "MAR", "APR", "MAY", "JUN", "JUL", "AUG", "SEP", "OCT", "NOV", "DEC"]
  match months.findIdx? (· == letters) with
  | some i => i + 1
  | none => 0

def compareRat (a b : Rat) : Ordering :=
  if a < b then .lt else if b < a then .gt else .eq

def compareTexts : List Char → List Char → Ordering
  | [], [] => .eq
  | [], _ :: _ => .lt
  | _ :: _, [] => .gt
  | a :: as, b :: bs => (compare a.toNat b.toNat).then (compareTexts as bs)

/-- A text as it counts: without what is left out, in upper case if case does not matter. -/
def reduced (order : SortOrder) (cs : List Char) : List Char :=
  let kept := if order.dictionary then cs.filter fun c => CharClass.isBlank c || c.isAlphanum
    else if order.printable then cs.filter fun c => 0x20 ≤ c.toNat && c.toNat < 0x7f
    else cs
  if order.folds then kept.map Char.toUpper else kept

/-- Compare two parts of lines. -/
def compareParts (order : SortOrder) (a b : List Char) : Ordering :=
  let skip (cs : List Char) := cs.dropWhile CharClass.isBlank
  let result :=
    if order.numeric then compareRat (plainNumber (skip a)).1 (plainNumber (skip b)).1
    else if order.general then
      let (m, x) := generalRank a
      let (n, y) := generalRank b
      (compare m n).then (compareRat x y)
    else if order.human then
      (compare (unitRank (skip a)) (unitRank (skip b))).then
        (compareRat (plainNumber (skip a)).1 (plainNumber (skip b)).1)
    else if order.month then compare (monthRank a) (monthRank b)
    else if order.version then VersionOrder.order (order.reduced a) (order.reduced b)
    else compareTexts (order.reduced a) (order.reduced b)
  if order.reversed then result.swap else result

end SortOrder

/-! ## Parts of lines -/

/-- A part of a line: fields and characters are counted from zero, the last character from one. -/
structure SortKey where
  startField : Nat := 0
  startChar : Nat := 0
  /-- The last field, or the end of the line. -/
  endField? : Option Nat := none
  /-- The last character of that; zero is all of it. -/
  endChar : Nat := 0
  order : SortOrder := {}
deriving DecidableEq, Repr

namespace SortKey

/-- A line from after its first field on. Without a separator a field begins with its blanks. -/
def afterField (separator? : Option Char) (cs : List Char) : List Char :=
  match separator? with
  | some separator => (cs.dropWhile (· != separator)).drop 1
  | none =>
    (cs.dropWhile fun c => CharClass.isBlank c || c == '\n').dropWhile
      fun c => !(CharClass.isBlank c || c == '\n')

def afterFields (separator? : Option Char) : (count : Nat) → List Char → List Char
  | 0, cs => cs
  | _, [] => []
  | count + 1, cs => afterFields separator? count (afterField separator? cs)

/-- A line from the start of a key on. -/
def fromStart (key : SortKey) (separator? : Option Char) (line : List Char) : List Char :=
  let rest := afterFields separator? key.startField line
  let rest := if key.order.skipsBlanks then rest.dropWhile CharClass.isBlank else rest
  rest.drop key.startChar

/-- How many characters of a line stand before the end of a key. -/
def endPlace (key : SortKey) (separator? : Option Char) (line : List Char) : Nat :=
  match key.endField? with
  | none => line.length
  | some field =>
    let rest := afterFields separator? field line
    if key.endChar = 0 then
      let after := match separator? with
        | some separator => rest.dropWhile (· != separator)
        | none => afterField none rest
      line.length - after.length
    else
      let rest := if key.order.skipsEndBlanks then rest.dropWhile CharClass.isBlank else rest
      line.length - (rest.length - min rest.length key.endChar)

/-- The part of a line. -/
def part (key : SortKey) (separator? : Option Char) (line : List Char) : List Char :=
  let rest := key.fromStart separator? line
  let start := line.length - rest.length
  rest.take (key.endPlace separator? line - start)

/-! ## Reading -/

/-- The count at the start of a text, and what follows it. -/
def readCount (complaint : String) (cs : List Char) : Except String (Nat × List Char) :=
  let digits := cs.takeWhile Char.isDigit
  if digits.isEmpty then
    .error (complaint ++ ": invalid count at start of " ++ quoted (String.ofList cs))
  else .ok (decimal digits, cs.drop digits.length)

/-- A key as it is written: where it begins, how it is compared, and where it ends. -/
def read (text : String) : Except String SortKey := do
  let bad {α : Type} (message : String) : Except String α :=
    .error (message ++ ": invalid field specification " ++ quoted text)
  let (field, cs) ← readCount "invalid number at field start" text.toList
  if field = 0 then bad "field number is zero"
  let (char, cs) ← match cs with
    | '.' :: rest => readCount "invalid number after '.'" rest
    | rest => pure (1, rest)
  if char = 0 then bad "character offset is zero"
  let (order, cs) := ({} : SortOrder).withLetters false cs
  let key : SortKey := { startField := field - 1, startChar := char - 1, order }
  match cs with
  | ',' :: rest =>
    let (field, cs) ← readCount "invalid number after ','" rest
    if field = 0 then bad "field number is zero"
    let (char, cs) ← match cs with
      | '.' :: rest => readCount "invalid number after '.'" rest
      | rest => pure (0, rest)
    let (order, cs) := key.order.withLetters true cs
    if !cs.isEmpty then bad "stray character in field spec"
    return { key with endField? := some (field - 1), endChar := char, order }
  | [] => return key
  | _ => bad "stray character in field spec"

end SortKey

end Polyglot.Tool
