import Polyglot.Sandbox.CharClass
import Polyglot.Sandbox.Tool.Options
import Polyglot.Sandbox.Tool.Quote

/-!
# Letters

Replacing, deleting and squeezing characters. Sets of characters are written with ranges, classes
and repetitions.
-/

namespace Polyglot.Tool

/-- A part of a set of characters. -/
inductive LetterItem where
  | one (c : Char)
  | range (first last : Char)
  | named (name : String)
  /-- All characters equal to one. -/
  | same (c : Char)
  /-- A character some number of times; zero stands for as often as needed. -/
  | times (c : Char) (count : Nat)
deriving DecidableEq, Repr

namespace LetterItem

/-- All octets in order. -/
def octets : List Char :=
  (List.range 256).map Char.ofNat

def chars : LetterItem → List Char
  | one c => [c]
  | range first last =>
    (List.range (last.toNat + 1 - first.toNat)).map fun i => Char.ofNat (first.toNat + i)
  | named name => octets.filter ((CharClass.named.lookup name).getD fun _ => false)
  | same c => [c]
  -- more than that are never looked at
  | times c count => List.replicate (min count 0x10000) c

def isNamed : LetterItem → Bool
  | named _ => true
  | _ => false

def isOpen : LetterItem → Bool
  | times _ 0 => true
  | _ => false

/-- The classes of which each letter has a partner in the other. -/
def isCase : LetterItem → Bool
  | named name => name == "upper" || name == "lower"
  | _ => false

end LetterItem

/-! ## Reading sets -/

/-- A character of a set, and whether a backslash stood before it. -/
abbrev SetChar := Char × Bool

def isOctalDigit (c : Char) : Bool :=
  '0' ≤ c && c ≤ '7'

/-- Resolve backslashes. What one should be warned of is given too. -/
def setChars : (fuel : Nat) → List Char → List SetChar × List String
  | 0, _ => ([], [])
  | _, [] => ([], [])
  | _, ['\\'] =>
    ([('\\', false)], ["warning: an unescaped backslash at end of string is not portable"])
  | fuel + 1, '\\' :: c :: rest =>
    let add (c : Char) (rest : List Char) (warnings : List String) :=
      let (chars, more) := setChars fuel rest
      ((c, true) :: chars, warnings ++ more)
    let letter (d : Char) := add d rest []
    match c with
    | 'a' => letter '\x07'
    | 'b' => letter '\x08'
    | 'f' => letter '\x0c'
    | 'n' => letter '\n'
    | 'r' => letter '\r'
    | 't' => letter '\t'
    | 'v' => letter '\x0b'
    | c =>
      if isOctalDigit c then
        let digits := ((c :: rest).take 3).takeWhile isOctalDigit
        let value (digits : List Char) := digits.foldl (fun n d => 8 * n + (d.toNat - 48)) 0
        if value digits < 256 then
          add (Char.ofNat (value digits)) ((c :: rest).drop digits.length) []
        else
          let text := String.ofList digits
          let kept := digits.take 2
          add (Char.ofNat (value kept)) ((c :: rest).drop 2)
            ["warning: the ambiguous octal escape \\" ++ text ++
              " is being\n\tinterpreted as the 2-byte sequence \\0" ++ String.ofList kept ++ ", " ++
              String.ofList (digits.drop 2)]
      else letter c
  | fuel + 1, c :: rest =>
    let (chars, warnings) := setChars fuel rest
    ((c, false) :: chars, warnings)

/-- A character as complaints show it. -/
def setCharText (c : Char) : String :=
  if c == '\\' then "\\\\"
  else if isPrintable c then String.singleton c
  else String.ofList (backslashed c)

/-- The text between an opening mark and the same mark before a closing bracket. -/
def untilClosing (mark : Char) : List SetChar → Option (List SetChar × List SetChar)
  | [] => none
  | [_] => none
  | c :: d :: rest =>
    if c == (mark, false) && d == (']', false) then some ([], rest)
    else (untilClosing mark (d :: rest)).map fun (text, rest) => (c :: text, rest)

/-- A repetition, from after its opening bracket: the part, or the wrong count. -/
def repetition? : List SetChar → Option (Except String LetterItem × List SetChar)
  | (c, _) :: ('*', false) :: rest =>
    let digits := (rest.takeWhile fun (d, escaped) => !escaped && d != ']').map (·.1)
    match rest.drop digits.length with
    | (']', false) :: after =>
      let base := if digits.head? == some '0' then 8 else 10
      let isGood := digits.all fun d => d.isDigit && d.toNat - 48 < base
      let count := digits.foldl (fun n d => base * n + (d.toNat - 48)) 0
      if isGood then some (.ok (.times c count), after)
      else some (.error (String.join (digits.map setCharText)), after)
    | _ => none
  | _ => none

/-- Does a repetition of digits alone stand here? -/
def isStarred : List SetChar → Bool
  | ('*', false) :: rest =>
    ((rest.dropWhile fun (d, escaped) => !escaped && d.isDigit).head?) == some (']', false)
  | _ => false

/-- What stands in brackets, from after the opening one; nothing if brackets mean nothing here. -/
def bracketed? (cs : List SetChar) : Option (Except String LetterItem × List SetChar) :=
  let repeated (_ : Unit) := match repetition? cs with
    | some (.error digits, rest) =>
      some (.error ("invalid repeat count " ++ quoted digits ++ " in [c*n] construct"), rest)
    | found => found
  match cs with
  | (mark, false) :: inner =>
    if mark != ':' && mark != '=' then repeated ()
    else match untilClosing mark inner with
      | none => repeated ()
      | some (text, rest) =>
        let name := String.ofList (text.map (·.1))
        let shown := String.join (text.map fun (c, _) => setCharText c)
        if mark == ':' then
          if text.isEmpty then some (.error "missing character class name '[::]'", rest)
          else if (CharClass.named.lookup name).isSome then some (.ok (.named name), rest)
          else if isStarred inner then repeated ()
          else some (.error ("invalid character class " ++ quoted shown), rest)
        else match text with
          | [] => some (.error "missing equivalence class character '[==]'", rest)
          | [(c, _)] => some (.ok (.same c), rest)
          | _ =>
            if isStarred inner then repeated ()
            else some
              (.error (shown ++ ": equivalence class operand must be a single character"), rest)
  | _ => repeated ()

/-- The parts of a set. -/
def letterItems : (fuel : Nat) → List SetChar → Except String (List LetterItem)
  | 0, _ => .ok []
  | fuel + 1, cs =>
    if cs.length < 3 then .ok (cs.map fun (c, _) => .one c)
    else
      match (if cs.head? == some ('[', false) then bracketed? cs.tail else none), cs with
      | some (.error message, _), _ => .error message
      | some (.ok item, rest), _ => do return item :: (← letterItems fuel rest)
      | none, (first, _) :: ('-', false) :: (last, _) :: rest =>
        if last < first then
          .error ("range-endpoints of '" ++ setCharText first ++ "-" ++ setCharText last ++
            "' are in reverse collating sequence order")
        else do return .range first last :: (← letterItems fuel rest)
      | none, (c, _) :: rest => do return .one c :: (← letterItems fuel rest)
      | none, [] => .ok []

def readLetters (text : String) : Work (List LetterItem) := do
  let (chars, warnings) := setChars (text.length + 1) text.toList
  warnings.forM Work.complain
  match letterItems (chars.length + 1) chars with
  | .ok items => return items
  | .error message => Work.die message

/-! ## Sets -/

def lettersOf (items : List LetterItem) : List Char :=
  items.flatMap LetterItem.chars

/-- The characters that are in none of the parts. -/
def otherLetters (items : List LetterItem) : List Char :=
  let letters := lettersOf items
  LetterItem.octets.filter (!letters.contains ·)

/-- Give the part without a count as many characters as are missing. -/
def fillLetters (length : Nat) (items : List LetterItem) : List LetterItem :=
  let missing := length - (lettersOf items).length
  items.flatMap fun item => match item with
    | .times c 0 => if missing = 0 then [] else [.times c missing]
    | item => [item]

/-- Where the classes of letters with partners begin, and whether they follow one another as they
should. -/
def casesAlign (first second : List LetterItem) : Bool :=
  let starts (items : List LetterItem) : List (Nat × Bool) :=
    (items.foldl
      (fun (found, place) item => ((place, item.isCase) :: found, place + item.chars.length))
      (([], 0) : List (Nat × Bool) × Nat)).1
  let marks := starts first
  (starts second).all fun (place, isCase) => !isCase || marks.contains (place, true)

structure LetterSettings where
  complement : Bool := false
  deletes : Bool := false
  squeezes : Bool := false
  truncates : Bool := false

namespace LetterSettings

def options : OptionTable where
  letters := "AcCdst"
  words := [("complement", "c"), ("delete", "d"), ("squeeze-repeats", "s"), ("truncate-set1", "t")]
  stopsEarly := true

def step (settings : LetterSettings) (option : GivenOption) : Work LetterSettings :=
  return match option.key with
    | "d" => { settings with deletes := true }
    | "s" => { settings with squeezes := true }
    | "t" => { settings with truncates := true }
    | "A" => settings
    | _ => { settings with complement := true }

/-- Check how many sets there are. -/
def checkOperands (settings : LetterSettings) (operands : List String) : Work Unit := do
  let least := if settings.deletes == settings.squeezes then 2 else 1
  let most := if settings.deletes && !settings.squeezes then 1 else 2
  let last := operands.getLast?.getD ""
  if operands.isEmpty then Work.misuse "missing operand"
  if operands.length < least then do
    Work.complain ("missing operand after " ++ quoted last)
    Work.murmur (if settings.squeezes
      then "Two strings must be given when both deleting and squeezing repeats.\n"
      else "Two strings must be given when translating.\n")
    Work.hint
    Work.exit 1
  match operands.drop most with
  | extra :: _ => do
    Work.complain ("extra operand " ++ quoted extra)
    if operands.length = 2 then
      Work.murmur "Only one string may be given when deleting without squeezing repeats.\n"
    Work.hint
    Work.exit 1
  | [] => pure ()

end LetterSettings

/-- Leave one of characters that follow one another if they are in a set. -/
def squeeze (isIn : Char → Bool) : List Char → List Char
  | c :: d :: rest =>
    if c == d && isIn c then squeeze isIn (d :: rest) else c :: squeeze isIn (d :: rest)
  | cs => cs

/-- Check two sets of which the first is replaced by the second, and give the second in full. -/
def replacement (settings : LetterSettings) (first second : List LetterItem) :
    Work (List Char × List Char) := do
  let from' := if settings.complement then otherLetters first else lettersOf first
  let second := if (second.filter (·.isOpen)).length = 1 then fillLetters from'.length second
    else second
  if 1 < (second.filter (·.isOpen)).length then
    Work.die "only one [c*] repeat construct may appear in string2"
  if second.any fun item => match item with
      | .same _ => true
      | _ => false then
    Work.die "[=c=] expressions may not appear in string2 when translating"
  if second.any fun item => item.isNamed && !item.isCase then
    Work.die ("when translating, the only character classes that may appear in\n" ++
      "string2 are 'upper' and 'lower'")
  if !settings.complement && !casesAlign first second then
    Work.die "misaligned [:upper:] and/or [:lower:] construct"
  let to' := lettersOf second
  let isShort := to'.length < from'.length && !settings.truncates
  if isShort && to'.isEmpty then
    Work.die "when not truncating set1, string2 must be non-empty"
  if isShort && (second.getLast?.any (·.isNamed)) then
    Work.die ("when translating with string1 longer than string2,\n" ++
      "the latter string must not end with a character class")
  let to' := if isShort then
      to' ++ List.replicate (from'.length - to'.length) (to'.getLast?.getD ' ')
    else to'
  let isUniform := to'.length == from'.length && to'.all (· == to'.headD ' ')
  if settings.complement && first.any (·.isNamed) && !isUniform then
    Work.die ("when translating with complemented character classes,\n" ++
      "string2 must map all characters in the domain to one")
  return (from', to')

/-- `tr`: the standard input with characters replaced, deleted or squeezed. -/
def changeLetters : Tool := do
  let (settings, operands) ← Work.options LetterSettings.options ({} : LetterSettings)
    LetterSettings.step
  settings.checkOperands operands
  let first ← readLetters (operands.headD "")
  let second ← readLetters ((operands[1]?).getD "")
  if first.any (·.isOpen) then
    Work.die "the [c*] repeat construct may not appear in string1"
  let hasSecond := operands.length = 2
  let translates := hasSecond && !settings.deletes
  if hasSecond && !translates && second.any (·.isOpen) then
    Work.die "the [c*] construct may appear in string2 only when translating"
  let table : Array Bool := (LetterItem.octets.map fun c =>
    (lettersOf first).contains c != settings.complement).toArray
  let isFirst (c : Char) : Bool := (table[c.toNat]?).getD false
  let change ← if translates then do
      let (from', to') ← replacement settings first second
      let pairs := (from'.zip to').reverse
      let map : Array Char := (LetterItem.octets.map fun c => (pairs.lookup c).getD c).toArray
      let squeezed := if settings.squeezes then squeeze (to'.contains ·) else id
      pure fun (cs : List Char) => squeezed (cs.map fun c => (map[c.toNat]?).getD c)
    else
      let kept (cs : List Char) : List Char :=
        if settings.deletes then cs.filter (!isFirst ·) else cs
      let letters := lettersOf second
      let isSqueezed (c : Char) : Bool := if hasSecond then letters.contains c else isFirst c
      pure fun (cs : List Char) =>
        if settings.squeezes then squeeze isSqueezed (kept cs) else kept cs
  match ← Work.streamInput with
  | .ok cs => Work.say (String.ofList (change cs))
  | .error e => Work.die ("read error: " ++ e.reason)

end Polyglot.Tool
