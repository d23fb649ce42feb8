import Polyglot.Pattern.Basic

/-!
# Reading patterns

The written form of patterns: alternation, repetition with `*`, `+`, `?` and counts, bracketed
classes with set operations, groups, and flags for case, for lines, for the dot and for
eagerness. Look-around and back references are refused, and so are classes by property, verbose
patterns, carriage returns as line ends, bytes in place of characters, and the edges of words with
their sides; besides, patterns that are nested too deep or too long when written out. Every loop of
the reader takes at least one character, so the length of the text bounds the number of steps.
-/

namespace Polyglot

/-- Why a text is no pattern. -/
inductive PatternFault where
  | unclosedGroup
  | unopenedGroup
  | badGroupName
  | duplicateGroupName
  | lookAround
  | backReference
  | badFlags
  | nothingToRepeat
  | badCount
  | badEscape
  | unclosedClass
  | badRange
  | tooDeep
  | tooLong
deriving DecidableEq, Repr

namespace PatternReader

/-- The flags in force. -/
structure Mode where
  ignoreCase : Bool := false
  multiLine : Bool := false
  dotAll : Bool := false
  swapEager : Bool := false

abbrev Result (α : Type) := Except PatternFault (α × List Char)

/-! ## Numbers and escapes -/

def hexValue? (c : Char) : Option Nat :=
  if '0' ≤ c && c ≤ '9' then some (c.toNat - 48)
  else if 'a' ≤ c && c ≤ 'f' then some (c.toNat - 87)
  else if 'A' ≤ c && c ≤ 'F' then some (c.toNat - 55)
  else none

def isHex (c : Char) : Bool :=
  (hexValue? c).isSome

def numberOf (base : Nat) (digits : List Char) : Nat :=
  digits.foldl (fun n c => n * base + (hexValue? c).getD 0) 0

/-- The character of a code point, which may be no surrogate and not too large. -/
def scalar? (n : Nat) : Option Char :=
  if n.isValidChar then some (Char.ofNat n) else none

/-- A code point in hexadecimal, with `width` digits or any number of them in braces. -/
def hexEscape (width : Nat) : List Char → Result Char
  | '\x7b' :: rest =>
    let digits := rest.takeWhile isHex
    match digits, rest.dropWhile isHex with
    | _ :: _, '\x7d' :: after =>
      match scalar? (numberOf 16 digits) with
      | some c => .ok (c, after)
      | none => .error .badEscape
    | _, _ => .error .badEscape
  | rest =>
    let digits := rest.take width
    if digits.length = width && digits.all isHex then
      match scalar? (numberOf 16 digits) with
      | some c => .ok (c, rest.drop width)
      | none => .error .badEscape
    else .error .badEscape

/-- What a backslash and the characters after it stand for. -/
inductive Escape where
  | char (c : Char)
  | set (s : CharSet)
  | anchor (a : Anchor)

/-- Punctuation may be escaped whether or not it has a meaning of its own. -/
def isEscapable (c : Char) : Bool :=
  c.toNat < 0x80 && !c.isAlphanum && c != '<' && c != '>'

/-- The characters just after a backslash. -/
def escape : List Char → Result Escape
  | [] => .error .badEscape
  | 'd' :: rest => .ok (.set .digit, rest)
  | 'D' :: rest => .ok (.set (.compl .digit), rest)
  | 's' :: rest => .ok (.set .blank, rest)
  | 'S' :: rest => .ok (.set (.compl .blank), rest)
  | 'w' :: rest => .ok (.set .word, rest)
  | 'W' :: rest => .ok (.set (.compl .word), rest)
  | 'b' :: rest => .ok (.anchor .wordEdge, rest)
  | 'B' :: rest => .ok (.anchor .noWordEdge, rest)
  | 'A' :: rest => .ok (.anchor .textStart, rest)
  | 'z' :: rest => .ok (.anchor .textEnd, rest)
  | 'a' :: rest => .ok (.char '\x07', rest)
  | 'f' :: rest => .ok (.char '\x0c', rest)
  | 't' :: rest => .ok (.char '\t', rest)
  | 'n' :: rest => .ok (.char '\n', rest)
  | 'r' :: rest => .ok (.char '\r', rest)
  | 'v' :: rest => .ok (.char '\x0b', rest)
  | 'x' :: rest => (hexEscape 2 rest).map fun (c, after) => (.char c, after)
  | 'u' :: rest => (hexEscape 4 rest).map fun (c, after) => (.char c, after)
  | 'U' :: rest => (hexEscape 8 rest).map fun (c, after) => (.char c, after)
  | c :: rest =>
    if c.isDigit then .error .backReference
    else if isEscapable c then .ok (.char c, rest)
    else .error .badEscape

/-! ## Bracketed classes -/

/-- A set as a class holds it: closed under change of case if the mode asks for that. -/
def Mode.close (mode : Mode) (s : CharSet) : CharSet :=
  if mode.ignoreCase then .anyCase s else s

def asciiClass? : String → Option CharSet
  | "alnum" => some (.ofList [.range '0' '9', .range 'A' 'Z', .range 'a' 'z'])
  | "alpha" => some (.ofList [.range 'A' 'Z', .range 'a' 'z'])
  | "ascii" => some (.range '\x00' '\x7f')
  | "blank" => some (.ofList [.single '\t', .single ' '])
  | "cntrl" => some (.ofList [.range '\x00' '\x1f', .single '\x7f'])
  | "digit" => some (.range '0' '9')
  | "graph" => some (.range '!' '~')
  | "lower" => some (.range 'a' 'z')
  | "print" => some (.range ' ' '~')
  | "punct" => some (.ofList [.range '!' '/', .range ':' '@', .range '[' '\x60', .range '\x7b' '~'])
  | "space" => some (.ofList [.range '\t' '\r', .single ' '])
  | "upper" => some (.range 'A' 'Z')
  | "word" => some (.ofList [.range '0' '9', .range 'A' 'Z', .range 'a' 'z', .single '_'])
  | "xdigit" => some (.ofList [.range '0' '9', .range 'A' 'F', .range 'a' 'f'])
  | _ => none

/-- A named ASCII class such as `[:alpha:]`, from after its bracket. A class that is negated is
closed under change of case before. -/
def namedClass? (mode : Mode) : List Char → Option (CharSet × List Char)
  | ':' :: rest =>
    let (negated, rest) := match rest with
      | '^' :: after => (true, after)
      | _ => (false, rest)
    let name := rest.takeWhile Char.isAlpha
    match rest.dropWhile Char.isAlpha with
    | ':' :: ']' :: after =>
      (asciiClass? (String.ofList name)).map fun s =>
        (if negated then .compl (mode.close s) else s, after)
    | _ => none
  | _ => none

/-- How two operands of a class combine. -/
inductive SetOperator where
  | inter | diff | symmDiff

def SetOperator.apply : SetOperator → CharSet → CharSet → CharSet
  | inter, s, t => .inter s t
  | diff, s, t => s.diff t
  | symmDiff, s, t => s.symmDiff t

/-- One member of a class: a character that may begin a range, or a whole set. -/
def classMember : List Char → Result (Char ⊕ CharSet)
  | [] => .error .unclosedClass
  | '\\' :: rest =>
    match escape rest with
    | .ok (.char c, after) => .ok (.inl c, after)
    | .ok (.set s, after) => .ok (.inr s, after)
    | .ok (.anchor _, _) => .error .badEscape
    | .error fault => .error fault
  | c :: rest => .ok (.inl c, rest)

/-- One member, with the rest of its range if it begins one. A hyphen before the closing bracket
or before another hyphen begins none. -/
def classItem (input : List Char) : Result CharSet :=
  match classMember input with
  | .error fault => .error fault
  | .ok (member, rest) =>
    let alone : CharSet := match member with
      | .inl c => .single c
      | .inr s => s
    match rest with
    | '-' :: ']' :: _ => .ok (alone, rest)
    | '-' :: '-' :: _ => .ok (alone, rest)
    | '-' :: after =>
      match member, classMember after with
      | _, .error fault => .error fault
      | .inl first, .ok (.inl last, after) =>
        if first ≤ last then .ok (.range first last, after) else .error .badRange
      | _, .ok _ => .error .badRange
    | _ => .ok (alone, rest)

/-- A class under way: the members of the operand being read, latest first, with the depth of the
deepest one, and the operand and operator that wait for it, with its depth. -/
structure ClassDraft where
  negated : Bool
  left : Option (CharSet × SetOperator × Nat) := none
  members : List CharSet := []
  deepest : Nat := 0

namespace ClassDraft

/-- The set read so far. -/
def soFar (mode : Mode) (draft : ClassDraft) : CharSet :=
  let members := CharSet.ofList draft.members.reverse
  match draft.left with
  | some (s, op, _) => op.apply (mode.close s) (mode.close members)
  | none => members

/-- How deep the class is nested so far: several members lie one level below their union, and
operands one level below their operator. -/
def depth (draft : ClassDraft) : Nat :=
  let operand := if draft.members.length < 2 then draft.deepest else draft.deepest + 1
  match draft.left with
  | some (_, _, left) => max left operand + 1
  | none => operand

/-- Begin the right operand of an operator. -/
def operate (mode : Mode) (draft : ClassDraft) (op : SetOperator) : ClassDraft :=
  { draft with
    left := some (draft.soFar mode, op, draft.depth)
    members := []
    deepest := 0 }

def push (draft : ClassDraft) (s : CharSet) (depth : Nat) : ClassDraft :=
  { draft with members := s :: draft.members, deepest := max draft.deepest depth }

def finish (mode : Mode) (draft : ClassDraft) : CharSet :=
  let closed := mode.close (draft.soFar mode)
  if draft.negated then .compl closed else closed

end ClassDraft

/-- What follows the opening bracket of a class. Hyphens here stand for themselves, and so does a
closing bracket in the first place. -/
def openClass (input : List Char) : ClassDraft × List Char :=
  let (negated, rest) := match input with
    | '^' :: rest => (true, rest)
    | _ => (false, input)
  match rest with
  | '-' :: _ =>
    ({ negated, members := (rest.takeWhile (· == '-')).map .single }, rest.dropWhile (· == '-'))
  | ']' :: after => ({ negated, members := [.single ']'] }, after)
  | _ => ({ negated }, rest)

/-- Read on inside a class, which stands inside the classes `outer`, the innermost first. The
class comes with its depth. -/
def classFrom (mode : Mode) : (fuel : Nat) → ClassDraft → (outer : List ClassDraft) → List Char →
    Result (CharSet × Nat)
  | 0, _, _, _ => .error .unclosedClass
  | fuel + 1, draft, outer, input =>
    match input with
    | [] => .error .unclosedClass
    | ']' :: rest =>
      match outer with
      | [] => .ok ((draft.finish mode, draft.depth + 1), rest)
      | next :: outer =>
        classFrom mode fuel (next.push (draft.finish mode) (draft.depth + 1)) outer rest
    | '&' :: '&' :: rest => classFrom mode fuel (draft.operate mode .inter) outer rest
    | '-' :: '-' :: rest => classFrom mode fuel (draft.operate mode .diff) outer rest
    | '~' :: '~' :: rest => classFrom mode fuel (draft.operate mode .symmDiff) outer rest
    | '[' :: rest =>
      match namedClass? mode rest with
      | some (s, after) => classFrom mode fuel (draft.push s 0) outer after
      | none =>
        let (inner, after) := openClass rest
        classFrom mode fuel inner (draft :: outer) after
    | _ =>
      match classItem input with
      | .error fault => .error fault
      | .ok (s, rest) => classFrom mode fuel (draft.push s 0) outer rest

/-- A bracketed class, from after its opening bracket. -/
def bracketed (mode : Mode) (input : List Char) : Result (CharSet × Nat) :=
  let (draft, rest) := openClass input
  classFrom mode (rest.length + 1) draft [] rest

/-! ## Repetition counts -/

/-- Counts are below this number. -/
def countBound : Nat := 0x100000000

/-- A number with blanks around it or without. -/
def count (input : List Char) : Result Nat :=
  let rest := input.dropWhile Text.isBlank
  let digits := rest.takeWhile Char.isDigit
  let n := numberOf 10 digits
  if digits.isEmpty || n ≥ countBound then .error .badCount
  else .ok (n, (rest.dropWhile Char.isDigit).dropWhile Text.isBlank)

/-- The bounds inside braces, from after the opening one; no upper bound is `none`. -/
def counts (input : List Char) : Result (Nat × Option Nat) :=
  match count input with
  | .error fault => .error fault
  | .ok (least, '\x7d' :: after) => .ok ((least, some least), after)
  | .ok (least, ',' :: '\x7d' :: after) => .ok ((least, none), after)
  | .ok (least, ',' :: more) =>
    match count more with
    | .ok (most, '\x7d' :: after) =>
      if most < least then .error .badCount else .ok ((least, some most), after)
    | _ => .error .badCount
  | _ => .error .badCount

def repeated (eager : Bool) (p : Pattern) (least : Nat) (most : Option Nat) : Pattern :=
  match most with
  | none => if least = 0 then .loop eager p else .seq (.times least p) (.loop eager p)
  | some most =>
    if most = least then .times least p
    else if least = 0 then .upTo eager most p
    else .seq (.times least p) (.upTo eager (most - least) p)

/-! ## Groups and flags -/

/-- Set or clear one flag. Characters are Unicode, and may not be said to be anything else. -/
def Mode.set? (mode : Mode) (flag : Char) (value : Bool) : Option Mode :=
  match flag with
  | 'i' => some { mode with ignoreCase := value }
  | 'm' => some { mode with multiLine := value }
  | 's' => some { mode with dotAll := value }
  | 'U' => some { mode with swapEager := value }
  | 'u' => if value then some mode else none
  | _ => none

/-- Flags up to the colon or the parenthesis that ends them. `seen` are the flags so far and
`clearing` says that a minus sign has been passed. -/
def flags (mode : Mode) (seen : List Char) (clearing : Bool) : List Char → Result (Mode × List Char)
  | [] => .error .unclosedGroup
  | c :: rest =>
    if c = ':' || c = ')' then
      if seen.head? = some '-' then .error .badFlags else .ok ((mode, seen), c :: rest)
    else if c = '-' then
      if clearing then .error .badFlags else flags mode ('-' :: seen) true rest
    else if seen.contains c then .error .badFlags
    else match mode.set? c (!clearing) with
      | some next => flags next (c :: seen) clearing rest
      | none => .error .badFlags

def isNameStart (c : Char) : Bool :=
  c == '_' || Text.isAlphabetic c

def isNamePart (c : Char) : Bool :=
  c == '_' || c == '.' || c == '[' || c == ']' || Text.isAlphanumeric c

/-- The name of a group, from after the opening angle bracket. -/
def groupName (input : List Char) : Result (List Char) :=
  let name := input.takeWhile isNamePart
  match name, input.dropWhile isNamePart with
  | first :: _, '>' :: rest => if isNameStart first then .ok (name, rest) else .error .badGroupName
  | _, _ => .error .badGroupName

/-- How a group opens. -/
inductive Opening where
  /-- Flags for the rest of the enclosing group. -/
  | flags (mode : Mode)
  | plain (mode : Mode)
  | capture
  | named (name : List Char)

/-- What follows an opening parenthesis. -/
def opening (mode : Mode) : List Char → Result Opening
  | '?' :: '=' :: _ => .error .lookAround
  | '?' :: '!' :: _ => .error .lookAround
  | '?' :: '<' :: '=' :: _ => .error .lookAround
  | '?' :: '<' :: '!' :: _ => .error .lookAround
  | '?' :: 'P' :: '<' :: rest => (groupName rest).map fun (name, after) => (.named name, after)
  | '?' :: '<' :: rest => (groupName rest).map fun (name, after) => (.named name, after)
  | '?' :: rest =>
    match flags mode [] false rest with
    | .error fault => .error fault
    | .ok ((_, []), ')' :: _) => .error .nothingToRepeat
    | .ok ((mode, _), ')' :: after) => .ok (.flags mode, after)
    | .ok ((mode, _), after) => .ok (.plain mode, after.drop 1)
  | rest => .ok (.capture, rest)

/-! ## Alternatives -/

/-- Patterns may be nested this deep. -/
def depthLimit : Nat := 250

/-- A part of a pattern with the depth to which it is nested. -/
structure Part where
  pattern : Pattern
  depth : Nat := 0

/-- Parts that are put together lie one level below the whole, a lone one on its level. -/
def Part.level (parts : List Part) : Nat :=
  let deepest := parts.foldl (fun n part => max n part.depth) 0
  if parts.length < 2 then deepest else deepest + 1

/-- What has been read of the group at hand: its finished alternatives and the items of the
current one, both latest first. An item is no part where only flags stood. -/
structure Draft where
  alternatives : List Part := []
  items : List (Option Part) := []

namespace Draft

def push (draft : Draft) (p : Pattern) (depth : Nat := 0) : Draft :=
  { draft with items := some ⟨p, depth⟩ :: draft.items }

/-- The current alternative. Flags count among its items. -/
def alternative (draft : Draft) : Part where
  pattern := Pattern.sequence (draft.items.reverse.filterMap id |>.map (·.pattern))
  depth := Part.level (draft.items.map (·.getD ⟨.empty, 0⟩))

/-- End the current alternative. -/
def split (draft : Draft) : Draft where
  alternatives := draft.alternative :: draft.alternatives
  items := []

def finish (draft : Draft) : Part :=
  let parts := draft.split.alternatives
  ⟨Pattern.choice (parts.reverse.map (·.pattern)), Part.level parts⟩

/-- Repeat the latest item. -/
def mapLast (draft : Draft) (f : Pattern → Pattern) : Except PatternFault Draft :=
  match draft.items with
  | some part :: items => .ok { draft with items := some ⟨f part.pattern, part.depth + 1⟩ :: items }
  | _ => .error .nothingToRepeat

end Draft

/-- A question mark after a repetition turns its eagerness round. -/
def eagerness (mode : Mode) : List Char → Bool × List Char
  | '?' :: rest => (mode.swapEager, rest)
  | rest => (!mode.swapEager, rest)

/-- One character that stands for itself. -/
def Mode.literal (mode : Mode) (c : Char) : Pattern :=
  .char (mode.close (.single c))

/-- The names of groups met so far, and the number of the latest group. -/
structure Census where
  groups : Nat := 0
  names : List (List Char) := []

/-- Read alternatives up to the parenthesis that closes the innermost of the open groups, or,
outside any, up to the end of the text. -/
def alternatives : (fuel : Nat) → (nested : Nat) → Mode → Census → Draft → List Char →
    Result (Part × Census)
  | 0, _, _, _, _, _ => .error .unclosedGroup
  | fuel + 1, nested, mode, census, draft, input =>
    match input with
    | [] => if 0 < nested then .error .unclosedGroup else .ok ((draft.finish, census), [])
    | ')' :: rest =>
      if 0 < nested then .ok ((draft.finish, census), rest) else .error .unopenedGroup
    | '|' :: rest => alternatives fuel nested mode census draft.split rest
    | '(' :: rest =>
      if depthLimit < nested then .error .tooDeep
      else match opening mode rest with
      | .error fault => .error fault
      | .ok (.flags mode, rest) =>
        alternatives fuel nested mode census { draft with items := none :: draft.items } rest
      | .ok (.plain inner, rest) =>
        match alternatives fuel (nested + 1) inner census {} rest with
        | .error fault => .error fault
        | .ok ((part, census), rest) =>
          alternatives fuel nested mode census (draft.push part.pattern (part.depth + 1)) rest
      | .ok (.capture, rest) =>
        let index := census.groups + 1
        match alternatives fuel (nested + 1) mode { census with groups := index } {} rest with
        | .error fault => .error fault
        | .ok ((part, census), rest) =>
          let group := Pattern.group index part.pattern
          alternatives fuel nested mode census (draft.push group (part.depth + 1)) rest
      | .ok (.named name, rest) =>
        let index := census.groups + 1
        if census.names.contains name then .error .duplicateGroupName
        else match alternatives fuel (nested + 1) mode ⟨index, name :: census.names⟩ {} rest with
          | .error fault => .error fault
          | .ok ((part, census), rest) =>
            let group := Pattern.group index part.pattern
            alternatives fuel nested mode census (draft.push group (part.depth + 1)) rest
    | '[' :: rest =>
      match bracketed mode rest with
      | .error fault => .error fault
      | .ok ((set, depth), rest) =>
        alternatives fuel nested mode census (draft.push (.char set) depth) rest
    | '*' :: rest =>
      let (eager, rest) := eagerness mode rest
      match draft.mapLast (.loop eager) with
      | .error fault => .error fault
      | .ok draft => alternatives fuel nested mode census draft rest
    | '+' :: rest =>
      let (eager, rest) := eagerness mode rest
      match draft.mapLast (.oneOrMore eager) with
      | .error fault => .error fault
      | .ok draft => alternatives fuel nested mode census draft rest
    | '?' :: rest =>
      let (eager, rest) := eagerness mode rest
      match draft.mapLast (.optional eager) with
      | .error fault => .error fault
      | .ok draft => alternatives fuel nested mode census draft rest
    | '\x7b' :: rest =>
      if draft.items.isEmpty then .error .nothingToRepeat
      else match counts rest with
        | .error fault => .error fault
        | .ok ((least, most), rest) =>
          let (eager, rest) := eagerness mode rest
          match draft.mapLast (repeated eager · least most) with
          | .error fault => .error fault
          | .ok draft => alternatives fuel nested mode census draft rest
    | '.' :: rest =>
      let any : CharSet := if mode.dotAll then .all else .compl (.single '\n')
      alternatives fuel nested mode census (draft.push (.char any)) rest
    | '^' :: rest =>
      let start : Anchor := if mode.multiLine then .lineStart else .textStart
      alternatives fuel nested mode census (draft.push (.anchor start)) rest
    | '$' :: rest =>
      let stop : Anchor := if mode.multiLine then .lineEnd else .textEnd
      alternatives fuel nested mode census (draft.push (.anchor stop)) rest
    | '\\' :: rest =>
      match escape rest with
      | .error fault => .error fault
      | .ok (.char c, rest) =>
        alternatives fuel nested mode census (draft.push (mode.literal c)) rest
      | .ok (.set s, rest) => alternatives fuel nested mode census (draft.push (.char s)) rest
      | .ok (.anchor a, rest) => alternatives fuel nested mode census (draft.push (.anchor a)) rest
    | c :: rest => alternatives fuel nested mode census (draft.push (mode.literal c)) rest

end PatternReader

namespace Pattern

/-- How long a pattern is when its repetitions are written out. -/
def length : Pattern → Nat
  | empty => 1
  | char _ => 1
  | anchor _ => 1
  | seq p q => p.length + q.length
  | alt p q => p.length + q.length
  | loop _ p => p.length
  | times count p => count * p.length
  | upTo _ count p => count * p.length
  | group _ p => p.length

/-- Patterns may be this long. -/
def lengthLimit : Nat := 300000

/-- The pattern that some characters write; `ignoreCase` is the state of the case flag at their
start. -/
def readList (input : List Char) (ignoreCase : Bool) : Except PatternFault Pattern :=
  match PatternReader.alternatives (input.length + 1) 0 { ignoreCase } {} {} input with
  | .error fault => .error fault
  | .ok ((part, _), _) =>
    if PatternReader.depthLimit < part.depth then .error .tooDeep
    else if lengthLimit < part.pattern.length then .error .tooLong
    else .ok part.pattern

def read (text : String) (ignoreCase : Bool) : Except PatternFault Pattern :=
  readList text.toList ignoreCase

end Pattern

end Polyglot
