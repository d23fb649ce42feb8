import Polyglot.Json.Number

/-!
# The tree of a JSON text

A text is scanned once into a tree that keeps every problem at its place: a token or a container
that breaks off holds the fault, and nothing follows it. Whoever walks the tree in order meets
problems of form and problems of shape in the order of the text, and what nobody looks at is
never checked beyond its form.
-/

namespace Polyglot

/-- The characters between the quotes of a string, escapes as written. -/
structure StringToken where
  body : List Char
  fault : Option JsonFault
deriving DecidableEq, Repr

inductive JsonTree where
  | null
  | bool (b : Bool)
  | number (token : NumberToken)
  | string (token : StringToken)
  | array (items : List JsonTree) (fault : Option JsonFault)
  | object (members : List (StringToken × JsonTree)) (fault : Option JsonFault)
  /-- No value begins here, or a word breaks off. -/
  | broken (fault : JsonFault)

namespace StringToken

/-! ## Strings -/

def hexValue? (c : Char) : Option Nat :=
  if '0' ≤ c && c ≤ '9' then some (c.toNat - 48)
  else if 'a' ≤ c && c ≤ 'f' then some (c.toNat - 87)
  else if 'A' ≤ c && c ≤ 'F' then some (c.toNat - 55)
  else none

/-- The value of four hexadecimal digits. -/
def unit? (a b c d : Char) : Option Nat := do
  return (← hexValue? a) * 0x1000 + (← hexValue? b) * 0x100 + (← hexValue? c) * 0x10 +
    (← hexValue? d)

/-- What a one-letter escape stands for. -/
def shortEscape? : Char → Option Char
  | '"' => some '"'
  | '\\' => some '\\'
  | '/' => some '/'
  | 'b' => some '\x08'
  | 'f' => some '\x0c'
  | 'n' => some '\n'
  | 'r' => some '\r'
  | 't' => some '\t'
  | _ => none

/-- Less than the four bytes that a numeric escape needs. -/
def tooShort (cs : List Char) : Bool :=
  cs.foldl (fun n c => n + c.utf8Size) 0 < 4

/-- Scan from after the opening quote, with the characters taken so far in reverse. The rest of
the text is returned if the string is closed. -/
def scan (taken : List Char) : List Char → StringToken × Option (List Char)
  | [] => (⟨taken.reverse, some .truncated⟩, none)
  | '"' :: rest => (⟨taken.reverse, none⟩, some rest)
  | '\\' :: 'u' :: a :: b :: c :: d :: rest =>
    if (unit? a b c d).isSome then scan (d :: c :: b :: a :: 'u' :: '\\' :: taken) rest
    else (⟨taken.reverse, some .malformed⟩, none)
  | '\\' :: 'u' :: rest =>
    (⟨taken.reverse, some (if tooShort rest then .truncated else .malformed)⟩, none)
  | ['\\'] => (⟨taken.reverse, some .truncated⟩, none)
  | '\\' :: c :: rest =>
    if (shortEscape? c).isSome then scan (c :: '\\' :: taken) rest
    else (⟨taken.reverse, some .malformed⟩, none)
  | c :: rest =>
    if c.toNat < 0x20 then (⟨taken.reverse, some .malformed⟩, none) else scan (c :: taken) rest

/-- Resolve the escapes of a scanned body. Two numeric escapes may form a surrogate pair; half a
pair is a problem, which `ending` is if the text breaks off just there. -/
def resolve (ending : JsonFault) : List Char → Except JsonFault (List Char)
  | [] => .ok []
  | '\\' :: 'u' :: a :: b :: c :: d :: rest =>
    let first := (unit? a b c d).getD 0
    if first < 0xD800 ∨ 0xDFFF < first then (resolve ending rest).map (Char.ofNat first :: ·)
    else if 0xDC00 ≤ first then .error .malformed
    else match rest with
      | '\\' :: 'u' :: e :: f :: g :: h :: rest =>
        let second := (unit? e f g h).getD 0
        if 0xDC00 ≤ second ∧ second ≤ 0xDFFF then
          let point := 0x10000 + (first - 0xD800) * 0x400 + (second - 0xDC00)
          (resolve ending rest).map (Char.ofNat point :: ·)
        else .error .malformed
      | [] => .error ending
      | _ => .error .malformed
  | '\\' :: c :: rest => (resolve ending rest).map ((shortEscape? c).getD c :: ·)
  | c :: rest => (resolve ending rest).map (c :: ·)

/-- The text that the string stands for. -/
def read (token : StringToken) : Except JsonFault String :=
  match resolve (token.fault.getD .malformed) token.body, token.fault with
  | .error fault, _ => .error fault
  | .ok _, some fault => .error fault
  | .ok cs, none => .ok (String.ofList cs)

end StringToken

namespace NumberToken

/-! ## Numerals -/

/-- Digits must follow here; at the end of the text they are merely missing. -/
def missing (rest : List Char) : JsonFault :=
  if rest.isEmpty then .truncated else .malformed

/-- Scan the exponent, if there is one. -/
def scanExponent (token : NumberToken) (input : List Char) : NumberToken × Option (List Char) :=
  match input with
  | [] => (token, some [])
  | e :: rest =>
    if e ≠ 'e' ∧ e ≠ 'E' then (token, some input)
    else
      let (negative, rest) := match rest with
        | '-' :: rest => (true, rest)
        | '+' :: rest => (false, rest)
        | _ => (false, rest)
      let digits := rest.takeWhile Char.isDigit
      let rest := rest.dropWhile Char.isDigit
      if digits.isEmpty then ({ token with fault := some (missing rest) }, none)
      else
        ({ token with isFraction := true, exponentNegative := negative, exponent := digits },
          some rest)

/-- Scan from after the sign. -/
def scan (negative : Bool) (input : List Char) : NumberToken × Option (List Char) :=
  let whole := input.takeWhile Char.isDigit
  let rest := input.dropWhile Char.isDigit
  let token : NumberToken := { negative, whole }
  if whole.isEmpty then ({ token with fault := some (missing rest) }, none)
  else if whole.head? = some '0' && whole.length ≠ 1 then
    ({ token with fault := some .malformed }, none)
  else match rest with
    | '.' :: rest =>
      let digits := rest.takeWhile Char.isDigit
      let rest := rest.dropWhile Char.isDigit
      if digits.isEmpty then ({ token with fault := some (missing rest) }, none)
      else scanExponent { token with isFraction := true, fraction := digits } rest
    | _ => scanExponent token rest

end NumberToken

namespace JsonTree

/-! ## Values -/

def isSpace (c : Char) : Bool :=
  c == ' ' || c == '\n' || c == '\t' || c == '\r'

def skipSpace (cs : List Char) : List Char :=
  cs.dropWhile isSpace

/-- The rest of a word such as `null`, of which the first letter has been read. -/
def scanWord (value : JsonTree) : List Char → List Char → JsonTree × Option (List Char)
  | [], rest => (value, some rest)
  | _ :: _, [] => (broken .truncated, none)
  | c :: word, d :: rest => if c = d then scanWord value word rest else (broken .malformed, none)

mutual

/-- Scan one value. Without a rest the text is at fault somewhere in the value. -/
def scan : (fuel : Nat) → List Char → JsonTree × Option (List Char)
  | 0, _ => (broken .truncated, none)
  | fuel + 1, input =>
    match skipSpace input with
    | [] => (broken .truncated, none)
    | 'n' :: rest => scanWord null ['u', 'l', 'l'] rest
    | 't' :: rest => scanWord (bool true) ['r', 'u', 'e'] rest
    | 'f' :: rest => scanWord (bool false) ['a', 'l', 's', 'e'] rest
    | '"' :: rest =>
      let (token, rest) := StringToken.scan [] rest
      (string token, rest)
    | '-' :: rest =>
      let (token, rest) := NumberToken.scan true rest
      (number token, rest)
    | '[' :: rest =>
      match skipSpace rest with
      | [] => (array [] (some .truncated), none)
      | ']' :: rest => (array [] none, some rest)
      | _ => scanItems fuel [] rest
    | '\x7b' :: rest =>
      match skipSpace rest with
      | [] => (object [] (some .truncated), none)
      | '\x7d' :: rest => (object [] none, some rest)
      | '"' :: rest => scanMembers fuel [] rest
      | _ => (object [] (some .malformed), none)
    | c :: rest =>
      if c.isDigit then
        let (token, rest) := NumberToken.scan false (c :: rest)
        (number token, rest)
      else (broken .malformed, none)

/-- Scan the items of an array from the next one on. -/
def scanItems : (fuel : Nat) → (done : List JsonTree) → List Char → JsonTree × Option (List Char)
  | 0, done, _ => (array done.reverse (some .truncated), none)
  | fuel + 1, done, input =>
    match scan fuel input with
    | (item, none) => (array (item :: done).reverse none, none)
    | (item, some rest) =>
      match skipSpace rest with
      | [] => (array (item :: done).reverse (some .truncated), none)
      | ']' :: rest => (array (item :: done).reverse none, some rest)
      | ',' :: rest =>
        match skipSpace rest with
        | [] => (array (broken .truncated :: item :: done).reverse none, none)
        | ']' :: _ => (array (broken .malformed :: item :: done).reverse none, none)
        | _ => scanItems fuel (item :: done) rest
      | _ => (array (item :: done).reverse (some .malformed), none)

/-- Scan the members of an object from after the opening quote of the next key. -/
def scanMembers : (fuel : Nat) → (done : List (StringToken × JsonTree)) → List Char →
    JsonTree × Option (List Char)
  | 0, done, _ => (object done.reverse (some .truncated), none)
  | fuel + 1, done, input =>
    match StringToken.scan [] input with
    | (key, none) => (object ((key, null) :: done).reverse none, none)
    | (key, some rest) =>
      match skipSpace rest with
      | [] => (object ((key, broken .truncated) :: done).reverse none, none)
      | ':' :: rest =>
        match scan fuel rest with
        | (value, none) => (object ((key, value) :: done).reverse none, none)
        | (value, some rest) =>
          let done := (key, value) :: done
          match skipSpace rest with
          | [] => (object done.reverse (some .truncated), none)
          | '\x7d' :: rest => (object done.reverse none, some rest)
          | ',' :: rest =>
            match skipSpace rest with
            | [] => (object done.reverse (some .truncated), none)
            | '"' :: rest => scanMembers fuel done rest
            | _ => (object done.reverse (some .malformed), none)
          | _ => (object done.reverse (some .malformed), none)
      | _ => (object ((key, broken .malformed) :: done).reverse none, none)

end

/-! ## Checking what is not wanted -/

mutual

/-- The fault in the form of a value, if it has one. Nobody reads the value, so a numeral may be
out of range and a string may hold half a surrogate pair. -/
def formFault? : JsonTree → Option JsonFault
  | null => none
  | bool _ => none
  | number token => token.fault.map fun _ => .malformed
  | string token => token.fault
  | array items fault => (itemsFault? items).or fault
  | object members fault => (membersFault? members).or fault
  | broken fault => some fault

def itemsFault? : List JsonTree → Option JsonFault
  | [] => none
  | item :: items => (formFault? item).or (itemsFault? items)

def membersFault? : List (StringToken × JsonTree) → Option JsonFault
  | [] => none
  | (key, value) :: members => (key.fault.or (formFault? value)).or (membersFault? members)

end

/-- Pass over a value. -/
def skip (tree : JsonTree) : Except JsonFault Unit :=
  match tree.formFault? with
  | some fault => .error fault
  | none => .ok ()

/-! ## Reading whole values -/

mutual

/-- The value itself, everything in it checked. `depth` brackets may stand inside one another,
the outermost counted. -/
def value (depth : Nat) : JsonTree → Except JsonFault Json
  | null => .ok .null
  | bool b => .ok (.bool b)
  | number token => token.read.map JsonNumber.toJson
  | string token => token.read.map Json.string
  | array items fault =>
    if depth ≤ 1 then .error .malformed
    else match values (depth - 1) items, fault with
      | .error fault, _ => .error fault
      | .ok _, some fault => .error fault
      | .ok items, none => .ok (.array items)
  | object members fault =>
    if depth ≤ 1 then .error .malformed
    else match memberValues (depth - 1) members, fault with
      | .error fault, _ => .error fault
      | .ok _, some fault => .error fault
      | .ok members, none => .ok (.object members)
  | broken fault => .error fault

def values (depth : Nat) : List JsonTree → Except JsonFault (List Json)
  | [] => .ok []
  | item :: items =>
    match value depth item with
    | .error fault => .error fault
    | .ok item => (values depth items).map (item :: ·)

def memberValues (depth : Nat) : List (StringToken × JsonTree) →
    Except JsonFault (List (String × Json))
  | [] => .ok []
  | (key, tree) :: members =>
    match key.read with
    | .error fault => .error fault
    | .ok key =>
      match value depth tree with
      | .error fault => .error fault
      | .ok value => (memberValues depth members).map ((key, value) :: ·)

end

end JsonTree

/-- A whole text: its value and whether anything but blanks follows it. -/
structure JsonText where
  tree : JsonTree
  trailing : Bool

namespace JsonText

def scan (text : String) : JsonText :=
  let input := text.toList
  match JsonTree.scan (2 * input.length + 2) input with
  | (tree, none) => ⟨tree, false⟩
  | (tree, some rest) => ⟨tree, !(JsonTree.skipSpace rest).isEmpty⟩

/-- Brackets deeper than this are refused by whoever reads them. -/
def maxDepth : Nat := 128

/-- Read a text with a reader of trees; after the value nothing may follow. -/
def readWith {α : Type} (reader : JsonTree → Except JsonFault α) (text : String) :
    Except JsonFault α :=
  let scanned := scan text
  match reader scanned.tree with
  | .error fault => .error fault
  | .ok a => if scanned.trailing then .error .malformed else .ok a

end JsonText

/-- The value of a text. -/
def Json.read (text : String) : Except JsonFault Json :=
  JsonText.readWith (JsonTree.value JsonText.maxDepth) text

end Polyglot
