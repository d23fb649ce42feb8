/-!
# UTF-8

Characters as bytes and back. Decoding is a machine that eats one byte at a time and remembers
the character under way; what it emits is a list of pieces, a character for each well-formed
sequence and `none` for each maximal run of bytes that begins one without finishing it. The
lossy reading writes a replacement character for each `none`, the strict reading fails on one.

Where bytes need not be the encoding of anything they are kept as octets: a string of octets is a
text in which every character stands for the byte of its number.
-/

namespace Polyglot.Text.Utf8

/-! ## Encoding -/

/-- The bytes of one character: one for ASCII, up to four for the highest code points. -/
def encodeChar (c : Char) : List UInt8 :=
  let n := c.toNat
  if n < 0x80 then [UInt8.ofNat n]
  else if n < 0x800 then [UInt8.ofNat (0xC0 + n / 0x40), UInt8.ofNat (0x80 + n % 0x40)]
  else if n < 0x10000 then
    [UInt8.ofNat (0xE0 + n / 0x1000), UInt8.ofNat (0x80 + n / 0x40 % 0x40),
      UInt8.ofNat (0x80 + n % 0x40)]
  else
    [UInt8.ofNat (0xF0 + n / 0x40000), UInt8.ofNat (0x80 + n / 0x1000 % 0x40),
      UInt8.ofNat (0x80 + n / 0x40 % 0x40), UInt8.ofNat (0x80 + n % 0x40)]

def encode (cs : List Char) : List UInt8 :=
  cs.flatMap encodeChar

/-- The byte that ends a line. -/
def lineFeed : UInt8 := 10

/-! ## Decoding -/

/-- The part of a character read so far: the value of its bits, the bounds on the next byte, and
how many more follow that one. -/
structure Partial where
  value : Nat
  low : Nat
  high : Nat
  further : Nat
deriving DecidableEq, Repr

/-- Between characters, or inside one. -/
abbrev State := Option Partial

/-- What a byte outside ASCII begins, if it can begin a character. The bounds on the second byte
leave out overlong forms, surrogates and values above the last code point. -/
def lead? (b : Nat) : Option Partial :=
  if b < 0xC2 then none
  else if b < 0xE0 then some ⟨b - 0xC0, 0x80, 0xBF, 0⟩
  else if b < 0xF0 then
    some ⟨b - 0xE0, if b = 0xE0 then 0xA0 else 0x80, if b = 0xED then 0x9F else 0xBF, 1⟩
  else if b < 0xF5 then
    some ⟨b - 0xF0, if b = 0xF0 then 0x90 else 0x80, if b = 0xF4 then 0x8F else 0xBF, 2⟩
  else none

/-- A byte that no character under way can take. -/
def begin (b : Nat) : List (Option Char) × State :=
  if b < 0x80 then ([some (Char.ofNat b)], none)
  else match lead? b with
    | some p => ([], some p)
    | none => ([none], none)

/-- Feed one byte: the pieces that it completes, and the state after it. -/
def step (state : State) (byte : UInt8) : List (Option Char) × State :=
  let b := byte.toNat
  match state with
  | none => begin b
  | some p =>
    if p.low ≤ b && b ≤ p.high then
      let value := p.value * 0x40 + (b - 0x80)
      match p.further with
      | 0 => ([some (Char.ofNat value)], none)
      | further + 1 => ([], some ⟨value, 0x80, 0xBF, further⟩)
    else
      let (pieces, next) := begin b
      (none :: pieces, next)

/-- The pieces of a byte string from a given state on; a character cut off by the end counts as
malformed. -/
def piecesFrom : State → List UInt8 → List (Option Char)
  | none, [] => []
  | some _, [] => [none]
  | state, byte :: rest =>
    let (pieces, next) := step state byte
    pieces ++ piecesFrom next rest

def pieces (bytes : List UInt8) : List (Option Char) :=
  piecesFrom none bytes

/-- Malformed sequences become U+FFFD. -/
def decodeLossy (bytes : List UInt8) : List Char :=
  (pieces bytes).map (·.getD '\ufffd')

/-- The text, if every sequence is well formed. -/
def decode? (bytes : List UInt8) : Option (List Char) :=
  (pieces bytes).mapM id

end Polyglot.Text.Utf8

namespace Polyglot.Octets

def ofBytes (bytes : List UInt8) : String :=
  String.ofList (bytes.map fun byte => Char.ofNat byte.toNat)

def toBytes (octets : String) : List UInt8 :=
  octets.toList.map fun c => UInt8.ofNat c.toNat

/-- The octets of a text's encoding. -/
def ofText (text : String) : String :=
  ofBytes (Text.Utf8.encode text.toList)

end Polyglot.Octets
