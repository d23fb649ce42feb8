/-!
# Digests

Sums and digests of messages. The digests take a message block by block and stir a few words by the
octets of each; they differ in their words, in what they do with them, and in how often.
-/

/-!
## Messages in blocks

What digests of messages have in common: numbers as rows of octets, a message filled up to whole
blocks with its length at the end, and the hexadecimal text of a digest.
-/

namespace Polyglot.Digest

/-- The number that octets stand for, greatest first. -/
def number (octets : List UInt8) : Nat :=
  octets.foldl (fun n octet => 256 * n + octet.toNat) 0

/-- A number as so many octets, least first. -/
def littleOctets : (count : Nat) → Nat → List UInt8
  | 0, _ => []
  | count + 1, n => UInt8.ofNat n :: littleOctets count (n / 256)

/-- A number as so many octets, greatest first. -/
def bigOctets (count n : Nat) : List UInt8 :=
  (littleOctets count n).reverse

/-- Pieces of one size, of which the last may be shorter. -/
def pieces (size : Nat) : (fuel : Nat) → List UInt8 → List (List UInt8)
  | 0, _ => []
  | _, [] => []
  | fuel + 1, octets => octets.take size :: pieces size fuel (octets.drop size)

def blocks (size : Nat) (octets : List UInt8) : List (List UInt8) :=
  pieces size octets.length octets

/-- A message with one bit after it and zeros up to where its length in bits completes a block. -/
def padded (size : Nat) (message length : List UInt8) : List UInt8 :=
  let taken := (message.length + 1 + length.length) % size
  message ++ 0x80 :: List.replicate ((size - taken) % size) 0 ++ length

/-- Two hexadecimal digits for each octet. -/
def hexadecimal (octets : List UInt8) : String :=
  let digit (n : Nat) : Char := Char.ofNat (if n < 10 then 48 + n else 87 + n)
  String.ofList (octets.flatMap fun octet => [digit (octet.toNat / 16), digit (octet.toNat % 16)])

/-- Turn a word to the left. -/
def turnLeft (count : UInt32) (word : UInt32) : UInt32 :=
  (word <<< count) ||| (word >>> (32 - count))

def ofBig (octets : List UInt8) : UInt32 :=
  UInt32.ofNat (number octets)

def ofLittle (octets : List UInt8) : UInt32 :=
  UInt32.ofNat (number octets.reverse)

end Polyglot.Digest

/-!
## Sums over messages

Numbers of 16 and 32 bits that tell most changed messages from the message itself.
-/

namespace Polyglot.Digest

/-- Take up eight bits into the remainder of a division by a polynomial of degree 32. -/
def divideOctet (remainder : UInt32) (octet : UInt8) : UInt32 :=
  (List.range 8).foldl
    (fun r _ => if r &&& 0x80000000 != 0 then (r <<< 1) ^^^ 0x04c11db7 else r <<< 1)
    (remainder ^^^ (octet.toUInt32 <<< 24))

/-- The octets of a number without leading zeros, least first. -/
def lengthOctets (n : Nat) : List UInt8 :=
  let octets := bigOctets 16 n
  (octets.dropWhile (· == 0)).reverse

/-- The cyclic sum of a message and its length. -/
def cyclicSum (message : List UInt8) : UInt32 :=
  ~~~ (message ++ lengthOctets message.length).foldl divideOctet 0

/-- A sum of 16 bits that is turned right before each octet is added. -/
def turningSum (message : List UInt8) : Nat :=
  message.foldl
    (fun sum octet => (sum / 2 + (if sum % 2 = 1 then 0x8000 else 0) + octet.toNat) % 0x10000) 0

/-- The sum of all octets with what goes beyond 16 bits added again. -/
def foldedSum (message : List UInt8) : Nat :=
  let sum := (message.foldl (fun sum octet => sum + octet.toNat) 0) % 0x100000000
  let once := sum % 0x10000 + sum / 0x10000
  once % 0x10000 + once / 0x10000

end Polyglot.Digest

/-!
## A digest of 128 bits

Four words are stirred by the sixteen words of each block in sixty-four steps of four kinds.
-/

namespace Polyglot.Digest.Md5

/-- Sixty-four words that have no pattern: parts of the sines of 1, 2, and so on. -/
def sines : Array UInt32 := #[
  0xd76aa478, 0xe8c7b756, 0x242070db, 0xc1bdceee, 0xf57c0faf, 0x4787c62a,
  0xa8304613, 0xfd469501, 0x698098d8, 0x8b44f7af, 0xffff5bb1, 0x895cd7be,
  0x6b901122, 0xfd987193, 0xa679438e, 0x49b40821, 0xf61e2562, 0xc040b340,
  0x265e5a51, 0xe9b6c7aa, 0xd62f105d, 0x02441453, 0xd8a1e681, 0xe7d3fbc8,
  0x21e1cde6, 0xc33707d6, 0xf4d50d87, 0x455a14ed, 0xa9e3e905, 0xfcefa3f8,
  0x676f02d9, 0x8d2a4c8a, 0xfffa3942, 0x8771f681, 0x6d9d6122, 0xfde5380c,
  0xa4beea44, 0x4bdecfa9, 0xf6bb4b60, 0xbebfbc70, 0x289b7ec6, 0xeaa127fa,
  0xd4ef3085, 0x04881d05, 0xd9d4d039, 0xe6db99e5, 0x1fa27cf8, 0xc4ac5665,
  0xf4292244, 0x432aff97, 0xab9423a7, 0xfc93a039, 0x655b59c3, 0x8f0ccc92,
  0xffeff47d, 0x85845dd1, 0x6fa87e4f, 0xfe2ce6e0, 0xa3014314, 0x4e0811a1,
  0xf7537e82, 0xbd3af235, 0x2ad7d2bb, 0xeb86d391]

/-- How far words are turned; the four kinds of steps have four amounts each. -/
def turns : Array UInt32 := #[7, 12, 17, 22, 5, 9, 14, 20, 4, 11, 16, 23, 6, 10, 15, 21]

structure State where
  a : UInt32 := 0x67452301
  b : UInt32 := 0xefcdab89
  c : UInt32 := 0x98badcfe
  d : UInt32 := 0x10325476

def State.add (s t : State) : State where
  a := s.a + t.a
  b := s.b + t.b
  c := s.c + t.c
  d := s.d + t.d

/-- How a step mixes three words, and which word of the block it takes. -/
def State.mix (s : State) (i : Nat) : UInt32 × Nat :=
  match i / 16 with
  | 0 => ((s.b &&& s.c) ||| (~~~s.b &&& s.d), i)
  | 1 => ((s.d &&& s.b) ||| (~~~s.d &&& s.c), (5 * i + 1) % 16)
  | 2 => (s.b ^^^ s.c ^^^ s.d, (3 * i + 5) % 16)
  | _ => (s.c ^^^ (s.b ||| ~~~s.d), (7 * i) % 16)

def State.step (words : Array UInt32) (s : State) (i : Nat) : State :=
  let (mixed, place) := s.mix i
  let sum := s.a + mixed + sines.getD i 0 + words.getD place 0
  { a := s.d
    b := s.b + turnLeft (turns.getD (4 * (i / 16) + i % 4) 0) sum
    c := s.b
    d := s.c }

def State.absorb (s : State) (block : List UInt8) : State :=
  let words := ((blocks 4 block).map ofLittle).toArray
  s.add ((List.range 64).foldl (State.step words) s)

/-- The digest of a message. -/
def digest (message : List UInt8) : List UInt8 :=
  let length := littleOctets 8 (8 * message.length)
  let s := (blocks 64 (padded 64 message length)).foldl State.absorb ({} : State)
  [s.a, s.b, s.c, s.d].flatMap fun word => littleOctets 4 word.toNat

end Polyglot.Digest.Md5

/-!
## A digest of 160 bits

Five words are stirred by eighty words that grow out of the sixteen words of each block.
-/

namespace Polyglot.Digest.Sha1

structure State where
  a : UInt32 := 0x67452301
  b : UInt32 := 0xefcdab89
  c : UInt32 := 0x98badcfe
  d : UInt32 := 0x10325476
  e : UInt32 := 0xc3d2e1f0

def State.add (s t : State) : State where
  a := s.a + t.a
  b := s.b + t.b
  c := s.c + t.c
  d := s.d + t.d
  e := s.e + t.e

/-- The eighty words of a block. -/
def schedule (block : List UInt8) : Array UInt32 :=
  (List.range 64).foldl
    (fun words i =>
      let word (k : Nat) := words.getD (i + k) 0
      words.push (turnLeft 1 (word 13 ^^^ word 8 ^^^ word 2 ^^^ word 0)))
    ((blocks 4 block).map ofBig).toArray

/-- How a step mixes three words, and the word that it adds. -/
def State.mix (s : State) (i : Nat) : UInt32 × UInt32 :=
  match i / 20 with
  | 0 => ((s.b &&& s.c) ||| (~~~s.b &&& s.d), 0x5a827999)
  | 1 => (s.b ^^^ s.c ^^^ s.d, 0x6ed9eba1)
  | 2 => ((s.b &&& s.c) ||| (s.b &&& s.d) ||| (s.c &&& s.d), 0x8f1bbcdc)
  | _ => (s.b ^^^ s.c ^^^ s.d, 0xca62c1d6)

def State.step (words : Array UInt32) (s : State) (i : Nat) : State :=
  let (mixed, constant) := s.mix i
  { a := turnLeft 5 s.a + mixed + s.e + constant + words.getD i 0
    b := s.a
    c := turnLeft 30 s.b
    d := s.c
    e := s.d }

def State.absorb (s : State) (block : List UInt8) : State :=
  s.add ((List.range 80).foldl (State.step (schedule block)) s)

/-- The digest of a message. -/
def digest (message : List UInt8) : List UInt8 :=
  let length := bigOctets 8 (8 * message.length)
  let s := (blocks 64 (padded 64 message length)).foldl State.absorb ({} : State)
  [s.a, s.b, s.c, s.d, s.e].flatMap fun word => bigOctets 4 word.toNat

end Polyglot.Digest.Sha1

/-!
## Digests of 224 to 512 bits

Eight words are stirred by words that grow out of the sixteen words of each block. Words have 32
or 64 bits; all else that differs is how many steps there are and how far words are turned. The
words to start with and to add are bits of roots of the first primes.
-/

namespace Polyglot.Digest.Sha2

/-- The first eighty primes. -/
def primes : List Nat :=
  (List.range 410).filter fun n => 2 ≤ n && (List.range n).all fun d => d < 2 || n % d != 0

/-- The root of a number, rounded down, if it has so many bits at most. -/
def root (degree bits n : Nat) : Nat :=
  (List.range bits).reverse.foldl
    (fun r i =>
      let next := r + Nat.pow 2 i
      if Nat.pow next degree ≤ n then next else r)
    0

/-- The first bits of a prime's root after the point. -/
def rootBits (degree bits prime : Nat) : Nat :=
  root degree (bits + 5) (prime * Nat.pow 2 (degree * bits)) % Nat.pow 2 bits

/-- How words of some width are stirred. Of three amounts in a row the words are turned by each;
of a pair with a third the word is turned by two and shifted by the last. -/
structure Family (w : Nat) where
  steps : Nat
  majorA : Nat × Nat × Nat
  majorE : Nat × Nat × Nat
  minorEarly : Nat × Nat × Nat
  minorLate : Nat × Nat × Nat

def narrow : Family 32 where
  steps := 64
  majorA := (2, 13, 22)
  majorE := (6, 11, 25)
  minorEarly := (7, 18, 3)
  minorLate := (17, 19, 10)

def wide : Family 64 where
  steps := 80
  majorA := (28, 34, 39)
  majorE := (14, 18, 41)
  minorEarly := (1, 8, 7)
  minorLate := (19, 61, 6)

variable {w : Nat}

def turned (amounts : Nat × Nat × Nat) (word : BitVec w) : BitVec w :=
  word.rotateRight amounts.1 ^^^ word.rotateRight amounts.2.1 ^^^ word.rotateRight amounts.2.2

def shifted (amounts : Nat × Nat × Nat) (word : BitVec w) : BitVec w :=
  word.rotateRight amounts.1 ^^^ word.rotateRight amounts.2.1 ^^^ word >>> amounts.2.2

structure State (w : Nat) where
  a : BitVec w
  b : BitVec w
  c : BitVec w
  d : BitVec w
  e : BitVec w
  f : BitVec w
  g : BitVec w
  h : BitVec w

namespace State

def ofList (words : List (BitVec w)) : State w where
  a := words.getD 0 0
  b := words.getD 1 0
  c := words.getD 2 0
  d := words.getD 3 0
  e := words.getD 4 0
  f := words.getD 5 0
  g := words.getD 6 0
  h := words.getD 7 0

def toList (s : State w) : List (BitVec w) :=
  [s.a, s.b, s.c, s.d, s.e, s.f, s.g, s.h]

def add (s t : State w) : State w :=
  ofList (List.zipWith (· + ·) s.toList t.toList)

/-- One step, with a word of the block and a constant added up. -/
def step (family : Family w) (s : State w) (word : BitVec w) : State w :=
  let chosen := (s.e &&& s.f) ^^^ (~~~s.e &&& s.g)
  let most := (s.a &&& s.b) ^^^ (s.a &&& s.c) ^^^ (s.b &&& s.c)
  let first := s.h + turned family.majorE s.e + chosen + word
  { a := first + turned family.majorA s.a + most
    b := s.a
    c := s.b
    d := s.c
    e := s.d + first
    f := s.e
    g := s.f
    h := s.g }

end State

/-- The words of a block. -/
def schedule (family : Family w) (block : List UInt8) : Array (BitVec w) :=
  (List.range (family.steps - 16)).foldl
    (fun words i =>
      let word (k : Nat) := words.getD (i + k) 0
      words.push (word 0 + shifted family.minorEarly (word 1) + word 9 +
        shifted family.minorLate (word 14)))
    ((blocks (w / 8) block).map fun octets => BitVec.ofNat w (number octets)).toArray

def absorb (family : Family w) (constants : List (BitVec w)) (s : State w)
    (block : List UInt8) : State w :=
  let words := List.zipWith (· + ·) (schedule family block).toList constants
  s.add (words.foldl (State.step family) s)

/-- The first words of the digest of a message. -/
def digest (family : Family w) (start : List (BitVec w)) (octets : Nat) (message : List UInt8) :
    List UInt8 :=
  let constants := (primes.take family.steps).map fun p => BitVec.ofNat w (rootBits 3 w p)
  let length := bigOctets (w / 4) (8 * message.length)
  let s := (blocks (2 * w) (padded (2 * w) message length)).foldl (absorb family constants)
    (State.ofList start)
  (s.toList.flatMap fun word => bigOctets (w / 8) word.toNat).take octets

/-- Bits of square roots of eight primes, after some others. -/
def squareRoots (w skipped : Nat) : List (BitVec w) :=
  ((primes.drop skipped).take 8).map fun p => BitVec.ofNat w (rootBits 2 w p)

/-- Later bits of the same roots. -/
def laterRoots : List (BitVec 32) :=
  ((primes.drop 8).take 8).map fun p => BitVec.ofNat 32 (rootBits 2 64 p)

def digest224 : List UInt8 → List UInt8 := digest narrow laterRoots 28
def digest256 : List UInt8 → List UInt8 := digest narrow (squareRoots 32 0) 32
def digest384 : List UInt8 → List UInt8 := digest wide (squareRoots 64 8) 48
def digest512 : List UInt8 → List UInt8 := digest wide (squareRoots 64 0) 64

end Polyglot.Digest.Sha2

/-!
## Another digest of 256 bits

Eight words are stirred by sixty-eight words that grow out of the sixteen words of each block.
-/

namespace Polyglot.Digest.Sm3

def spread (word : UInt32) : UInt32 :=
  word ^^^ turnLeft 9 word ^^^ turnLeft 17 word

def spreadWide (word : UInt32) : UInt32 :=
  word ^^^ turnLeft 15 word ^^^ turnLeft 23 word

structure State where
  a : UInt32 := 0x7380166f
  b : UInt32 := 0x4914b2b9
  c : UInt32 := 0x172442d7
  d : UInt32 := 0xda8a0600
  e : UInt32 := 0xa96f30bc
  f : UInt32 := 0x163138aa
  g : UInt32 := 0xe38dee4d
  h : UInt32 := 0xb0fb0e4e

def State.blend (s t : State) : State where
  a := s.a ^^^ t.a
  b := s.b ^^^ t.b
  c := s.c ^^^ t.c
  d := s.d ^^^ t.d
  e := s.e ^^^ t.e
  f := s.f ^^^ t.f
  g := s.g ^^^ t.g
  h := s.h ^^^ t.h

def schedule (block : List UInt8) : Array UInt32 :=
  (List.range 52).foldl
    (fun words i =>
      let word (k : Nat) := words.getD (i + k) 0
      words.push (spreadWide (word 0 ^^^ word 7 ^^^ turnLeft 15 (word 13)) ^^^
        turnLeft 7 (word 3) ^^^ word 10))
    ((blocks 4 block).map ofBig).toArray

/-- Turn by any amount. -/
def turnBy (count : Nat) (word : UInt32) : UInt32 :=
  if count % 32 = 0 then word else turnLeft (UInt32.ofNat (count % 32)) word

def State.step (words : Array UInt32) (s : State) (i : Nat) : State :=
  let constant : UInt32 := if i < 16 then 0x79cc4519 else 0x7a879d8a
  let first := turnLeft 7 (turnLeft 12 s.a + s.e + turnBy i constant)
  let second := first ^^^ turnLeft 12 s.a
  let mixedA := if i < 16 then s.a ^^^ s.b ^^^ s.c
    else (s.a &&& s.b) ||| (s.a &&& s.c) ||| (s.b &&& s.c)
  let mixedE := if i < 16 then s.e ^^^ s.f ^^^ s.g else (s.e &&& s.f) ||| (~~~s.e &&& s.g)
  let sumA := mixedA + s.d + second + (words.getD i 0 ^^^ words.getD (i + 4) 0)
  let sumE := mixedE + s.h + first + words.getD i 0
  { a := sumA
    b := s.a
    c := turnLeft 9 s.b
    d := s.c
    e := spread sumE
    f := s.e
    g := turnLeft 19 s.f
    h := s.g }

def State.absorb (s : State) (block : List UInt8) : State :=
  s.blend ((List.range 64).foldl (State.step (schedule block)) s)

/-- The digest of a message. -/
def digest (message : List UInt8) : List UInt8 :=
  let length := bigOctets 8 (8 * message.length)
  let s := (blocks 64 (padded 64 message length)).foldl State.absorb ({} : State)
  [s.a, s.b, s.c, s.d, s.e, s.f, s.g, s.h].flatMap fun word => bigOctets 4 word.toNat

end Polyglot.Digest.Sm3

/-!
## A digest of up to 512 bits

Sixteen words are stirred in twelve rounds of eight steps. A step mixes four of the words with two
words of the block; every round takes the words of the block in another order.
-/

namespace Polyglot.Digest.Blake2

/-- The orders in which rounds take the words of a block. -/
def orders : Array (Array Nat) := #[
  #[0, 1, 2, 3, 4, 5, 6, 7, 8, 9, 10, 11, 12, 13, 14, 15],
  #[14, 10, 4, 8, 9, 15, 13, 6, 1, 12, 0, 2, 11, 7, 5, 3],
  #[11, 8, 12, 0, 5, 2, 15, 13, 10, 14, 3, 6, 7, 1, 9, 4],
  #[7, 9, 3, 1, 13, 12, 11, 14, 2, 6, 5, 10, 4, 0, 15, 8],
  #[9, 0, 5, 7, 2, 4, 10, 15, 14, 1, 11, 12, 6, 8, 3, 13],
  #[2, 12, 6, 10, 0, 11, 8, 3, 4, 13, 7, 5, 15, 14, 1, 9],
  #[12, 5, 1, 15, 14, 13, 4, 10, 0, 7, 6, 3, 9, 2, 8, 11],
  #[13, 11, 7, 14, 12, 1, 3, 9, 5, 0, 15, 4, 8, 6, 2, 10],
  #[6, 15, 14, 9, 11, 3, 0, 8, 12, 2, 13, 7, 1, 4, 10, 5],
  #[10, 2, 8, 4, 7, 6, 1, 5, 15, 11, 9, 14, 3, 12, 13, 0]]

/-- The four words that each of the eight steps of a round mixes. -/
def places : List (Nat × Nat × Nat × Nat) := [
  (0, 4, 8, 12), (1, 5, 9, 13), (2, 6, 10, 14), (3, 7, 11, 15),
  (0, 5, 10, 15), (1, 6, 11, 12), (2, 7, 8, 13), (3, 4, 9, 14)]

abbrev Words := Array (BitVec 64)

def start : List (BitVec 64) := Sha2.squareRoots 64 0

/-- One step, with two words of the block. -/
def step (v : Words) (place : Nat × Nat × Nat × Nat) (x y : BitVec 64) : Words :=
  let (i, j, k, l) := place
  let a := v.getD i 0 + v.getD j 0 + x
  let d := (v.getD l 0 ^^^ a).rotateRight 32
  let c := v.getD k 0 + d
  let b := (v.getD j 0 ^^^ c).rotateRight 24
  let a := a + b + y
  let d := (d ^^^ a).rotateRight 16
  let c := c + d
  let b := (b ^^^ c).rotateRight 63
  (((v.setIfInBounds i a).setIfInBounds j b).setIfInBounds k c).setIfInBounds l d

def round (words : Words) (v : Words) (n : Nat) : Words :=
  let order := orders.getD (n % 10) #[]
  let word (i : Nat) := words.getD (order.getD i 0) 0
  (places.zipIdx).foldl (fun v (place, i) => step v place (word (2 * i)) (word (2 * i + 1))) v

/-- Take up a block, given how many octets have come with it, and whether it is the last. -/
def absorb (h : List (BitVec 64)) (block : List UInt8) (count : Nat) (isLast : Bool) :
    List (BitVec 64) :=
  let words := ((blocks 8 block).map fun octets =>
    BitVec.ofNat 64 (number octets.reverse)).toArray
  let counted := BitVec.ofNat 64 count
  let mixedStart := start.zipIdx.map fun (word, i) =>
    if i = 4 then word ^^^ counted else if i = 6 && isLast then ~~~word else word
  let v := (List.range 12).foldl (round words) (h ++ mixedStart).toArray
  h.zipIdx.map fun (word, i) => word ^^^ v.getD i 0 ^^^ v.getD (i + 8) 0

def absorbAll (h : List (BitVec 64)) (count : Nat) : List (List UInt8) → List (BitVec 64)
  | [] => h
  | [block] =>
    absorb h (block ++ List.replicate (128 - block.length) 0) (count + block.length) true
  | block :: rest => absorbAll (absorb h block (count + 128) false) (count + 128) rest

/-- The digest of a message in so many octets. -/
def digest (octets : Nat) (message : List UInt8) : List UInt8 :=
  let h := start.zipIdx.map fun (word, i) =>
    if i = 0 then word ^^^ BitVec.ofNat 64 (0x01010000 + octets) else word
  let blocks := if message.isEmpty then [[]] else blocks 128 message
  ((absorbAll h 0 blocks).flatMap fun word => littleOctets 8 word.toNat).take octets

end Polyglot.Digest.Blake2
