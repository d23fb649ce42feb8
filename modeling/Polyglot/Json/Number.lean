import Polyglot.Json.Basic

/-!
# JSON numerals

A numeral as it was written, and its value. Whole numbers that fit 64 bits are exact. Any other
numeral becomes a double: as many leading digits as fit 64 bits, times or over a power of ten,
with one rounding for each of the three.
-/

namespace Polyglot

/-- A numeral in its parts. `fault` is set when it breaks off; the parts are then of no use. -/
structure NumberToken where
  negative : Bool
  whole : List Char
  fraction : List Char := []
  /-- Whether there was a point or an exponent. -/
  isFraction : Bool := false
  exponentNegative : Bool := false
  exponent : List Char := []
  fault : Option JsonFault := none
deriving DecidableEq, Repr

/-- The value of a numeral. -/
inductive JsonNumber where
  /-- A whole number of at most 64 bits. -/
  | whole (n : Int)
  | double (negative : Bool) (magnitude : Rat)
deriving DecidableEq

namespace NumberToken

/-- Take digits while the value fits 64 bits; the rest of the digits is returned. -/
def accumulate (significand : Nat) : List Char → Nat × List Char
  | [] => (significand, [])
  | c :: rest =>
    let wider := 10 * significand + (c.toNat - 48)
    if wider < 0x10000000000000000 then accumulate wider rest else (significand, c :: rest)

/-- The nearest double to a power of ten. -/
def powerOfTen (n : Nat) : Rat :=
  (FloatFormat.double.round (Nat.pow 10 n : Rat)).getD 0

/-- A double times or over a power of ten; powers beyond 308 are divided out in steps. -/
def scale : (fuel : Nat) → Rat → Int → Except JsonFault Rat
  | 0, q, _ => .ok q
  | fuel + 1, q, exponent =>
    if exponent.natAbs ≤ 308 then
      let scaled := if 0 ≤ exponent then q * powerOfTen exponent.natAbs
        else q / powerOfTen exponent.natAbs
      match FloatFormat.double.round scaled with
      | some value => .ok value
      | none => .error .malformed
    else if q = 0 then .ok 0
    else if 0 ≤ exponent then .error .malformed
    else scale fuel ((FloatFormat.double.round (q / powerOfTen 308)).getD 0) (exponent + 308)

def digitsValue (cs : List Char) : Nat :=
  cs.foldl (fun n c => 10 * n + (c.toNat - 48)) 0

/-- The double that a numeral stands for, without its sign. -/
def magnitude (token : NumberToken) : Except JsonFault Rat :=
  let (whole, wholeRest) := accumulate 0 token.whole
  let (significand, fractionRest) := accumulate whole token.fraction
  let places : Int := (token.fraction.length : Int) - fractionRest.length
  let written := digitsValue token.exponent
  if written ≥ 0x80000000 then
    if significand ≠ 0 && !token.exponentNegative then .error .malformed else .ok 0
  else
    let exponent : Int := if token.exponentNegative then -(written : Int) else written
    scale 6 ((FloatFormat.double.round (significand : Rat)).getD 0)
      (wholeRest.length - places + exponent)

/-- The value of a numeral, if it has one. -/
def read (token : NumberToken) : Except JsonFault JsonNumber :=
  match token.fault with
  | some fault => .error fault
  | none =>
    let (whole, rest) := accumulate 0 token.whole
    if token.isFraction || !rest.isEmpty then
      token.magnitude.map (.double token.negative)
    else if !token.negative then .ok (.whole whole)
    else if whole = 0 || 0x8000000000000000 < whole then
      .ok (.double true ((FloatFormat.double.round (whole : Rat)).getD 0))
    else .ok (.whole (-(whole : Int)))

end NumberToken

namespace JsonNumber

def toSingle : JsonNumber → Single
  | whole n => .ofRat n
  | double negative magnitude => .nearest negative magnitude

def toJson : JsonNumber → Json
  | whole n => .integer n
  | double negative magnitude => .fraction negative magnitude

end JsonNumber

end Polyglot
