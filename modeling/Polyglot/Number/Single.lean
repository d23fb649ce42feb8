/-!
# Single precision numbers

A binary format is given by its precision and its range. `round` takes a non-negative rational to
the nearest value of the format, a tie to the one with the even mantissa, and fails where that would
leave the range. Values of a format are kept as the rationals that they are.

Signed numbers of the single format come with infinities and a value that is no number. A finite
number is its sign and its magnitude, with the proof that this is a value of the format; zero has
both signs.
-/

namespace Polyglot

/-! ## Formats -/

structure FloatFormat where
  /-- Significant bits. -/
  precision : Nat
  /-- The exponent of the smallest unit. -/
  least : Int
  /-- Finite values are below two to this power. -/
  top : Int

namespace FloatFormat

/-- 24 significant bits and units from 2⁻¹⁴⁹. -/
def single : FloatFormat := ⟨24, -149, 128⟩

/-- 53 significant bits and units from 2⁻¹⁰⁷⁴. -/
def double : FloatFormat := ⟨53, -1074, 1024⟩

/-- The quotient rounded to the nearest integer, a tie to the even one. -/
def halfEven (num den : Nat) : Nat :=
  let quotient := num / den
  let twice := 2 * (num % den)
  if twice < den then quotient
  else if den < twice then quotient + 1
  else quotient + quotient % 2

/-- Two to an integer power. -/
def power (exponent : Int) : Rat :=
  if 0 ≤ exponent then (Nat.pow 2 exponent.toNat : Rat)
  else 1 / (Nat.pow 2 (-exponent).toNat : Rat)

/-- The integer part of the binary logarithm of a positive rational. -/
def log (q : Rat) : Int :=
  let guess : Int := (q.num.toNat.log2 : Int) - q.den.log2
  if power guess ≤ q then guess else guess - 1

/-- The nearest value of the format; `none` is overflow. -/
def round (format : FloatFormat) (q : Rat) : Option Rat :=
  if q ≤ 0 then some 0
  else
    let unit := power (max format.least (log q - (format.precision - 1)))
    let scaled := q / unit
    let value := (halfEven scaled.num.toNat scaled.den : Rat) * unit
    if power format.top ≤ value then none else some value

/-- The rational is a value of the format: something is rounded to it. -/
def IsValue (format : FloatFormat) (value : Rat) : Prop :=
  ∃ q, format.round q = some value

theorem IsValue.of_fixed {format : FloatFormat} {value : Rat}
    (fixed : format.round value = some value) : format.IsValue value :=
  ⟨value, fixed⟩

end FloatFormat

/-! ## Single precision -/

inductive Single where
  | nan
  | infinite (negative : Bool)
  | finite (negative : Bool) (magnitude : Rat)
      (valid : FloatFormat.single.IsValue magnitude := by exact .of_fixed (by decide +kernel))
deriving DecidableEq

namespace Single

/-- The number nearest to a rational of the given sign and magnitude. -/
def nearest (negative : Bool) (magnitude : Rat) : Single :=
  match rounded : FloatFormat.single.round magnitude with
  | some value => finite negative value ⟨magnitude, rounded⟩
  | none => infinite negative

def ofRat (q : Rat) : Single :=
  if q < 0 then nearest true (-q) else nearest false q

def zero : Single := finite false 0

def one : Single := finite false 1

instance : Inhabited Single := ⟨zero⟩

/-- The value of a finite number. -/
def value? : Single → Option Rat
  | finite negative magnitude _ => some (if negative then -magnitude else magnitude)
  | _ => none

/-- An operation on rationals carried out on finite numbers and rounded. -/
def lift₂ (f : Rat → Rat → Rat) (a b : Single) : Single :=
  match a.value?, b.value? with
  | some x, some y => ofRat (f x y)
  | _, _ => nan

instance : Add Single := ⟨lift₂ (· + ·)⟩
instance : Sub Single := ⟨lift₂ (· - ·)⟩
instance : Mul Single := ⟨lift₂ (· * ·)⟩
instance : Div Single := ⟨lift₂ (· / ·)⟩

/-- Is the number finite and between the bounds, ends included? -/
def within (a : Single) (low high : Rat) : Bool :=
  match a.value? with
  | some x => low ≤ x && x ≤ high
  | none => false

/-- The smaller of a number and a finite bound; what is no number gives the bound. -/
def capped (bound : Rat) : Single → Single
  | nan => ofRat bound
  | infinite true => infinite true
  | infinite false => ofRat bound
  | finite negative magnitude valid =>
    if (if negative then -magnitude else magnitude) ≤ bound then finite negative magnitude valid
    else ofRat bound

/-- The integer part of a number that is not negative; anything else gives zero. -/
def truncated (a : Single) : Nat :=
  match a.value? with
  | some x => x.floor.toNat
  | none => 0

end Single

end Polyglot
