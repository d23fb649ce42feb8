import Polyglot.Number.Floating

/-!
# Directives

How numbers and texts are laid out on request: a width, a precision, flags and a conversion, as they
stand after a percent sign.
-/

namespace Polyglot

structure Directive where
  leftward : Bool := false
  zeros : Bool := false
  plus : Bool := false
  blank : Bool := false
  alternate : Bool := false
  /-- Digits are put into groups. -/
  grouped : Bool := false
  width : Nat := 0
  precision? : Option Nat := none
  conversion : Char
deriving DecidableEq, Repr

namespace Directive

/-- Take note of a flag. -/
def withFlag (d : Directive) : Char → Directive
  | '-' => { d with leftward := true }
  | '0' => { d with zeros := true }
  | '+' => { d with plus := true }
  | ' ' => { d with blank := true }
  | '#' => { d with alternate := true }
  | '\'' => { d with grouped := true }
  | _ => d

/-- A width, of which the sign tells the side. -/
def withWidth (d : Directive) (n : Int) : Directive :=
  if n < 0 then { d with leftward := true, width := n.natAbs } else { d with width := n.toNat }

def withPrecision (d : Directive) (n : Int) : Directive :=
  if n < 0 then { d with precision? := none } else { d with precision? := some n.toNat }

/-- Does a directive ask for more than one conversion can write? -/
def isTooLong (d : Directive) : Bool :=
  0x7fffffff < d.width || 0x7fffffff < d.precision?.getD 0

/-- Does a directive ask for more than anybody waits for? -/
def isVast (d : Directive) : Bool :=
  0x1000000 < d.width || 0x1000000 < d.precision?.getD 0

/-- Fill up to the width of a directive. -/
def fill (d : Directive) (zeros : Bool) (sign body : List Char) : List Char :=
  let missing := d.width - (sign.length + body.length)
  if d.leftward then sign ++ body ++ List.replicate missing ' '
  else if zeros then sign ++ List.replicate missing '0' ++ body
  else List.replicate missing ' ' ++ sign ++ body

/-- A text, of which the precision may leave the start. -/
def text (d : Directive) (cs : List Char) : List Char :=
  d.fill false [] (match d.precision? with
    | some n => cs.take n
    | none => cs)

def sign (d : Directive) (negative : Bool) : List Char :=
  if negative then ['-'] else if d.plus then ['+'] else if d.blank then [' '] else []

/-! ## Whole numbers -/

/-- At least as many digits as the precision asks for. -/
def digits (d : Directive) (base : Nat) (upper : Bool) (n : Nat) : List Char :=
  let digits := if n = 0 && d.precision? == some 0 then [] else Nat.toDigits base n
  let digits := if upper then digits.map Char.toUpper else digits
  List.replicate (d.precision?.getD 1 - digits.length) '0' ++ digits

def signed (d : Directive) (n : Int) : List Char :=
  d.fill (d.zeros && d.precision?.isNone) (d.sign (n < 0)) (d.digits 10 false n.natAbs)

/-- A number without a sign: octal, decimal or hexadecimal. -/
def unsigned (d : Directive) (n : Nat) : List Char :=
  let zeros := d.zeros && d.precision?.isNone
  match d.conversion with
  | 'o' =>
    let digits := d.digits 8 false n
    d.fill zeros [] (if d.alternate && digits.head? != some '0' then '0' :: digits else digits)
  | 'x' => d.fill zeros (if d.alternate && n != 0 then ['0', 'x'] else []) (d.digits 16 false n)
  | 'X' => d.fill zeros (if d.alternate && n != 0 then ['0', 'X'] else []) (d.digits 16 true n)
  | _ => d.fill zeros [] (d.digits 10 false n)

/-! ## Floating numbers -/

/-- Digits with a point before the last `places`. -/
def withPoint (d : Directive) (places n : Nat) : List Char :=
  let digits := Nat.toDigits 10 n
  let digits := List.replicate (places + 1 - digits.length) '0' ++ digits
  let whole := digits.take (digits.length - places)
  if places = 0 then (if d.alternate then whole ++ ['.'] else whole)
  else whole ++ '.' :: digits.drop (digits.length - places)

/-- A quotient rounded to some decimals, in units of the last. -/
def scaled (q : Rat) (places : Int) : Nat :=
  let s := q * Decimal.power places
  FloatFormat.halfEven s.num.toNat s.den

def fixed (d : Directive) (places : Nat) (q : Rat) : List Char :=
  d.withPoint places (scaled q places)

/-- The digits before and after the point, and the power of ten. -/
def scientificParts (places : Nat) (q : Rat) : Nat × Int :=
  if q = 0 then (0, 0)
  else
    let power := Decimal.log q
    let n := scaled q (places - power)
    if Nat.pow 10 (places + 1) ≤ n then (n / 10, power + 1) else (n, power)

def powerText (mark : Char) (atLeast : Nat) (power : Int) : List Char :=
  let digits := Nat.toDigits 10 power.natAbs
  mark :: (if power < 0 then '-' else '+') ::
    (List.replicate (atLeast - digits.length) '0' ++ digits)

/-- Drop zeros at the end of the decimals, and the point if nothing follows it. -/
def withoutFinalZeros (digits : List Char) : List Char :=
  if !digits.contains '.' then digits
  else
    let kept := digits.reverse.dropWhile (· == '0')
    (if kept.head? == some '.' then kept.tail else kept).reverse

def general (d : Directive) (mark : Char) (q : Rat) : List Char :=
  let significant := max 1 (d.precision?.getD 6)
  let (n, power) := scientificParts (significant - 1) q
  let trim (cs : List Char) := if d.alternate then cs else withoutFinalZeros cs
  if power < -4 || (significant : Int) ≤ power then
    trim (d.withPoint (significant - 1) n) ++ powerText mark 2 power
  else trim (d.fixed ((significant : Int) - 1 - power).toNat q)

/-- Hexadecimal digits, of which `lead` bits stand before the point. -/
def hexadecimal (d : Directive) (format : FloatFormat) (lead : Nat) (q : Rat) : List Char :=
  let places := (format.precision - lead + 3) / 4
  let power : Int := if q = 0 then 0 else FloatFormat.log q - (lead - 1)
  let exact := q * FloatFormat.power (4 * (places : Int) - power)
  let exact := exact.floor.toNat
  let kept := d.precision?.getD places
  let (n, shown) :=
    if kept < places then (FloatFormat.halfEven exact (Nat.pow 16 (places - kept)), kept)
    else (exact * Nat.pow 16 (kept - places), kept)
  let (n, power) := if Nat.pow 16 (shown + 1) ≤ n then (n / 16, power + 4) else (n, power)
  let digits := Nat.toDigits 16 n
  let digits := List.replicate (shown + 1 - digits.length) '0' ++ digits
  let whole := digits.take (digits.length - shown)
  let fraction := digits.drop (digits.length - shown)
  let fraction := if d.precision?.isSome then fraction
    else (fraction.reverse.dropWhile (· == '0')).reverse
  whole ++ (if fraction.isEmpty && !d.alternate then [] else '.' :: fraction) ++
    powerText 'p' 1 power

/-- The digits of a magnitude. -/
def magnitude (d : Directive) (format : FloatFormat) (q : Rat) : List Char :=
  let places := d.precision?.getD 6
  match d.conversion.toLower with
  | 'e' =>
    let (n, power) := scientificParts places q
    d.withPoint places n ++ powerText 'e' 2 power
  | 'g' => d.general 'e' q
  | 'a' => d.hexadecimal format (if format.precision = 64 then 4 else 1) q
  | _ => d.fixed places q

def floating (d : Directive) (format : FloatFormat) (x : Floating) : List Char :=
  let upper := d.conversion.isUpper
  let cased (cs : List Char) := if upper then cs.map Char.toUpper else cs
  let sign := d.sign x.isNegative
  match x with
  | .nan _ => d.fill false sign (cased "nan".toList)
  | .infinite _ => d.fill false sign (cased "inf".toList)
  | .finite _ q =>
    let isHex := d.conversion.toLower == 'a'
    d.fill d.zeros (sign ++ if isHex then cased ['0', 'x'] else [])
      (cased (d.magnitude format q))

end Directive

end Polyglot
