import Polyglot.Number.Single

/-!
# Decimal notation of single precision numbers

Writing takes the fewest digits that read back as the same number, and among those the nearest
to it. A `DecimalStyle` says which of two equally near ones is taken and how digits and exponent
are laid out. Reading rounds the exact value of a numeral.
-/

namespace Polyglot

/-- The number `digits * 10 ^ exponent`. -/
structure Decimal where
  digits : Nat
  exponent : Int
deriving DecidableEq, Repr

namespace Decimal

/-- Ten to an integer power. -/
def power (exponent : Int) : Rat :=
  if 0 ≤ exponent then (Nat.pow 10 exponent.toNat : Rat)
  else 1 / (Nat.pow 10 (-exponent).toNat : Rat)

def value (d : Decimal) : Rat :=
  d.digits * power d.exponent

/-- Drop zeros from the end of the digits. -/
def strip : (fuel : Nat) → Decimal → Decimal
  | 0, d => d
  | fuel + 1, d =>
    if d.digits ≠ 0 ∧ d.digits % 10 = 0 then strip fuel ⟨d.digits / 10, d.exponent + 1⟩ else d

/-- The written digits, without leading zeros. -/
def text (d : Decimal) : List Char :=
  Nat.toDigits 10 d.digits

/-- The integer part of the decimal logarithm of a positive rational. -/
def log (q : Rat) : Int :=
  let whole := q.num.toNat / q.den
  if whole ≠ 0 then (Nat.toDigits 10 whole).length - 1
  else
    -- the digits of the reciprocal, rounded up, say how many places the first digit is behind
    let reciprocal := (q.den + q.num.toNat - 1) / q.num.toNat
    Int.neg (Nat.toDigits 10 (reciprocal - 1)).length

/-- Which of two equally near numerals is taken. -/
inductive Tie where
  /-- The one whose last digit is even. -/
  | toEven
  /-- The larger one. -/
  | up
deriving DecidableEq, Repr

/-- Is the lower of two equally near numerals taken? -/
def Tie.isDown (tie : Tie) (below : Nat) : Bool :=
  match tie with
  | toEven => below % 2 == 0
  | up => false

/-- The two neighbours of `q` with `count` digits, the nearer one first. -/
def neighbours (tie : Tie) (q : Rat) (count : Nat) : List Decimal :=
  let exponent := log q - (count - 1)
  let scaled := q / power exponent
  let below := scaled.floor.toNat
  let pair := [⟨below, exponent⟩, ⟨below + 1, exponent⟩]
  let gap := scaled - below
  if 2 * gap < 1 ∨ 2 * gap = 1 ∧ tie.isDown below then pair else pair.reverse

/-- The fewest digits, from `count` on, that `format` reads back as `q`. -/
def shortestFrom (format : FloatFormat) (tie : Tie) (q : Rat) : (fuel count : Nat) → Decimal
  | 0, count => (neighbours tie q count).headD ⟨0, 0⟩
  | fuel + 1, count =>
    match (neighbours tie q count).find? fun d => format.round d.value = some q with
    | some d => strip count d
    | none => shortestFrom format tie q fuel (count + 1)

/-- The shortest numeral of a value of the single format. Nine digits always suffice. -/
def shortest (tie : Tie) (q : Rat) : Decimal :=
  if q ≤ 0 then ⟨0, 0⟩ else shortestFrom .single tie q 8 1

end Decimal

/-! ## Layout -/

/-- How a numeral is laid out. -/
structure DecimalStyle where
  tie : Decimal.Tie
  /-- Numbers are written positionally if the exponent of their first digit is in these bounds. -/
  positional : Int → Bool
  /-- What follows the digits of a whole number. -/
  wholeMark : List Char
  /-- What stands before an exponent that is not negative. -/
  exponentMark : List Char
  nan : String
  infinity : String
  negativeInfinity : String

namespace DecimalStyle

/-- Always positional; whole numbers without a point. -/
def plain : DecimalStyle where
  tie := .up
  positional _ := true
  wholeMark := []
  exponentMark := []
  nan := "NaN"
  infinity := "inf"
  negativeInfinity := "-inf"

/-- As numbers stand in JSON: a point or an exponent is always there, exponents begin outside
10⁻⁶ to 10¹², and what is not finite is null. -/
def json : DecimalStyle where
  tie := .toEven
  positional exponent := -6 ≤ exponent && exponent ≤ 12
  wholeMark := ['.', '0']
  exponentMark := ['+']
  nan := "null"
  infinity := "null"
  negativeInfinity := "null"

/-- For inspection: a point or an exponent is always there, exponents begin outside 10⁻⁴ to
10¹⁵. -/
def inspect : DecimalStyle where
  tie := .up
  positional exponent := -4 ≤ exponent && exponent ≤ 15
  wholeMark := ['.', '0']
  exponentMark := []
  nan := "NaN"
  infinity := "inf"
  negativeInfinity := "-inf"

end DecimalStyle

namespace Decimal

/-- Digits with the point where it belongs. -/
def positional (style : DecimalStyle) (d : Decimal) : List Char :=
  let digits := d.text
  if 0 ≤ d.exponent then digits ++ List.replicate d.exponent.toNat '0' ++ style.wholeMark
  else
    let places := (-d.exponent).toNat
    if digits.length ≤ places then
      ['0', '.'] ++ List.replicate (places - digits.length) '0' ++ digits
    else
      digits.take (digits.length - places) ++ ['.'] ++ digits.drop (digits.length - places)

/-- One digit before the point, and an exponent. -/
def scientific (style : DecimalStyle) (d : Decimal) : List Char :=
  let digits := d.text
  let exponent := d.exponent + digits.length - 1
  let mantissa := match digits with
    | [] => []
    | [first] => [first]
    | first :: rest => first :: '.' :: rest
  let sign := if exponent < 0 then ['-'] else style.exponentMark
  mantissa ++ 'e' :: sign ++ Nat.toDigits 10 exponent.natAbs

def layOut (style : DecimalStyle) (d : Decimal) : List Char :=
  if style.positional (d.exponent + d.text.length - 1) then d.positional style
  else d.scientific style

end Decimal

namespace DecimalStyle

/-- A finite number of the given sign and magnitude. -/
def writeFinite (style : DecimalStyle) (negative : Bool) (magnitude : Rat) : List Char :=
  (if negative then ['-'] else []) ++ (Decimal.shortest style.tie magnitude).layOut style

def write (style : DecimalStyle) : Single → String
  | .nan => style.nan
  | .infinite false => style.infinity
  | .infinite true => style.negativeInfinity
  | .finite negative magnitude _ => String.ofList (style.writeFinite negative magnitude)

end DecimalStyle

/-! ## Reading -/

namespace Decimal

def digitsValue (cs : List Char) : Nat :=
  cs.foldl (fun n c => 10 * n + (c.toNat - 48)) 0

/-- An exponent: the letter, a sign if there is one, and digits. No exponent at all is zero. -/
def readExponent? : List Char → Option Int
  | [] => some 0
  | e :: rest =>
    if e ≠ 'e' ∧ e ≠ 'E' then none
    else
      let (negative, digits) := match rest with
        | '-' :: digits => (true, digits)
        | '+' :: digits => (false, digits)
        | _ => (false, rest)
      if digits.isEmpty || !digits.all Char.isDigit then none
      else
        let n : Int := digitsValue digits
        some (if negative then -n else n)

/-- An unsigned numeral: digits, a point among or beside them, an exponent. -/
def read? (cs : List Char) : Option Decimal :=
  let whole := cs.takeWhile Char.isDigit
  let rest := cs.dropWhile Char.isDigit
  let (fraction, rest) := match rest with
    | '.' :: more => (more.takeWhile Char.isDigit, more.dropWhile Char.isDigit)
    | _ => ([], rest)
  if whole.isEmpty && fraction.isEmpty then none
  else (readExponent? rest).map fun exponent =>
    ⟨digitsValue (whole ++ fraction), exponent - fraction.length⟩

/-- The number nearest to a signed numeral. Exponents that put it far outside the format are
settled without computing the power. -/
def toSingle (negative : Bool) (d : Decimal) : Single :=
  let first := d.exponent + d.text.length
  if d.digits = 0 || first < -60 then .nearest negative 0
  else if 60 < first then .infinite negative
  else .nearest negative d.value

end Decimal

/-- A numeral with a sign if there is one, or the name of a value that is not finite. -/
def Single.read? (s : String) : Option Single :=
  let (negative, rest) := match s.toList with
    | '-' :: rest => (true, rest)
    | '+' :: rest => (false, rest)
    | rest => (false, rest)
  match String.ofList (rest.map Char.toLower) with
  | "nan" => some .nan
  | "inf" => some (.infinite negative)
  | "infinity" => some (.infinite negative)
  | _ => (Decimal.read? rest).map (·.toSingle negative)

end Polyglot
