import Polyglot.Number.Decimal

/-!
# Numerals of floating numbers

Reading the longest numeral at the start of a text: decimal or hexadecimal, with an optional point
and exponent, or a word for what is not finite.
-/

namespace Polyglot

/-- A floating number. Zero has both signs. -/
inductive Floating where
  | nan (negative : Bool)
  | infinite (negative : Bool)
  | finite (negative : Bool) (magnitude : Rat)
deriving DecidableEq

/-- 64 significant bits and units from 2⁻¹⁶⁴⁴⁵. -/
def FloatFormat.extended : FloatFormat := ⟨64, -16445, 16384⟩

namespace Floating

def isNegative : Floating → Bool
  | nan negative => negative
  | infinite negative => negative
  | finite negative _ => negative

/-- The value of a finite number. -/
def value? : Floating → Option Rat
  | finite negative magnitude => some (if negative then -magnitude else magnitude)
  | _ => none

/-- Is a number less than another? What is no number is not. -/
def isBelow : Floating → Floating → Bool
  | nan _, _ => false
  | _, nan _ => false
  | infinite a, infinite b => a && !b
  | infinite a, _ => a
  | _, infinite b => !b
  | x, y => match x.value?, y.value? with
    | some a, some b => a < b
    | _, _ => false

def ofRat (q : Rat) : Floating :=
  if q < 0 then finite true (-q) else finite false q

def digitValue (c : Char) : Nat :=
  if c.isDigit then c.toNat - 48
  else if 'a' ≤ c && c ≤ 'f' then c.toNat - 87
  else if 'A' ≤ c && c ≤ 'F' then c.toNat - 55
  else 99

def ofDigits (base : Nat) (digits : List Char) : Nat :=
  digits.foldl (fun n c => base * n + digitValue c) 0

/-- A text without a word at its start, whatever the case of its letters. -/
def dropWord? (word : String) (cs : List Char) : Option (List Char) :=
  if (cs.take word.length).map Char.toLower == word.toList then some (cs.drop word.length) else none

/-- The exponent after a mark, if there is one, and what follows it. -/
def exponent (mark : Char) (cs : List Char) : Int × List Char :=
  match cs with
  | [] => (0, [])
  | e :: more =>
    let (negative, digits) := match more with
      | '-' :: more => (true, more)
      | '+' :: more => (false, more)
      | more => (false, more)
    let power := digits.takeWhile Char.isDigit
    if e.toLower == mark && !power.isEmpty then
      let n : Nat := ofDigits 10 power
      (if negative then -(n : Int) else n, digits.drop power.length)
    else (0, cs)

/-- The digits of a numeral before and after a point, and what follows. -/
def mantissa? (base : Nat) (cs : List Char) : Option (List Char × List Char × List Char) :=
  let isDigit (c : Char) := digitValue c < base
  let whole := cs.takeWhile isDigit
  let rest := cs.drop whole.length
  let (fraction, rest) := match rest with
    | '.' :: more =>
      let fraction := more.takeWhile isDigit
      if whole.isEmpty && fraction.isEmpty then ([], rest)
      else (fraction, more.drop fraction.length)
    | rest => ([], rest)
  if whole.isEmpty && fraction.isEmpty then none else some (whole, fraction, rest)

/-- Round a magnitude; what is far too large or too small is not computed. -/
def rounded (format : FloatFormat) (negative : Bool) (digits : Nat) (base : Nat) (scale : Int) :
    Floating :=
  if digits = 0 then finite negative 0
  else if 20000 < scale then infinite negative
  else if scale < -40000 then finite negative 0
  else
    let power : Rat := if base = 10 then Decimal.power scale else FloatFormat.power scale
    match format.round (digits * power) with
    | some q => finite negative q
    | none => infinite negative

/-- The magnitude at the start of a text, and what follows it. -/
def readMagnitude (format : FloatFormat) (negative : Bool) (cs : List Char) :
    Option (Floating × List Char) :=
  let decimal (_ : Unit) := (mantissa? 10 cs).map fun (whole, fraction, rest) =>
    let (power, rest) := exponent 'e' rest
    (rounded format negative (ofDigits 10 (whole ++ fraction)) 10 (power - fraction.length), rest)
  match cs with
  | '0' :: x :: more =>
    match if x == 'x' || x == 'X' then mantissa? 16 more else none with
    | some (whole, fraction, rest) =>
      let (power, rest) := exponent 'p' rest
      some (rounded format negative (ofDigits 16 (whole ++ fraction)) 2
        (power - 4 * fraction.length), rest)
    | none => decimal ()
  | _ =>
    match dropWord? "infinity" cs, dropWord? "inf" cs, dropWord? "nan" cs with
    | some rest, _, _ => some (infinite negative, rest)
    | _, some rest, _ => some (infinite negative, rest)
    | _, _, some rest => some (nan negative, rest)
    | _, _, _ => decimal ()

def isSpace (c : Char) : Bool :=
  c == ' ' || (9 ≤ c.toNat && c.toNat ≤ 13)

/-- The number at the start of a text, after white space and a sign, and what follows it. -/
def read? (format : FloatFormat) (cs : List Char) : Option (Floating × List Char) :=
  match cs.dropWhile isSpace with
  | '-' :: rest => readMagnitude format true rest
  | '+' :: rest => readMagnitude format false rest
  | rest => readMagnitude format false rest

end Floating

end Polyglot
