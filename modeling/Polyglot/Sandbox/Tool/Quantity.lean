import Polyglot.Sandbox.CharClass
import Polyglot.Sandbox.Tool.Options
import Polyglot.Sandbox.Tool.Quote

/-!
# Quantities

Numbers that are given to tools, with letters after them that multiply: `k` is 1024, `MB` is a
million.
-/

namespace Polyglot.Tool

inductive QuantityFault where
  | malformed
  | overflow
  /-- What follows the number means nothing. -/
  | suffix
deriving DecidableEq, Repr

/-- The value of some decimal digits. -/
def decimal (digits : List Char) : Nat :=
  digits.foldl (fun n c => 10 * n + (c.toNat - 48)) 0

/-- A text that is a decimal number and nothing else. -/
def decimal? (text : String) : Option Nat :=
  let cs := text.toList
  if !cs.isEmpty && cs.all Char.isDigit then some (decimal cs) else none

/-- A layout whose widths are too much is never written. They stand behind percent signs. -/
def Work.insistOnWidths (format : String) : Work Unit :=
  (format.splitOn "%").tail.forM fun piece => do
    let cs := piece.toList.dropWhile ("-+ #0'_^".toList.contains ·)
    let width := cs.takeWhile Char.isDigit
    Work.insistOnBound (decimal width)
    match cs.drop width.length with
    | '.' :: rest => Work.insistOnBound (decimal (rest.takeWhile Char.isDigit))
    | _ => pure ()

namespace Quantity

/-- The greatest number that anything can be given. -/
def greatest : Nat := 0xffffffffffffffff

/-- What a letter after a number multiplies it by. -/
def factor? (base : Nat) : Char → Option Nat
  | 'b' => some 512
  | 'B' => some 1024
  | 'c' => some 1
  | 'w' => some 2
  | 'k' => some base
  | 'K' => some base
  | 'm' => some (base.pow 2)
  | 'M' => some (base.pow 2)
  | 'g' => some (base.pow 3)
  | 'G' => some (base.pow 3)
  | 't' => some (base.pow 4)
  | 'T' => some (base.pow 4)
  | 'P' => some (base.pow 5)
  | 'E' => some (base.pow 6)
  | 'Z' => some (base.pow 7)
  | 'Y' => some (base.pow 8)
  | 'R' => some (base.pow 9)
  | 'Q' => some (base.pow 10)
  | _ => none

/-- Read what follows a number, given the letters that may do so. With a zero among those, a second
letter may tell powers of 1000 from powers of 1024. -/
def multiply (suffixes : String) (n : Nat) (cs : List Char) : Except QuantityFault Nat :=
  match cs with
  | [] => .ok n
  | c :: rest =>
    let isScale := c != 'b' && c != 'B' && c != 'c' && c != 'w'
    let (base, rest) :=
      if suffixes.toList.contains '0' && isScale then
        match rest with
        | 'i' :: 'B' :: rest => (1024, rest)
        | 'B' :: rest => (1000, rest)
        | 'D' :: rest => (1000, rest)
        | rest => (1024, rest)
      else (1024, rest)
    if !suffixes.toList.contains c then .error .suffix
    else match factor? base c with
      | none => .error .suffix
      | some factor => if rest.isEmpty then .ok (n * factor) else .error .suffix

/-- A number without a sign that may have letters after it; letters alone count one. -/
def unsigned (suffixes text : String) : Except QuantityFault Nat :=
  let cs := text.toList.dropWhile CharClass.isSpace
  let cs := if cs.head? == some '+' then cs.tail else cs
  let digits := cs.takeWhile Char.isDigit
  if digits.isEmpty then
    match text.toList with
    | c :: _ =>
      if c != '0' && suffixes.toList.contains c then multiply suffixes 1 text.toList
      else .error .malformed
    | [] => .error .malformed
  else
    let n := decimal digits
    match multiply suffixes n (cs.drop digits.length) with
    | .error e => .error e
    | .ok m => if greatest < n || greatest < m then .error .overflow else .ok m

/-- A number with or without a sign. -/
def signed (suffixes text : String) : Except QuantityFault Int :=
  match text.toList.dropWhile CharClass.isSpace with
  | '-' :: rest =>
    if rest.head?.any Char.isDigit then
      match unsigned suffixes (String.ofList rest) with
      | .ok n => if 0x8000000000000000 < n then .error .overflow else .ok (-(n : Int))
      | .error e => .error e
    else .error .malformed
  | _ =>
    match unsigned suffixes text with
    | .ok n => if 0x7fffffffffffffff < n then .error .overflow else .ok n
    | .error e => .error e

end Quantity

end Polyglot.Tool

namespace Polyglot.Work

open Tool

/-- Tell of a number that is of no use, and end. -/
def refuseQuantity {α : Type} (complaint text : String) (fault : QuantityFault) (code : Nat := 1) :
    Work α :=
  die (complaint ++ ": " ++ quoted text ++
    (if fault = .overflow then ": Value too large for defined data type" else "")) code

/-- A number that an option or an operand gives, within bounds. -/
def quantity (suffixes complaint text : String) (least : Nat := 0)
    (most : Nat := Quantity.greatest) (code : Nat := 1) : Work Nat := do
  match Quantity.unsigned suffixes text with
  | .error fault => refuseQuantity complaint text fault code
  | .ok n =>
    if n < least || most < n then
      die (complaint ++ ": " ++ quoted text ++ (if 0x3fffffff < n
        then ": Value too large for defined data type" else ": Numerical result out of range")) code
    else return n

/-- A number with a sign. -/
def signedQuantity (suffixes complaint text : String) : Work Int := do
  match Quantity.signed suffixes text with
  | .error fault => refuseQuantity complaint text fault
  | .ok n => return n

end Polyglot.Work

