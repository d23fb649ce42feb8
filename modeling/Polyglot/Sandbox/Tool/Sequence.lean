import Polyglot.Number.Directive
import Polyglot.Sandbox.CharClass
import Polyglot.Sandbox.Tool.Quantity

/-!
# Sequences

`seq`, which counts from one number to another, and `factor`, which takes numbers apart. Steps are
added in extended precision; a number that only misses the end by rounding is shown all the same.
-/

namespace Polyglot.Tool

/-! ## Counting -/

/-- A number as it was given: its value, and how wide it is and how many decimals it has when it
is written in the usual way. -/
structure Bound where
  value : Floating
  width : Int
  /-- Missing if that cannot be told. -/
  precision? : Option Int
deriving DecidableEq

namespace Bound

/-- The exponent after an `e`, where there is one. -/
def exponent? (cs : List Char) : Option Int :=
  let mark (c : Char) (cs : List Char) := match cs.dropWhile (· != c) with
    | _ :: digits => some (String.ofList digits)
    | [] => none
  ((mark 'e' cs).or (mark 'E' cs)).map fun digits =>
    match Floating.exponent 'e' ('e' :: digits.toList) with
    | (n, _) => n

/-- The width and the decimals of a number that is written in the usual way. -/
def measure (cs : List Char) : Int × Option Int :=
  let hasPoint := cs.contains '.'
  let before := cs.takeWhile (· != '.')
  let fraction : Int :=
    (((cs.drop (before.length + 1)).takeWhile fun c => c != 'e' && c != 'E').length : Nat)
  let precision : Int := if hasPoint then fraction else 0
  let pointWidth : Int :=
    if !hasPoint then 0
    else if fraction = 0 then -1
    else if before.isEmpty || !(before.getLastD 'x').isDigit then 1 else 0
  let width := (cs.length : Int) + pointWidth
  match exponent? cs with
  | none => (width, some precision)
  | some exponent =>
    let mantissa : Int := ((cs.takeWhile fun c => c != 'e' && c != 'E').length : Nat)
    let width := width - ((cs.length : Int) - mantissa)
    if exponent < 0 then
      let width := if hasPoint then (if fraction = 0 then width + 1 else width) else width + 1
      (width - exponent, some (precision - exponent))
    else
      let precision := precision - min precision exponent
      let width := if hasPoint && precision = 0 && fraction != 0 then width - 1 else width
      (width + (exponent - min fraction exponent), some precision)

def read (text : String) : Work Bound := do
  match Floating.read? .extended text.toList with
  | some (value, []) =>
    match value with
    | .nan _ => Work.misuse ("invalid 'not-a-number' argument: " ++ quoted text)
    | value => do
      let cs := text.toList.dropWhile fun c => CharClass.isSpace c || c == '+'
      if cs.any (fun c => c == 'x' || c == 'X') then
        return ⟨value, 0, if cs.any (fun c => c == '.' || c == 'p') then none else some 0⟩
      else match value with
        | .finite _ _ =>
          let (width, precision?) := measure cs
          return ⟨value, width, precision?⟩
        | _ => return ⟨value, 0, if cs.contains 'p' then none else some 0⟩
  | _ => Work.misuse ("invalid floating point argument: " ++ quoted text)

end Bound

/-- How numbers are written: what stands before and after them, and how they are laid out. -/
structure NumberLayout where
  before : String := ""
  directive : Directive
  after : String := ""

namespace NumberLayout

def write (layout : NumberLayout) (x : Floating) : String :=
  layout.before ++ String.ofList (layout.directive.floating .extended x) ++ layout.after

/-- Plain text of a format up to a percent sign that is not doubled. -/
def plain : List Char → List Char × List Char
  | '%' :: '%' :: rest =>
    let (text, rest) := plain rest
    ('%' :: text, rest)
  | '%' :: rest => ([], '%' :: rest)
  | c :: rest =>
    let (text, rest) := plain rest
    (c :: text, rest)
  | [] => ([], [])

/-- A format for one number. -/
def ofFormat (format : String) : Work NumberLayout := do
  let stop {α : Type} (text : String) : Work α :=
    Work.die ("format " ++ quoted format ++ " " ++ text)
  let (before, rest) := plain format.toList
  if rest.isEmpty then stop "has no % directive"
  let cs := rest.tail
  let flags := cs.takeWhile ['-', '+', '#', '0', ' ', '\''].contains
  let width := (cs.drop flags.length).takeWhile Char.isDigit
  let rest := cs.drop (flags.length + width.length)
  let (precision?, rest) := match rest with
    | '.' :: rest =>
      let digits := rest.takeWhile Char.isDigit
      (some (decimal digits), rest.drop digits.length)
    | rest => (none, rest)
  let rest := if rest.head? == some 'L' then rest.tail else rest
  match rest with
  | [] => stop "ends in %"
  | c :: rest =>
    if !"efgaEFGA".toList.contains c then
      stop ("has unknown %" ++ String.singleton c ++ " directive")
    let (after, more) := plain rest
    if !more.isEmpty then stop "has too many % directives"
    let d := flags.foldl Directive.withFlag { conversion := c }
    return {
      before := String.ofList before
      directive := { d with width := decimal width, precision? }
      after := String.ofList after }

/-- As many decimals as the first number and the step have, and on request zeros up to the width of
the widest number. -/
def ofBounds (sameWidth : Bool) (first step last : Bound) : NumberLayout :=
  match first.precision?, step.precision?, last.precision? with
  | some a, some b, some c =>
    let precision := max a b
    let plain : Directive := { conversion := 'f', precision? := some precision.toNat }
    if !sameWidth then { directive := plain }
    else
      let firstWidth := first.width + (precision - a) + if a = 0 && precision != 0 then 1 else 0
      let lastWidth := last.width + (precision - c) - (if c != 0 && precision = 0 then 1 else 0) +
        if c = 0 && precision != 0 then 1 else 0
      { directive := { plain with zeros := true, width := (max firstWidth lastWidth).toNat } }
  | _, _, _ => { directive := { conversion := 'g' } }

end NumberLayout

/-- The nearest number in extended precision. -/
def nearest (q : Rat) : Rat :=
  let magnitude := (FloatFormat.extended.round (if q < 0 then -q else q)).getD 0
  if q < 0 then -magnitude else magnitude

/-- Numbers from one on, in steps, up to another. -/
structure Count where
  first : Rat
  step : Rat
  last : Floating
  layout : NumberLayout

namespace Count

def isBeyond (count : Count) (x : Rat) : Bool :=
  match count.last with
  | .finite negative magnitude =>
    let last := if negative then -magnitude else magnitude
    if count.step < 0 then x < last else last < x
  | last => last.isNegative != decide (count.step < 0)

/-- Is a number that misses the end shown all the same? It is if it is written like the end but not
like the number before it. -/
def isExtra (count : Count) (before x : Rat) : Bool :=
  let plain : NumberLayout := { directive := count.layout.directive }
  let shown := plain.write (.ofRat x)
  match Floating.read? .extended shown.toList with
  | some (y, []) =>
    y.value? == count.last.value? && plain.write (.ofRat before) != shown
  | _ => false

/-- The numbers after one, latest first; the fuel counts them. -/
def following (count : Count) : (fuel i : Nat) → (before : Rat) → List String → List String × Bool
  | 0, _, _, shown => (shown, false)
  | fuel + 1, i, before, shown =>
    let x := nearest (count.first + nearest (i * count.step))
    if count.isBeyond x then
      (if count.isExtra before x then count.layout.write (.ofRat x) :: shown else shown, true)
    else following count fuel (i + 1) x (count.layout.write (.ofRat x) :: shown)

end Count

def seqOptions : OptionTable where
  letters := "f:s:w"
  words := [("equal-width", "w"), ("format=", "f"), ("separator=", "s")]
  stopsEarly := true

/-- Does an argument begin like a negative number? -/
def isNegativeNumber (argument : String) : Bool :=
  match argument.toList with
  | '-' :: c :: _ => c == '.' || c.isDigit
  | _ => false

/-- The options at the start of arguments among which there may be negative numbers. -/
def seqArguments (arguments : List String) : Work (List GivenOption × List String) := do
  let before := arguments.takeWhile (!isNegativeNumber ·)
  let (options, operands) ← Work.optionsOf seqOptions before []
    fun given option => return given ++ [option]
  return (options, operands ++ arguments.drop before.length)

def isAllDigits (text : String) : Bool :=
  !text.isEmpty && text.toList.all Char.isDigit

/-- Many whole numbers, which need not fit anywhere. -/
def wholeNumbers (first step last : Nat) : List String :=
  if last < first then []
  else (List.range ((last - first) / step + 1)).map fun i => toString (first + i * step)

/-- `seq`: numbers from one to another. -/
def countNumbers : Tool := do
  let (options, operands) ← seqArguments (← read).arguments
  let value? (key : String) := (options.filter (·.key == key)).getLast?.map (·.value)
  let sameWidth := options.any (·.key == "w")
  let separator := (value? "s").getD "\n"
  let tell (lines : List String) : Work Unit := do
    if !lines.isEmpty then Work.sayLine (separator.intercalate lines)
  let (firstText, stepText, lastText) ← match operands with
    | [] => Work.misuse "missing operand"
    | [last] => pure ("1", "1", last)
    | [first, last] => pure (first, "1", last)
    | [first, step, last] => pure (first, step, last)
    | _ :: _ :: _ :: extra :: _ => Work.misuse ("extra operand " ++ quoted extra)
  let layout? ← (value? "f").mapM NumberLayout.ofFormat
  Work.insistOnWidths ((value? "f").getD "")
  if layout?.isSome && sameWidth then
    Work.misuse "format string may not be specified when printing equal width strings"
  let isPlain := !sameWidth && layout?.isNone && separator.length == 1
  let stepNumber := (decimal? stepText).getD 0
  if isPlain && [firstText, stepText, lastText].all isAllDigits && 0 < stepNumber &&
      stepNumber ≤ 200 then
    tellWhole (decimal firstText.toList) stepNumber (decimal lastText.toList) separator tell
  else do
    let read (text : String) : Work Bound := Bound.read text
    let (first, step, last) ← match operands with
      | [_] => do pure (← read "1", ← read "1", ← read lastText)
      | [_, _] => do
        let first ← read firstText
        pure (first, ← read "1", ← read lastText)
      | _ => do
        let first ← read firstText
        let step ← read stepText
        if step.value.value? == some 0 then
          Work.misuse ("invalid Zero increment value: " ++ quoted stepText)
        pure (first, step, ← read lastText)
    let layout := layout?.getD (.ofBounds sameWidth first step last)
    let isWhole := isPlain && [first, step, last].all fun bound => bound.precision? == some 0
    match first.value.value?, step.value.value?, last.value.value? with
    | some start, some pace, some finish =>
      if isWhole && !first.value.isNegative && 0 < pace && pace ≤ 200 && 0 ≤ finish then
        tellWhole start.num.toNat pace.num.toNat finish.num.toNat separator tell
      else countUp first.value start pace last.value layout separator tell
    | some start, some pace, none => countUp first.value start pace last.value layout separator tell
    | _, _, _ => countAtOnce first.value step.value last.value layout separator tell
where
  /-- Count in whole steps. -/
  tellWhole (first step last : Nat) (separator : String) (tell : List String → Work Unit) :
      Work Unit := do
    let most := first + 1500000 * step
    if last ≤ most then tell (wholeNumbers first step last)
    else do
      Work.say (separator.intercalate (wholeNumbers first step most) ++ separator)
      throw .endless
  /-- Count in steps that may be of any size. -/
  countUp (first : Floating) (start pace : Rat) (last : Floating) (layout : NumberLayout)
      (separator : String) (tell : List String → Work Unit) : Work Unit := do
    let count : Count := { first := start, step := pace, last, layout }
    if !count.isBeyond start then
      let fuel := if last.value?.isNone then 100000 else 500000
      let (shown, isDone) := count.following fuel 1 start [layout.write first]
      if isDone then tell shown.reverse
      else do
        Work.say (separator.intercalate shown.reverse ++ separator)
        throw .endless

  /-- Count from infinity or in infinite steps: after the first number all are the same. -/
  countAtOnce (first step last : Floating) (layout : NumberLayout) (separator : String)
      (tell : List String → Work Unit) : Work Unit := do
    let isBeyond (x : Floating) : Bool :=
      if step.isNegative then x.isBelow last else last.isBelow x
    if !isBeyond first then
      let next := if first.value?.isSome then step
        else if step.value?.isNone && step.isNegative != first.isNegative then .nan true
        else first
      let line (x : Floating) : String := layout.write x ++ separator
      if isBeyond next then tell [layout.write first]
      else do
        let count := Supply.window / (line next).length + 1
        Work.say (line first ++ String.join (List.replicate count (line next)))
        throw .endless

/-! ## Factors -/

/-- A power modulo a number. -/
def powerModulo (modulus : Nat) : (fuel base exponent : Nat) → Nat
  | 0, _, _ => 1 % modulus
  | fuel + 1, base, exponent =>
    if exponent = 0 then 1 % modulus
    else
      let half := powerModulo modulus fuel (base * base % modulus) (exponent / 2)
      if exponent % 2 = 1 then half * base % modulus else half

/-- Is one of the first squarings of a number the one before zero? -/
def reachesLast (n : Nat) : (count x : Nat) → Bool
  | 0, _ => false
  | count + 1, x => x == n - 1 || reachesLast n count (x * x % n)

/-- Does an odd number pass as a prime with some base? -/
def passesAsPrime (n base : Nat) : Bool :=
  let twos := ((List.range (n.log2 + 1)).takeWhile fun k =>
    (n - 1) % Nat.pow 2 (k + 1) == 0).length
  let x := powerModulo n (n.log2 + 2) (base % n) ((n - 1) / Nat.pow 2 twos)
  base % n == 0 || x == 1 || reachesLast n twos x

/-- Is a number without small divisors a prime? The bases settle every number that fits. -/
def isPrime (n : Nat) : Bool :=
  [2, 3, 5, 7, 11, 13, 17, 19, 23, 29, 31, 37, 41].all (passesAsPrime n)

/-- What becomes of two walks through the remainders. -/
inductive Walk where
  /-- They met without a divisor. -/
  | met
  | found (divisor : Nat)
  /-- They are too long. -/
  | lost

/-- Look for a divisor of a number that is no prime, on two walks of which one is twice as fast. -/
def cycleWalk (n step : Nat) : (fuel slow fast : Nat) → Walk
  | 0, _, _ => .lost
  | fuel + 1, slow, fast =>
    let next (x : Nat) := (x * x + step) % n
    let slow := next slow
    let fast := next (next fast)
    let divisor := Nat.gcd (max slow fast - min slow fast) n
    if divisor = 1 then cycleWalk n step fuel slow fast
    else if divisor = n then .met
    else .found divisor

/-- A divisor of a number that is no prime, if there is one that can be found. -/
def divisorOf? (n : Nat) : (fuel step : Nat) → Option Nat
  | 0, _ => none
  | fuel + 1, step =>
    match cycleWalk n step 1000000 2 2 with
    | .met => divisorOf? n fuel (step + 1)
    | .found divisor => some divisor
    | .lost => none

/-- Prime factors of a number without small divisors, if they can be found. -/
def largeFactors? : (fuel n : Nat) → Option (List Nat)
  | 0, n => some [n]
  | fuel + 1, n => do
    if n < 2 then return []
    if isPrime n then return [n]
    let divisor ← divisorOf? n 20 1
    return (← largeFactors? fuel divisor) ++ (← largeFactors? fuel (n / divisor))

/-- Prime factors, the small ones by trial. -/
def primeFactors? : (fuel n divisor : Nat) → Option (List Nat)
  | 0, n, _ => largeFactors? (n.log2 + 1) n
  | fuel + 1, n, divisor =>
    if n < 2 then some []
    else if n < divisor * divisor then some [n]
    else if n % divisor = 0 then (primeFactors? fuel (n / divisor) divisor).map (divisor :: ·)
    else primeFactors? fuel n (if divisor = 2 then 3 else divisor + 2)

def factorOptions : OptionTable where
  letters := "h"
  words := [("exponents", "h")]

/-- The factors of a number as they are shown; equal ones may be shown as powers. -/
def factorWords (powers : Bool) (factors : List Nat) : List String :=
  if !powers then factors.map toString
  else factors.eraseDups.map fun p =>
    let count := factors.count p
    if count = 1 then toString p else toString p ++ "^" ++ toString count

/-- `factor`: the prime factors of numbers. -/
def takeApart : Tool := do
  let (options, operands) ← Work.optionList factorOptions
  let powers := options.any (·.key == "h")
  let words ← if !operands.isEmpty then pure operands else do
    match ← Work.readInput with
    | .ok cs => pure ((cs.splitBy fun a b =>
        CharClass.isSpace a == CharClass.isSpace b).filterMap fun word =>
          if word.any CharClass.isSpace then none else some (String.ofList word))
    | .error e => do
      Work.fault ("-: " ++ e.reason)
      pure []
  let lines ← words.mapM fun word => do
    let cs := word.toList.dropWhile (· == ' ')
    let digits := if cs.head? == some '+' then cs.tail else cs
    match decimal? (String.ofList digits) with
    | some n =>
      let some factors := primeFactors? 20000 n 2
        | throw .endless
      let factors := factors.mergeSort (· ≤ ·)
      pure (toString n ++ ":" ++ String.join ((factorWords powers factors).map (" " ++ ·)) ++ "\n")
    | none => do
      Work.fault (quoted word ++ " is not a valid positive integer")
      pure ""
  Work.say (String.join lines)

end Polyglot.Tool
