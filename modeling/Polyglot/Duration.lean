/-!
# Durations

Lengths of time in nanoseconds, and their text: the largest unit of which there is at least one,
with decimals as far as they go.
-/

namespace Polyglot

structure Duration where
  nanoseconds : Nat
deriving DecidableEq, Repr

namespace Duration

def ofSeconds (seconds : Nat) : Duration :=
  ⟨seconds * 1000000000⟩

def ofMilliseconds (milliseconds : Nat) : Duration :=
  ⟨milliseconds * 1000000⟩

def zero : Duration := ⟨0⟩

instance : Add Duration := ⟨fun a b => ⟨a.nanoseconds + b.nanoseconds⟩⟩

/-- Whole seconds. -/
def seconds (d : Duration) : Nat :=
  d.nanoseconds / 1000000000

/-- Nanoseconds beyond the whole seconds. -/
def subsecond (d : Duration) : Nat :=
  d.nanoseconds % 1000000000

/-- `n` units of ten to the power `places` nanoseconds, without zeros at the end. -/
def decimals (n places : Nat) : String :=
  let unit := Nat.pow 10 places
  let digits := (Nat.toDigits 10 (unit + n % unit)).drop 1
  let kept := (digits.reverse.dropWhile (· == '0')).reverse
  toString (n / unit) ++ if kept.isEmpty then "" else "." ++ String.ofList kept

def text (d : Duration) : String :=
  let n := d.nanoseconds
  if 1000000000 ≤ n then decimals n 9 ++ "s"
  else if 1000000 ≤ n then decimals n 6 ++ "ms"
  else if 1000 ≤ n then decimals n 3 ++ "µs"
  else decimals n 0 ++ "ns"

/-- Seconds with two decimals, a half rounded to the even neighbour. -/
def inSeconds (d : Duration) : String :=
  let hundredths := d.nanoseconds / 10000000
  let twice := 2 * (d.nanoseconds % 10000000)
  let rounded :=
    if twice < 10000000 then hundredths
    else if 10000000 < twice then hundredths + 1
    else hundredths + hundredths % 2
  let fraction := (Nat.toDigits 10 (100 + rounded % 100)).drop 1
  toString (rounded / 100) ++ "." ++ String.ofList fraction

end Duration

end Polyglot
