/-!
# The order of versions

Names with numbers in them, put in the order of the numbers: `a9` comes before `a10`. Endings such as
`.tar.gz` count only between names that are the same without them.
-/

namespace Polyglot.VersionOrder

/-- Where a character stands that is no digit; the end comes before everything but a tilde. -/
def rank : Option Char → Int
  | none => -1
  | some c =>
    if c.isDigit then 0
    else if c.isAlpha then c.toNat
    else if c == '~' then -2
    else c.toNat + 256

/-- Compare two texts up to the next digits of both. -/
def compareWords : List Char → List Char → Ordering ⊕ (List Char × List Char)
  | a :: as, b :: bs =>
    if a.isDigit && b.isDigit then .inr (a :: as, b :: bs)
    else if rank (some a) == rank (some b) then compareWords as bs
    else .inl (compare (rank (some a)) (rank (some b)))
  | [], [] => .inr ([], [])
  | [], b :: bs =>
    if b.isDigit then .inr ([], b :: bs) else .inl (compare (rank none) (rank (some b)))
  | a :: as, [] =>
    if a.isDigit then .inr (a :: as, []) else .inl (compare (rank (some a)) (rank none))

/-- The number at the start of a text, and what follows it. -/
def number (cs : List Char) : Nat × List Char :=
  let digits := cs.takeWhile Char.isDigit
  (digits.foldl (fun n d => 10 * n + (d.toNat - 48)) 0, cs.drop digits.length)

/-- Compare words and numbers in turn. -/
def compareParts : (fuel : Nat) → List Char → List Char → Ordering
  | 0, _, _ => .eq
  | _, [], [] => .eq
  | fuel + 1, as, bs =>
    match compareWords as bs with
    | .inl order => order
    | .inr (as, bs) =>
      let (m, as) := number as
      let (n, bs) := number bs
      (compare m n).then (compareParts fuel as bs)

/-- How long a name is without its endings. -/
def stemLength : (fuel place : Nat) → List Char → Nat
  | 0, place, _ => place
  | _, place, [] => place
  | fuel + 1, place, _ :: rest =>
    let stem := place + 1
    let rec endings : (fuel : Nat) → List Char → List Char
      | 0, cs => cs
      | fuel + 1, '.' :: c :: cs =>
        if c.isAlpha || c == '~' then endings fuel (cs.dropWhile fun c => c.isAlphanum || c == '~')
        else '.' :: c :: cs
      | _ + 1, cs => cs
    let after := endings rest.length rest
    if after.isEmpty then stem
    else stemLength fuel (stem + (rest.length - after.length)) after

def stem (cs : List Char) : List Char :=
  cs.take (stemLength cs.length 0 cs)

/-- Names that begin with a dot come first, and among those one dot and two. -/
def hiddenRank : List Char → Nat
  | [] => 0
  | ['.'] => 1
  | ['.', '.'] => 2
  | '.' :: _ => 3
  | _ => 4

/-- The order of two names. -/
def order (a b : List Char) : Ordering :=
  (compare (hiddenRank a) (hiddenRank b)).then
    (if hiddenRank a < 3 then .eq
    else
      let fuel := a.length + b.length + 1
      (compareParts fuel (stem a) (stem b)).then (compareParts fuel a b))

end Polyglot.VersionOrder
