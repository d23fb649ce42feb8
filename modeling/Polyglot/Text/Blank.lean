/-!
# Character ranges and blank characters

A `Ranges` table lists closed intervals of code points in increasing order. The first of them is
here, that of the characters with the property White_Space, with trimming them off the ends of a
text; other modules beside this one hold the others, named for the Unicode properties that they
record.
-/

namespace Polyglot.Text

/-! ## Ranges -/

/-- Closed intervals of code points, in increasing order and disjoint. -/
abbrev Ranges := Array (Nat × Nat)

namespace Ranges

/-- Binary search among the rows from `first` up to, but not including, `limit`. Each step halves
their number, so `fuel` steps settle `2 ^ fuel - 1` rows. -/
def search (table : Ranges) (point : Nat) : (fuel first limit : Nat) → Bool
  | 0, _, _ => false
  | fuel + 1, first, limit =>
    if first < limit then
      let middle := (first + limit) / 2
      match table[middle]? with
      | none => false
      | some (low, high) =>
        if point < low then search table point fuel first middle
        else if high < point then search table point fuel (middle + 1) limit
        else true
    else false

/-- Does some interval hold the character? -/
def contains (table : Ranges) (c : Char) : Bool :=
  table.search c.toNat (table.size.log2 + 1) 0 table.size

end Ranges

/-! ## Blanks -/

/-- Characters with the property White_Space. -/
def blanks : Ranges := #[
  (0x9, 0xD), (0x20, 0x20), (0x85, 0x85), (0xA0, 0xA0), (0x1680, 0x1680), (0x2000, 0x200A),
  (0x2028, 0x2029), (0x202F, 0x202F), (0x205F, 0x205F), (0x3000, 0x3000)]

def isBlank (c : Char) : Bool :=
  blanks.contains c

/-- Drop from the end of a list what the test accepts. -/
def dropTail (test : Char → Bool) (cs : List Char) : List Char :=
  (cs.reverse.dropWhile test).reverse

/-- Drop blank characters from both ends. -/
def trimmed (cs : List Char) : List Char :=
  dropTail isBlank (cs.dropWhile isBlank)

def trim (s : String) : String :=
  String.ofList (trimmed s.toList)

/-- Nothing but blank characters. -/
def allBlank (s : String) : Bool :=
  s.toList.all isBlank

end Polyglot.Text
