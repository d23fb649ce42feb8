/-!
# Escapes

What a backslash and the characters after it stand for in texts that are to be written.
-/

namespace Polyglot.Escape

def isOctal (c : Char) : Bool :=
  '0' ≤ c && c ≤ '7'

def octalValue (digits : List Char) : Char :=
  Char.ofNat ((digits.foldl (fun n c => 8 * n + (c.toNat - 48)) 0) % 256)

/-- What an escape of one letter stands for. -/
def letter? : Char → Option Char
  | '\\' => some '\\'
  | 'a' => some '\x07'
  | 'b' => some '\x08'
  | 'e' => some '\x1b'
  | 'f' => some '\x0c'
  | 'n' => some '\n'
  | 'r' => some '\r'
  | 't' => some '\t'
  | 'v' => some '\x0b'
  | _ => none

/-- An escape, from after its backslash: what it stands for and what follows it. Up to three octal
digits are a byte; what is no escape leaves the backslash. -/
def read (cs : List Char) : Char × List Char :=
  match cs with
  | [] => ('\\', [])
  | c :: rest =>
    if isOctal c then
      let digits := (cs.take 3).takeWhile isOctal
      (octalValue digits, cs.drop digits.length)
    else match letter? c with
      | some d => (d, rest)
      | none => ('\\', cs)

/-- A text with its escapes resolved, and whether it asks for an end of all output. After a zero
come up to three octal digits. -/
def resolve : (fuel : Nat) → List Char → List Char × Bool
  | 0, _ => ([], false)
  | _, [] => ([], false)
  | _, '\\' :: 'c' :: _ => ([], true)
  | fuel + 1, '\\' :: '0' :: d :: rest =>
    let (c, rest) := read (if isOctal d then d :: rest else '0' :: d :: rest)
    let (cs, stop) := resolve fuel rest
    (c :: cs, stop)
  | fuel + 1, '\\' :: rest =>
    let (c, rest) := read rest
    let (cs, stop) := resolve fuel rest
    (c :: cs, stop)
  | fuel + 1, c :: rest =>
    let (cs, stop) := resolve fuel rest
    (c :: cs, stop)

/-- All escapes of a text. -/
def resolveAll (text : String) : List Char × Bool :=
  resolve (text.length + 1) text.toList

end Polyglot.Escape
