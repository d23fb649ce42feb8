/-!
# Classes of characters

The classes that patterns may name, for octets of which those above the first half belong to none.
-/

namespace Polyglot.CharClass

def isPrint (c : Char) : Bool :=
  0x20 ≤ c.toNat && c.toNat < 0x7F

def isPunctuation (c : Char) : Bool :=
  isPrint c && c != ' ' && !c.isAlphanum

def isHexDigit (c : Char) : Bool :=
  c.isDigit || ('a' ≤ c && c ≤ 'f') || ('A' ≤ c && c ≤ 'F')

def isBlank (c : Char) : Bool :=
  c == ' ' || c == '\t'

def isControl (c : Char) : Bool :=
  c.toNat < 0x20 || c.toNat == 0x7F

def isSpace (c : Char) : Bool :=
  c == ' ' || (9 ≤ c.toNat && c.toNat ≤ 13)

/-- The classes by name. -/
def named : List (String × (Char → Bool)) := [
  ("alnum", Char.isAlphanum),
  ("alpha", Char.isAlpha),
  ("blank", isBlank),
  ("cntrl", isControl),
  ("digit", Char.isDigit),
  ("graph", fun c => isPrint c && c != ' '),
  ("lower", Char.isLower),
  ("print", isPrint),
  ("punct", isPunctuation),
  ("space", isSpace),
  ("upper", Char.isUpper),
  ("xdigit", isHexDigit)]

/-- A character of a word. -/
def isWord (c : Char) : Bool :=
  c.isAlphanum || c == '_'

end Polyglot.CharClass
