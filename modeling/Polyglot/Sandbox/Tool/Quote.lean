/-!
# Quotes in complaints

How tools show names in what they complain of. The shell's own quotes are used for names of files,
so that a name can be copied into a command; other words stand between plain quotes with
backslashes in them.
-/

namespace Polyglot.Tool

def isPrintable (c : Char) : Bool :=
  0x20 ≤ c.toNat && c.toNat < 0x7F

/-- The letter that stands for a control character after a backslash. -/
def controlLetter? : Char → Option Char
  | '\x07' => some 'a'
  | '\x08' => some 'b'
  | '\x0c' => some 'f'
  | '\n' => some 'n'
  | '\r' => some 'r'
  | '\t' => some 't'
  | '\x0b' => some 'v'
  | _ => none

/-- Three octal digits. -/
def octalDigits (n : Nat) : List Char :=
  let digit (n : Nat) := Char.ofNat (48 + n % 8)
  [digit (n / 64), digit (n / 8), digit n]

/-- A character that cannot be printed, after a backslash. -/
def backslashed (c : Char) : List Char :=
  '\\' :: match controlLetter? c with
    | some letter => [letter]
    | none => octalDigits c.toNat

/-- Plain quotes: for words that are no names. -/
def quoted (text : String) : String :=
  "'" ++ String.ofList (text.toList.flatMap fun c =>
    if c == '\'' || c == '\\' then ['\\', c]
    else if isPrintable c then [c]
    else backslashed c) ++ "'"

/-- Characters that stand for themselves in a command. -/
def isHarmless (c : Char) : Bool :=
  c.isAlphanum || "%+,-./:]_".toList.contains c || c == '@'

/-- Characters that mean the same in single and in double quotes. -/
def isPlainInside (c : Char) : Bool :=
  isHarmless c || " \x7b\x7d#~'".toList.contains c

/-- The inside of a quoted name from here on; `escaping` says that it stands between the quotes of
characters that cannot be printed. -/
def shellQuotedFrom (escaping : Bool) : List Char → List Char
  | [] => []
  | c :: rest =>
    let leave := if escaping then ['\'', '\''] else []
    if c == '\'' then leave ++ ['\'', '\\', '\'', '\''] ++ shellQuotedFrom false rest
    else if isPrintable c then leave ++ c :: shellQuotedFrom false rest
    else
      (if escaping then [] else ['\'', '$', '\'']) ++ backslashed c ++ shellQuotedFrom true rest

/-- The quotes of the shell, whether needed or not. -/
def shellQuoted (text : String) : String :=
  let cs := text.toList
  if cs.contains '\'' && cs.all isPlainInside then "\"" ++ text ++ "\""
  else "'" ++ String.ofList (shellQuotedFrom false cs) ++ "'"

/-- Does a name need quotes? A colon does if `colon` says so. -/
def needsQuotes (colon : Bool) (text : String) : Bool :=
  match text.toList with
  | [] => true
  | ['\x7b'] => true
  | ['\x7d'] => true
  | first :: rest =>
    first == '#' || first == '~' || (first :: rest).any fun c =>
      !(isHarmless c || "\x7b\x7d#~".toList.contains c) || (colon && c == ':')

/-- A name in front of a colon, in quotes if it needs them. -/
def shellName (text : String) : String :=
  if needsQuotes true text then shellQuoted text else text

/-- A name in quotes if it needs them. -/
def shellWord (text : String) : String :=
  if needsQuotes false text then shellQuoted text else text

end Polyglot.Tool
