import Polyglot.Json.Basic
import Polyglot.Number.Decimal
import Polyglot.Text.Quoted

/-!
# Writing JSON

Values as text, either without any blanks or indented by two spaces a level. Quotes, backslashes
and control characters are escaped, everything else stands for itself.
-/

namespace Polyglot.Json

/-- How one character stands in a JSON string. -/
def escapeChar (c : Char) : List Char :=
  if c == '"' then ['\\', '"']
  else if c == '\\' then ['\\', '\\']
  else if c == '\x08' then ['\\', 'b']
  else if c == '\x0c' then ['\\', 'f']
  else if c == '\n' then ['\\', 'n']
  else if c == '\r' then ['\\', 'r']
  else if c == '\t' then ['\\', 't']
  else if c.toNat < 0x20 then
    ['\\', 'u', '0', '0', Text.hexDigit (c.toNat / 16), Text.hexDigit (c.toNat % 16)]
  else [c]

def writeString (s : String) : List Char :=
  '"' :: s.toList.flatMap escapeChar ++ ['"']

/-- Items between brackets. In the indented form each stands on a line of its own. -/
def bracket (opener closer : Char) (indented : Bool) (level : Nat) (items : List (List Char)) :
    List Char :=
  if items.isEmpty then [opener, closer]
  else if indented then
    let margin (n : Nat) := '\n' :: List.replicate (2 * n) ' '
    let body := (items.map (margin (level + 1) ++ ·)).intersperse [',']
    opener :: body.flatten ++ margin level ++ [closer]
  else
    opener :: (items.intersperse [',']).flatten ++ [closer]

mutual

/-- The text of a value that stands `level` brackets deep. -/
def writeAt (indented : Bool) (level : Nat) : Json → List Char
  | null => "null".toList
  | bool true => "true".toList
  | bool false => "false".toList
  | integer n => (toString n).toList
  | fraction negative magnitude => DecimalStyle.json.writeFinite negative magnitude
  | string s => writeString s
  | array items => bracket '[' ']' indented level (writeItems indented (level + 1) items)
  | object members =>
    bracket '\x7b' '\x7d' indented level (writeMembers indented (level + 1) members)

def writeItems (indented : Bool) (level : Nat) : List Json → List (List Char)
  | [] => []
  | item :: items => writeAt indented level item :: writeItems indented level items

def writeMembers (indented : Bool) (level : Nat) : List (String × Json) → List (List Char)
  | [] => []
  | (key, value) :: members =>
    (writeString key ++ (if indented then [':', ' '] else [':']) ++ writeAt indented level value) ::
      writeMembers indented level members

end

/-- The text of a value without blanks. -/
def compact (value : Json) : String :=
  String.ofList (writeAt false 0 value)

/-- The text of a value with a line for each item and member. -/
def pretty (value : Json) : String :=
  String.ofList (writeAt true 0 value)

end Polyglot.Json
