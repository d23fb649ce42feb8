import Polyglot.Number.Single

/-!
# JSON values

Values with members in order, repeated keys included, and the three ways in which a text can fail
to be the value that is wanted.
-/

namespace Polyglot

inductive Json where
  | null
  | bool (b : Bool)
  | integer (n : Int)
  /-- A number with a sign of its own, so that zero has two. -/
  | fraction (negative : Bool) (magnitude : Rat)
  | string (s : String)
  | array (items : List Json)
  | object (members : List (String × Json))

/-- What is wrong with a JSON text. The earliest problem in the text counts. -/
inductive JsonFault where
  /-- The text ends too early. -/
  | truncated
  /-- The text is not JSON. -/
  | malformed
  /-- The text is JSON of another shape than the one wanted. -/
  | mismatched
deriving DecidableEq, Repr

namespace Json

/-- A single precision number; what is not finite has no numeral in JSON. -/
def ofSingle : Single → Json
  | .finite negative magnitude _ => fraction negative magnitude
  | _ => null

def ofTexts (texts : List String) : Json :=
  array (texts.map string)

end Json

end Polyglot
