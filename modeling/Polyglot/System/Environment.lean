import Polyglot.Text.Utf8

/-!
# Environment variables

Names with values, which are bytes and need not be text.
-/

namespace Polyglot

/-- The variables of a process; of two entries with one name the first counts. -/
abbrev Environment := List (String × List UInt8)

namespace Environment

/-- The value of a variable, if it is set and is text. -/
def text? (environment : Environment) (name : String) : Option String :=
  (environment.lookup name).bind fun bytes => (Text.Utf8.decode? bytes).map String.ofList

end Environment

end Polyglot
