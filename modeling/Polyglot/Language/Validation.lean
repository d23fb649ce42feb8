import Polyglot.Language.Detection

/-!
# Validation

Whether a snippet is written in the language it is said to be. Where there is nothing to check (no
code, no language, a language that the registry does not know) it passes, and it passes whenever
the language's own markers do, whatever detection would prefer.
-/

namespace Polyglot

inductive Validation where
  | valid
  | mismatch (detected : Option Language) (expected : Language)
deriving DecidableEq, Repr

namespace Validation

def isValid : Validation → Bool
  | valid => true
  | mismatch .. => false

/-- What to tell the user; nothing when the snippet passed. -/
def explanation : Validation → String
  | valid => ""
  | mismatch detected expected =>
    "Code appears to be " ++ (detected.map (·.name)).getD "unknown" ++ " but " ++ expected.name ++
      " was selected"

end Validation

/-- Check a snippet against the language called `expected`. -/
def Registry.validate (registry : Registry) (code expected : String) : Validation :=
  if code.isEmpty || Text.allBlank expected then .valid
  else match (registry.resolve expected).bind registry.profile? with
    | none => .valid
    | some profile =>
      if profile.accepts (.ofString code) then .valid
      else .mismatch (registry.detect code) profile.language

end Polyglot
