import Polyglot.Pattern.Positions
import Polyglot.Pattern.Reader

/-!
# Engines for patterns

Detection needs an engine that compiles written patterns, and asks it no more than whether there is
a match in a text. Which texts are patterns and what they match is up to the engine, and so is how
large a pattern or a set of patterns may become.

The standard engine reads patterns as `Pattern.read` does and matches them by sets of positions.
-/

namespace Polyglot

/-- What a compiled pattern tells of a text: does it match somewhere? -/
abbrev Matcher := IndexedText → Bool

structure PatternEngine where
  /-- Why a text is not compiled. -/
  Fault : Type
  /-- Compile one pattern. -/
  compile : (text : String) → Except Fault Matcher
  /-- Compile a set of patterns, of which any may match. -/
  compileSet : (texts : List String) → (ignoreCase : Bool) → Except Fault Matcher

namespace PatternEngine

/-- Compile a set of patterns, if there are any. -/
def compileSet? (engine : PatternEngine) (texts : List String) (ignoreCase : Bool) :
    Except engine.Fault (Option Matcher) :=
  if texts.isEmpty then .ok none else (engine.compileSet texts ignoreCase).map some

def standard : PatternEngine where
  Fault := PatternFault
  compile text := (Pattern.read text false).map fun p => p.matchesIn
  compileSet texts ignoreCase :=
    (texts.mapM (Pattern.read · ignoreCase)).map fun ps text => ps.any (·.matchesIn text)

end PatternEngine

end Polyglot
