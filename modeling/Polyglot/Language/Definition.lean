import Polyglot.Pattern.Engine

/-!
# Languages and their evidence

A `LanguageDefinition` says in written patterns how snippets of a language are recognised. An engine
that compiles the patterns turns it into a `LanguageProfile`, which can be asked three things about
a text: does it pass for the language, does it show the language's signature, and what are its
boosters worth.
-/

namespace Polyglot

/-- A language, known by its display name. -/
structure Language where
  name : String
deriving DecidableEq, Repr

structure LanguageDefinition where
  name : String
  /-- Other spellings by which the language can be called. -/
  aliases : List String := []
  /-- Extension of source files, without the dot. -/
  fileExtension : String
  /-- A text passes for the language when one of these matches. -/
  markers : List String
  /-- If there are any, one of these must match too. -/
  requires : List String := []
  /-- Whether markers and requirements ignore case. -/
  ignoreCase : Bool := false
  /-- One construct that hardly occurs elsewhere. -/
  signature : String
  /-- Telling constructs and their weights. -/
  boosters : List (String × Int) := []
deriving DecidableEq, Repr

/-- A definition with its patterns compiled. -/
structure LanguageProfile where
  language : Language
  fileExtension : String
  markers : Matcher
  /-- Nothing, if the definition requires nothing. -/
  requires : Option Matcher
  signature : Matcher
  boosters : List (Matcher × Int)

/-- What a matching signature adds to a score. -/
def signatureWeight : Int := 2

namespace LanguageDefinition

/-- Compile every pattern; the first fault stops the work. -/
def profile (definition : LanguageDefinition) (engine : PatternEngine := .standard) :
    Except engine.Fault LanguageProfile := do
  let markers ← engine.compileSet definition.markers definition.ignoreCase
  let requires ← engine.compileSet? definition.requires definition.ignoreCase
  let boosters ← definition.boosters.mapM fun (text, weight) =>
    (engine.compile text).map (·, weight)
  let signature ← engine.compile definition.signature
  return {
    language := ⟨definition.name⟩
    fileExtension := definition.fileExtension
    markers, requires, signature, boosters }

end LanguageDefinition

namespace LanguageProfile

/-- Does the text pass for the language? -/
def accepts (profile : LanguageProfile) (text : IndexedText) : Bool :=
  profile.markers text && profile.requires.all (· text)

def showsSignature (profile : LanguageProfile) (text : IndexedText) : Bool :=
  profile.signature text

/-- The weights of the boosters that match, each counted once. -/
def boosterScore (profile : LanguageProfile) (text : IndexedText) : Int :=
  profile.boosters.foldr
    (fun (matcher, weight) sum => if matcher text then weight + sum else sum) 0

/-- What the text scores when several languages compete for it. -/
def score (profile : LanguageProfile) (text : IndexedText) : Int :=
  (if profile.showsSignature text then signatureWeight else 0) + profile.boosterScore text

end LanguageProfile

end Polyglot
