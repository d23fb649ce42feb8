import Polyglot.Language.Catalogue
import Polyglot.Text.Quoted

/-!
# The registry of languages

A registry keeps the profiles of its languages in order and an index of their spellings. Spellings
are compared in lowercase. When spellings collide, the latest name wins over earlier names and
over every alias, and among aliases the earliest wins.
-/

namespace Polyglot

/-- Spellings in lowercase and the places in the registry that they stand for; of two entries
with one spelling the first counts. -/
abbrev SpellingIndex := List (String × Nat)

namespace SpellingIndex

/-- Enter a name, which takes its spelling over from whatever had it. -/
def addName (index : SpellingIndex) (name : String) (place : Nat) : SpellingIndex :=
  (Text.lowercase name, place) :: index

/-- Enter an alias, which gives way to whatever has its spelling. -/
def addAlias (index : SpellingIndex) (spelling : String) (place : Nat) : SpellingIndex :=
  let key := Text.lowercase spelling
  if (index.lookup key).isSome then index else (key, place) :: index

/-- Enter a definition at the given place: its name, then its aliases in order. -/
def addDefinition (index : SpellingIndex) (definition : LanguageDefinition) (place : Nat) :
    SpellingIndex :=
  definition.aliases.foldl (·.addAlias · place) (index.addName definition.name place)

/-- Enter definitions one after another, from the given place on. -/
def addAll (index : SpellingIndex) (place : Nat) : List LanguageDefinition → SpellingIndex
  | [] => index
  | definition :: rest => addAll (index.addDefinition definition place) (place + 1) rest

end SpellingIndex

structure Registry where
  profiles : List LanguageProfile
  index : SpellingIndex

namespace Registry

/-- The registry of some definitions, if the engine compiles all their patterns. -/
def ofDefinitions (definitions : List LanguageDefinition) (engine : PatternEngine := .standard) :
    Except engine.Fault Registry := do
  let profiles ← definitions.mapM (·.profile engine)
  return { profiles, index := SpellingIndex.addAll [] 0 definitions }

def empty : Registry where
  profiles := []
  index := []

/-- The registry of the built-in languages. All their patterns are compiled. -/
def builtin : Registry :=
  (ofDefinitions Catalogue.all).toOption.getD empty

/-- The profile that a spelling in lowercase stands for. -/
def profileAt? (registry : Registry) (key : String) : Option LanguageProfile :=
  (registry.index.lookup key).bind (registry.profiles[·]?)

/-- The language called by a name or an alias, up to case and surrounding blanks. -/
def resolve (registry : Registry) (name : String) : Option Language :=
  (registry.profileAt? (Text.lowercase (Text.trim name))).map (·.language)

/-- The profile on record for a language. -/
def profile? (registry : Registry) (language : Language) : Option LanguageProfile :=
  registry.profileAt? (Text.lowercase language.name)

/-- All languages in order of registration. -/
def languages (registry : Registry) : List Language :=
  registry.profiles.map (·.language)

/-- The languages, written out for inspection. -/
def describe (registry : Registry) : String :=
  "[" ++ ", ".intercalate
    (registry.languages.map fun language => "Language(" ++ Text.quoted language.name ++ ")") ++ "]"

/-- A detector over the registry, written out for inspection. -/
def describeDetector (registry : Registry) : String :=
  "LanguageDetector \x7b languages: " ++ toString registry.profiles.length ++ " \x7d"

end Registry

end Polyglot
