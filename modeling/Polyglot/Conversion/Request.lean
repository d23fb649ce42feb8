import Polyglot.Json.Record
import Polyglot.Json.Writer
import Polyglot.Pattern.Search
import Polyglot.Text.Blank

/-!
# Requests, prompts and answers

What is to be converted, and what a model is asked: the languages, the ground rules, and the code as
it is. Models wrap the code that they answer in fences and introduce it with a sentence. Both are
taken out, and blanks at the ends are trimmed.
-/

namespace Polyglot

/-! ## Requests -/

structure ConversionRequest where
  code : String
  source : String
  target : String
  /-- The name of the model to ask. -/
  model : String
  /-- Takes the place of the configured temperature. -/
  temperature : Option Single := none
deriving DecidableEq

namespace ConversionRequest

/-- Nothing that is needed is blank. -/
def isComplete (request : ConversionRequest) : Bool :=
  !(Text.allBlank request.code || Text.allBlank request.source || Text.allBlank request.target ||
    Text.allBlank request.model)

def shape : RecordShape ConversionRequest := [
  .required "code" JsonTree.text fun code request => { request with code },
  .required "source" JsonTree.text fun source request => { request with source },
  .required "target" JsonTree.text fun target request => { request with target },
  .required "model" JsonTree.text fun model request => { request with model },
  .defaulted "temperature" (JsonTree.nullable JsonTree.single)
    fun temperature request => { request with temperature }]

def read (text : String) : Except JsonFault ConversionRequest :=
  JsonText.readWith (shape.read ⟨"", "", "", "", none⟩) text

def toJson (request : ConversionRequest) : Json :=
  .object [
    ("code", .string request.code),
    ("source", .string request.source),
    ("target", .string request.target),
    ("model", .string request.model),
    ("temperature", match request.temperature with
      | some temperature => .ofSingle temperature
      | none => .null)]

end ConversionRequest

/-! ## Prompts and answers -/

/-- The ground rules of a conversion. -/
def promptRules (target : String) : String :=
  "Preserve the behaviour and the printed output exactly.\n" ++
  "Use idiomatic " ++ target ++ " and only its standard library.\n" ++
  "Respond with the " ++ target ++ " code only, without explanations or markdown fences.\n"

def renderPrompt (source target code : String) : String :=
  "Convert the following " ++ source ++ " code to " ++ target ++ ".\n" ++ promptRules target ++
    "\n" ++ source ++ " code:\n" ++ code ++ "\n"

end Polyglot

namespace Polyglot.Cleaning

/-- Three backticks, the tag after them and the line feed after that. -/
def fence : Pattern :=
  .sequence [.literal "```".toList, .loop true (.char .word), .optional true (.single '\n')]

/-- A line that introduces the code, with its line feed. -/
def preamble : Pattern :=
  .sequence [.anchor .lineStart, .literal "Here is the converted".toList,
    .optional true (.literal " is the converted".toList),
    .loop false (.char (.compl (.single '\n'))), .single '\n']

/-- What is taken out of an answer. -/
def noise : Pattern :=
  .alt fence preamble

end Polyglot.Cleaning

namespace Polyglot

/-- The code in a model's answer. -/
def cleanResponse (response : String) : String :=
  String.ofList (Text.trimmed (Cleaning.noise.removeAll response.toList))

end Polyglot
