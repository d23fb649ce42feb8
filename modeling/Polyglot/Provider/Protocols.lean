import Polyglot.Json.Record
import Polyglot.Json.Writer
import Polyglot.Provider.Delivery

/-!
# Protocols of the providers

How each of the providers is asked, and what its events mean. In `ChatCompletions`, which GPT,
DeepSeek and GROQ share, the prompt is the only message of a chat, and each event carries a delta of
the answer. In `Messages`, which is Claude's, the prompt is the only message as well, and events are
tagged with the name of their type; only deltas of text and errors matter. In `GenerateContent`,
which is Gemini's, the prompt is the only part of the contents, and each event carries candidates
whose parts make up the text.
-/

/-! ## Chat completions -/

namespace Polyglot.ChatCompletions

/-! ### Requests -/

def path : String := "/chat/completions"

def body (model prompt : String) (options : GenerationOptions) : Json :=
  .object [
    ("model", .string model),
    ("messages", .array [.object [("role", .string "user"), ("content", .string prompt)]]),
    ("stream", .bool true),
    ("temperature", .ofSingle options.temperature),
    ("max_tokens", .integer options.maxTokens.toNat)]

/-! ### Events -/

/-- An event: for each choice its content, if it has any, and the error that was reported. -/
structure Chunk where
  contents : List (Option String) := []
  error : Option String := none

def deltaShape : RecordShape (Option String) := [
  .nullable "content" JsonTree.text fun content _ => content]

def choiceShape : RecordShape (Option String) := [
  .defaulted "delta" (deltaShape.read none) fun content _ => content]

def errorShape : RecordShape String := [
  .required "message" JsonTree.text fun message _ => message]

def chunkShape : RecordShape Chunk := [
  .defaulted "choices" (JsonTree.list (choiceShape.read none))
    fun contents chunk => { chunk with contents },
  .nullable "error" (errorShape.read "") fun error chunk => { chunk with error }]

/-- The content of the first choice. Events of another form are passed over. -/
def extract : Extractor := fun event =>
  match JsonText.readWith (chunkShape.read {}) event.data with
  | .error _ => .ok none
  | .ok chunk =>
    match chunk.error with
    | some message => .error (.provider message)
    | none => .ok (chunk.contents.head?.join)

end Polyglot.ChatCompletions

/-! ## Messages -/

namespace Polyglot.Messages

/-! ### Requests -/

def path : String := "/messages"

/-- The version of the protocol. -/
def version : String := "2023-06-01"

/-- Higher temperatures are not accepted. -/
def highestTemperature : Rat := 1

def body (model prompt : String) (options : GenerationOptions) : Json :=
  .object [
    ("model", .string model),
    ("max_tokens", .integer options.maxTokens.toNat),
    ("temperature", .ofSingle (options.temperature.capped highestTemperature)),
    ("messages", .array [.object [("role", .string "user"), ("content", .string prompt)]]),
    ("stream", .bool true)]

/-! ### Events -/

/-- A value as its type tag, whatever that is, and the rest of it. -/
def tagged? : Json → Option (Json × TaggedBody)
  | .object members =>
    (TaggedBody.onlyMember? "type" members).map fun tag =>
      (tag, .object (members.filter (·.1 != "type")))
  | .array (tag :: items) => some (tag, .array items)
  | _ => none

/-- The only field of an error report. -/
def errorMessage? : Json → Option String
  | .object members =>
    match TaggedBody.onlyMember? "message" members with
    | some (.string message) => some message
    | _ => none
  | .array [.string message] => some message
  | _ => none

/-- Does the tag of a delta say that it is one of text? It may be a name, or a number that counts
the kinds of deltas from zero; text is the first kind. -/
def marksText : Json → Bool
  | .string name => name == "text_delta"
  | .integer place => place == 0
  | _ => false

/-- The text of a delta. -/
def deltaText? (delta : Json) : Option String :=
  match tagged? delta with
  | none => none
  | some (tag, body) =>
    if marksText tag then
      match body.field? "text" with
      | some (.string text) => some text
      | _ => none
    else none

/-- The text of a delta, or the error of an error report. Everything else is passed over. -/
def extractValue (value : Json) : Except BackendError (Option String) :=
  match tagged? value with
  | some (.string "content_block_delta", body) => .ok ((body.field? "delta").bind deltaText?)
  | some (.string "error", body) =>
    match (body.field? "error").bind errorMessage? with
    | some message => .error (.provider message)
    | none => .ok none
  | _ => .ok none

def extract : Extractor := fun event =>
  match Json.read event.data with
  | .error _ => .ok none
  | .ok value => extractValue value

end Polyglot.Messages

/-! ## Generated content -/

namespace Polyglot.GenerateContent

/-! ### Requests -/

def path (model : String) : String :=
  "/models/" ++ model ++ ":streamGenerateContent"

def body (prompt : String) (options : GenerationOptions) : Json :=
  .object [
    ("contents", .array [.object [
      ("role", .string "user"),
      ("parts", .array [.object [("text", .string prompt)]])]]),
    ("generationConfig", .object [
      ("temperature", .ofSingle options.temperature),
      ("topP", .ofSingle .one),
      ("topK", .integer 1),
      ("maxOutputTokens", .integer options.maxTokens.toNat)])]

/-! ### Events -/

/-- An event: for each candidate the texts of its parts, and the error that was reported. -/
structure Chunk where
  candidates : List (Option (List (Option String))) := []
  error : Option String := none

def partShape : RecordShape (Option String) := [
  .nullable "text" JsonTree.text fun text _ => text]

def contentShape : RecordShape (List (Option String)) := [
  .defaulted "parts" (JsonTree.list (partShape.read none)) fun parts _ => parts]

def candidateShape : RecordShape (Option (List (Option String))) := [
  .nullable "content" (contentShape.read []) fun content _ => content]

def errorShape : RecordShape String := [
  .required "message" JsonTree.text fun message _ => message]

def chunkShape : RecordShape Chunk := [
  .defaulted "candidates" (JsonTree.list (candidateShape.read none))
    fun candidates chunk => { chunk with candidates },
  .nullable "error" (errorShape.read "") fun error chunk => { chunk with error }]

/-- The parts of the first candidate, joined. -/
def Chunk.text (chunk : Chunk) : String :=
  match chunk.candidates.head?.join with
  | some parts => String.join (parts.filterMap id)
  | none => ""

/-- The text of the first candidate, unless it is empty. Events of another form are passed
over. -/
def extract : Extractor := fun event =>
  match JsonText.readWith (chunkShape.read {}) event.data with
  | .error _ => .ok none
  | .ok chunk =>
    match chunk.error with
    | some message => .error (.provider message)
    | none => .ok (if chunk.text.isEmpty then none else some chunk.text)

end Polyglot.GenerateContent
