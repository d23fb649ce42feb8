import Polyglot.Proofs.EventStream.Framing
import Polyglot.Proofs.Json.Record
import Polyglot.Proofs.Provider.Delivery
import Polyglot.Proofs.Text.Lines
import Polyglot.Provider.Adapter

/-!
# Texts on their way from a provider

A provider sends a text as a delta: a JSON value that holds the text, on one line of data. The
main statement, `Provider.ask_delivers`, follows any texts from their deltas through the bytes of a
body, its chunks and events, to the items of an answer.

Each protocol has its own shape of deltas and its own way to read them; what all of them share is
`extract_delta` and `delta_line`, and from there on the protocol does not matter.
-/

namespace Polyglot

/-! ## Deltas -/

namespace Protocol

/-- The value by which a provider sends a piece of text. -/
def delta (text : String) : Protocol → Json
  | openAiCompatible =>
    .object [("choices", .array [.object [("delta", .object [("content", .string text)])]])]
  | anthropic =>
    .object [
      ("type", .string "content_block_delta"),
      ("delta", .object [("type", .string "text_delta"), ("text", .string text)])]
  | gemini =>
    .object [("candidates", .array [.object [
      ("content", .object [("parts", .array [.object [("text", .string text)]])])]])]

theorem delta_spelled (text : String) (protocol : Protocol) : (protocol.delta text).Spelled := by
  cases protocol <;> simp [delta, Json.Spelled, Json.ItemsSpelled, Json.MembersSpelled]

end Protocol

/-- A delta of a chat completion is read as its text. -/
theorem ChatCompletions.extract_delta (name : Option String) (text : String) :
    extract ⟨name, (Protocol.openAiCompatible.delta text).compact⟩ = .ok (some text) := by
  have delta : deltaShape.read none (.ofJson (.object [("content", .string text)])) =
      .ok (some text) :=
    RecordShape.read_singleton rfl
      (RecordField.store_nullable _ _ (JsonTree.text_string text) nofun) rfl
  have choice : choiceShape.read none
      (.ofJson (.object [("delta", .object [("content", .string text)])])) = .ok (some text) :=
    RecordShape.read_singleton rfl (RecordField.store_defaulted _ _ delta) rfl
  have chunk : chunkShape.read {} (.ofJson (Protocol.openAiCompatible.delta text)) =
      .ok { contents := [some text] } :=
    RecordShape.read_singleton rfl
      (RecordField.store_defaulted _ _ (JsonTree.list_singleton choice)) rfl
  rw [extract, JsonText.readWith_compact _ (Protocol.delta_spelled text .openAiCompatible), chunk]
  rfl

/-- A delta of generated content is read as its text, if there is any. -/
theorem GenerateContent.extract_delta (name : Option String) {text : String} (filled : text ≠ "") :
    extract ⟨name, (Protocol.gemini.delta text).compact⟩ = .ok (some text) := by
  -- the shapes are read from the inside to the outside
  have part : partShape.read none (.ofJson (.object [("text", .string text)])) =
      .ok (some text) :=
    RecordShape.read_singleton rfl
      (RecordField.store_nullable _ _ (JsonTree.text_string text) nofun) rfl
  have content : contentShape.read []
      (.ofJson (.object [("parts", .array [.object [("text", .string text)]])])) =
        .ok [some text] :=
    RecordShape.read_singleton rfl
      (RecordField.store_defaulted _ _ (JsonTree.list_singleton part)) rfl
  have candidate : candidateShape.read none (.ofJson (.object
      [("content", .object [("parts", .array [.object [("text", .string text)]])])])) =
        .ok (some [some text]) :=
    RecordShape.read_singleton rfl (RecordField.store_nullable _ _ content nofun) rfl
  have chunk : chunkShape.read {} (.ofJson (Protocol.gemini.delta text)) =
      .ok { candidates := [some [some text]] } :=
    RecordShape.read_singleton rfl
      (RecordField.store_defaulted _ _ (JsonTree.list_singleton candidate)) rfl
  have joined : Chunk.text { candidates := [some [some text]] } = text := by
    simp [Chunk.text, String.join]
  have nonempty : text.isEmpty = false := by
    rw [← Bool.not_eq_true, String.isEmpty_iff]
    exact filled
  rw [extract, JsonText.readWith_compact _ (Protocol.delta_spelled text .gemini), chunk]
  simp only [joined, nonempty, Bool.false_eq_true, if_false]

/-- A delta of a message is read as its text. -/
theorem Messages.extract_delta (name : Option String) (text : String) :
    extract ⟨name, (Protocol.anthropic.delta text).compact⟩ = .ok (some text) := by
  have read : Json.read (Protocol.anthropic.delta text).compact =
      .ok (Protocol.anthropic.delta text) := by
    rw [Json.read, JsonText.readWith_compact _ (Protocol.delta_spelled text .anthropic)]
    simp only [Protocol.delta, JsonTree.ofJson, JsonTree.ofMembers, JsonTree.value,
      JsonTree.memberValues, JsonText.maxDepth, StringToken.read_ofText]
    rfl
  unfold extract
  simp only [read]
  rfl

/-! ## Deltas as events -/

namespace Protocol

open EventScript Json

/-- A delta is written on one line: a text between two others that do not depend on it. -/
theorem delta_text (text : String) (protocol : Protocol) :
    ∃ front back : List Char, '\n' ∉ front ∧ '\n' ∉ back ∧ front.head? = some '\x7b' ∧
      back.getLast? = some '\x7d' ∧
      (protocol.delta text).compact.toList = front ++ (text.toList.flatMap escapeChar ++ back) := by
  cases protocol with
  | openAiCompatible =>
    refine ⟨"\x7b\"choices\":[\x7b\"delta\":\x7b\"content\":\"".toList, "\"\x7d\x7d]\x7d".toList,
      by decide, by decide, rfl, rfl, ?_⟩
    simp [delta, compact, writeAt, writeItems, writeMembers, bracket, writeString, escapeChar]
  | anthropic =>
    refine ⟨
      ("\x7b\"type\":\"content_block_delta\"," ++
        "\"delta\":\x7b\"type\":\"text_delta\",\"text\":\"").toList,
      "\"\x7d\x7d".toList, by decide, by decide, rfl, rfl, ?_⟩
    simp [delta, compact, writeAt, writeMembers, bracket, writeString, escapeChar]
  | gemini =>
    refine ⟨"\x7b\"candidates\":[\x7b\"content\":\x7b\"parts\":[\x7b\"text\":\"".toList,
      "\"\x7d]\x7d\x7d]\x7d".toList, by decide, by decide, rfl, rfl, ?_⟩
    simp [delta, compact, writeAt, writeItems, writeMembers, bracket, writeString, escapeChar]

theorem delta_line (text : String) (protocol : Protocol) :
    '\n' ∉ (protocol.delta text).compact.toList ∧
      (protocol.delta text).compact.toList.getLast? = some '\x7d' ∧
      ∃ rest, (protocol.delta text).compact.toList = '\x7b' :: rest := by
  obtain ⟨front, back, single, single', opened, closed, written⟩ := delta_text text protocol
  obtain ⟨rest, rfl⟩ : ∃ rest, front = '\x7b' :: rest := List.head?_eq_some_iff.mp opened
  rw [written]
  refine ⟨?_, ?_, ⟨_, rfl⟩⟩
  · rw [List.mem_append, List.mem_append, not_or, not_or]
    exact ⟨single, lineFeed_not_mem_escaped text.toList, single'⟩
  · rw [List.getLast?_append, List.getLast?_append, closed]
    rfl

/-- The event by which a provider sends a piece of text. -/
def deltaEvent (protocol : Protocol) (text : String) : Event :=
  ⟨none, (protocol.delta text).compact⟩

/-- A delta is no sentinel. -/
theorem trim_deltaEvent (protocol : Protocol) (text : String) :
    Text.trim (protocol.deltaEvent text).data ≠ Delivery.sentinel := by
  obtain ⟨-, -, rest, written⟩ := delta_line text protocol
  have trimmed : (Text.trim (protocol.deltaEvent text).data).toList =
      '\x7b' :: Text.dropTail Text.isBlank rest := by
    rw [Text.trim, String.toList_ofList, deltaEvent, written, Text.trimmed_cons (by decide)]
  intro same
  rw [same] at trimmed
  have heads : some '[' = some '\x7b' := congrArg List.head? trimmed
  exact absurd heads (by decide)

/-- Each protocol's extractor finds the text in its delta. -/
theorem extract_delta (protocol : Protocol) {text : String} (filled : text ≠ "") :
    protocol.extractor (protocol.deltaEvent text) = .ok (some text) := by
  cases protocol with
  | openAiCompatible => rw [extractor, deltaEvent, ChatCompletions.extract_delta]
  | anthropic => rw [extractor, deltaEvent, Messages.extract_delta]
  | gemini => rw [extractor, deltaEvent, GenerateContent.extract_delta none filled]

/-! ## Answers -/

/-- The events of an answer: a delta for each piece of text and, if the provider sends one, the
sentinel. -/
def answerEvents (protocol : Protocol) (texts : List String) (closing : Bool) : List Event :=
  texts.map protocol.deltaEvent ++ if closing then [⟨none, Delivery.sentinel⟩] else []

/-- The body of an answer: data lines with the deltas, each before a blank line, and the
sentinel. -/
def answerBody (protocol : Protocol) (texts : List String) (closing : Bool) : List Char :=
  texts.flatMap
      (fun text => "data: ".toList ++ (protocol.delta text).compact.toList ++ ['\n', '\n']) ++
    if closing then "data: [DONE]\n\n".toList else []

theorem answerBody_eq (protocol : Protocol) (texts : List String) (closing : Bool) :
    protocol.answerBody texts closing = (protocol.answerEvents texts closing).flatMap write := by
  have deltas : (texts.map protocol.deltaEvent).flatMap write = texts.flatMap
      (fun text => "data: ".toList ++ (protocol.delta text).compact.toList ++ ['\n', '\n']) := by
    rw [List.flatMap_map]
    exact congrArg texts.flatMap (funext fun text => write_of_single (delta_line text protocol).1)
  rw [answerBody, answerEvents, List.flatMap_append, deltas]
  cases closing <;> rfl

theorem answerEvents_writable (protocol : Protocol) (texts : List String) (closing : Bool) :
    ∀ event ∈ protocol.answerEvents texts closing, IsWritable event := by
  have deltas (text : String) : IsWritable (protocol.deltaEvent text) := by
    obtain ⟨single, last, -⟩ := delta_line text protocol
    refine ⟨nofun, ?_⟩
    rw [deltaEvent, List.splitOn_eq_singleton single]
    intro line mem
    rw [List.mem_singleton.mp mem, last]
    decide
  intro event mem
  rw [answerEvents, List.mem_append] at mem
  obtain mem | mem := mem
  · obtain ⟨text, -, rfl⟩ := List.mem_map.mp mem
    exact deltas text
  · cases closing with
    | false => cases mem
    | true =>
      rw [List.mem_singleton.mp mem]
      exact ⟨nofun, by decide⟩

/-- The walk over the events of an answer gives just its texts. -/
theorem walk_answerEvents (protocol : Protocol) {texts : List String}
    (filled : ∀ text ∈ texts, text ≠ "") (closing : Bool) :
    Delivery.walk protocol.extractor none (protocol.answerEvents texts closing) =
      texts.map .ok := by
  induction texts with
  | nil =>
    have done : Delivery.stops protocol.extractor ⟨none, Delivery.sentinel⟩ := by
      simp [Delivery.stops, show Text.trim Delivery.sentinel = Delivery.sentinel by decide]
    cases closing with
    | false => rfl
    | true =>
      rw [answerEvents, List.map_nil, List.nil_append, if_pos rfl, Delivery.walk_cons_of_stops done,
        Delivery.endError, if_pos (by decide)]
      rfl
  | cons text texts ih =>
    rw [List.forall_mem_cons] at filled
    have extracted := extract_delta protocol filled.1
    have onward : Delivery.stops protocol.extractor (protocol.deltaEvent text) = false := by
      simp [Delivery.stops, trim_deltaEvent, extracted, Except.isOk, Except.toBool]
    have spoken : Delivery.text? protocol.extractor (protocol.deltaEvent text) = some text := by
      simp [Delivery.text?, extracted, filled.1]
    rw [answerEvents, List.map_cons, List.cons_append, Delivery.walk_cons_of_not_stops onward,
      spoken, ← answerEvents, ih filled.2]
    rfl

end Protocol

/-- A complete body that holds texts as deltas, cut into chunks in any way, gives these texts. The
line feeds at its end may be missing. -/
theorem Delivery.ofResponse_delivers (protocol : Protocol) {timeout : Duration}
    {response : HttpResponse} (status : response.status = 200) (whole : response.truncated = false)
    (head : response.isPrompt timeout) (ended : (response.received timeout).2 = true)
    {texts : List String} (filled : ∀ text ∈ texts, text ≠ "") {closing : Bool} {missing : Nat}
    (few : missing ≤ 2)
    (body : response.chunks.flatten ++ List.replicate missing Text.Utf8.lineFeed =
      Text.Utf8.encode (protocol.answerBody texts closing)) :
    Delivery.ofResponse protocol.extractor timeout response = texts.map .ok := by
  have success : response.isSuccess := by simp [HttpResponse.isSuccess, status]
  have complete : response.fault? timeout = none := by
    simp [HttpResponse.fault?, HttpResponse.breaksOff, whole, ended]
  have chunks : (response.received timeout).1 = response.chunks := by
    simp [HttpResponse.received_of_ended ended, HttpResponse.body, HttpResponse.isBodiless, status]
  have writable := protocol.answerEvents_writable texts closing
  rw [Protocol.answerBody_eq] at body
  -- the end of the body completes the last event even without its last two line feeds
  have events := EventDecoder.push_finish_of_written writable few body
  have walked := protocol.walk_answerEvents filled closing
  simp only [Delivery.ofResponse_of_success _ head success, complete, chunks,
    EventDecoder.eventsUntil, Option.isNone_none, if_true, events, Option.map_none, walked]

/-- **Texts arrive as they were sent.** If the body of a successful answer holds texts as deltas,
however it is cut into chunks, the items of the answer are these texts, one for each and in order.
The sentinel may follow the deltas, and the line feeds at the end may be missing. -/
theorem Provider.ask_delivers (provider : Provider) (model key : String) (transport : Transport)
    (prompt : String) (options : GenerationOptions) {request : HttpRequest}
    {response : HttpResponse}
    (served : provider.exchange? model key transport prompt options = some (request, response))
    (status : response.status = 200) (whole : response.truncated = false)
    (head : response.isPrompt options.timeout)
    (ended : (response.received options.timeout).2 = true)
    {texts : List String} (filled : ∀ text ∈ texts, text ≠ "") {closing : Bool} {missing : Nat}
    (few : missing ≤ 2)
    (body : response.chunks.flatten ++ List.replicate missing Text.Utf8.lineFeed =
      Text.Utf8.encode (provider.protocol.answerBody texts closing)) :
    (provider.ask model key transport prompt options).items = texts.map .ok := by
  rw [Provider.ask, served]
  exact Delivery.ofResponse_delivers provider.protocol status whole head ended filled few body

/-- Texts that need escapes or look like the sentinel, cut inside a character, with pauses, and
without the blank line at the end. -/
theorem Provider.ask_delivers_cut_inside_character :
    let written :=
      Text.Utf8.encode (Protocol.anthropic.answerBody ["\"\n", "é", "[DONE]"] false)
    let chunks := [written.take 156, [], (written.drop 156).dropLast]
    let pauses := [.ofSeconds 40, .zero, .ofSeconds 70]
    (ask ⟨.anthropic, "https://api.anthropic.com/v1"⟩ "claude" "key"
      (fun _ _ => some { chunks, pauses }) "hello" {}).items =
        ["\"\n", "é", "[DONE]"].map .ok := by
  intro written chunks pauses
  have whole : chunks.flatten ++ List.replicate 1 Text.Utf8.lineFeed = written := by
    decide +kernel
  have served (chunks : List (List UInt8)) : ∃ request,
      exchange? ⟨.anthropic, "https://api.anthropic.com/v1"⟩ "claude" "key"
        (fun _ _ => some { chunks, pauses }) "hello" {} =
          some (request, { chunks, pauses }) := ⟨_, rfl⟩
  obtain ⟨request, served⟩ := served chunks
  exact ask_delivers _ "claude" "key" _ "hello" {} served rfl rfl rfl (by decide +kernel)
    (by decide) (by decide) whole

end Polyglot
