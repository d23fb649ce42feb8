import Polyglot.Proofs.EventStream.Framing
import Polyglot.Proofs.Json.Fitting
import Polyglot.Proofs.Provider.Delivery
import Polyglot.Proofs.Text.Lines
import Polyglot.Provider.Adapter

/-!
# Events that a provider's adapter does not know

Every protocol has a type of events, said here without its readers: `ChatCompletions.IsChunk`,
`GenerateContent.IsChunk` and `Messages.IsStreamEvent`. Data is `Foreign` to a protocol if it is not
JSON, if it does not fit the type, or if its tag is one that the type knows nothing about.
**`Protocol.items_of_foreign_block`** says that a block of such data can be put in wherever no event
is under way, and the stream delivers the same.

The extractors pass over foreign data since they read only what is JSON and fits
(`Protocol.extractor_of_irrelevant`), and between events a decoder is as good as new, so that the
block is one event among those of the rest of the body.
-/

namespace Polyglot

open JsonTree (Reads IsText IsNullOr IsListOf IsRecordOf)
open Text.Utf8 (encode encode_append)

/-! ## Types of events -/

/-- What a provider says of an error. -/
def IsErrorReport : JsonTree → Prop :=
  IsRecordOf [⟨"message", .required, IsText⟩]

namespace ChatCompletions

def IsDelta : JsonTree → Prop :=
  IsRecordOf [⟨"content", .nullable, IsNullOr IsText⟩]

def IsChoice : JsonTree → Prop :=
  IsRecordOf [⟨"delta", .defaulted, IsDelta⟩]

/-- The events of chat completions. -/
def IsChunk : JsonTree → Prop :=
  IsRecordOf [
    ⟨"choices", .defaulted, IsListOf IsChoice⟩,
    ⟨"error", .nullable, IsNullOr IsErrorReport⟩]

theorem reads_chunk : Reads (chunkShape.read {}) IsChunk := by
  have delta : Reads (deltaShape.read none) IsDelta :=
    RecordShape.reads (.cons (RecordField.takes_nullable "content" JsonTree.reads_text _) .nil)
      (by decide) none
  have choice : Reads (choiceShape.read none) IsChoice :=
    RecordShape.reads (.cons (RecordField.takes_defaulted "delta" delta _) .nil) (by decide) none
  have error : Reads (errorShape.read "") IsErrorReport :=
    RecordShape.reads (.cons (RecordField.takes_required "message" JsonTree.reads_text _) .nil)
      (by decide) ""
  have distinct : ["choices", "error"].Nodup := by decide
  exact RecordShape.reads (.cons (RecordField.takes_defaulted "choices" choice.list _)
    (.cons (RecordField.takes_nullable "error" error _) .nil)) distinct _

end ChatCompletions

namespace GenerateContent

def IsPart : JsonTree → Prop :=
  IsRecordOf [⟨"text", .nullable, IsNullOr IsText⟩]

def IsContent : JsonTree → Prop :=
  IsRecordOf [⟨"parts", .defaulted, IsListOf IsPart⟩]

def IsCandidate : JsonTree → Prop :=
  IsRecordOf [⟨"content", .nullable, IsNullOr IsContent⟩]

/-- The events of generated content. -/
def IsChunk : JsonTree → Prop :=
  IsRecordOf [
    ⟨"candidates", .defaulted, IsListOf IsCandidate⟩,
    ⟨"error", .nullable, IsNullOr IsErrorReport⟩]

theorem reads_chunk : Reads (chunkShape.read {}) IsChunk := by
  have part : Reads (partShape.read none) IsPart :=
    RecordShape.reads (.cons (RecordField.takes_nullable "text" JsonTree.reads_text _) .nil)
      (by decide) none
  have content : Reads (contentShape.read []) IsContent :=
    RecordShape.reads (.cons (RecordField.takes_defaulted "parts" part.list _) .nil)
      (by decide) []
  have candidate : Reads (candidateShape.read none) IsCandidate :=
    RecordShape.reads (.cons (RecordField.takes_nullable "content" content _) .nil)
      (by decide) none
  have error : Reads (errorShape.read "") IsErrorReport :=
    RecordShape.reads (.cons (RecordField.takes_required "message" JsonTree.reads_text _) .nil)
      (by decide) ""
  have distinct : ["candidates", "error"].Nodup := by decide
  exact RecordShape.reads (.cons (RecordField.takes_defaulted "candidates" candidate.list _)
    (.cons (RecordField.takes_nullable "error" error _) .nil)) distinct _

end GenerateContent

namespace Messages

/-- Nothing but the tag counts for a value whose kind is not known; as an array it is nothing but
the tag. -/
def IsBare : TaggedBody → Prop
  | .object _ => True
  | .array items => items = []

/-- The delta of a block: a text, or a delta of another kind. -/
inductive IsBlockDelta (delta : Json) : Prop
  | text {tag : Json} {body : TaggedBody} {text : String}
      (tagged : tagged? delta = some (tag, body)) (marked : marksText tag)
      (field : body.field? "text" = some (.string text))
  | named {kind : String} {body : TaggedBody} (tagged : tagged? delta = some (.string kind, body))
      (other : kind ≠ "text_delta") (bare : IsBare body)
  | counted {place : Nat} {body : TaggedBody} (tagged : tagged? delta = some (.integer place, body))
      (other : place ≠ 0) (bare : IsBare body)

/-- The report of an error: an object with a message, or the message as the only item. -/
inductive IsReport : Json → Prop
  | object {members : List (String × Json)} {message : String}
      (field : TaggedBody.onlyMember? "message" members = some (.string message)) :
      IsReport (.object members)
  | array (message : String) : IsReport (.array [.string message])

/-- The kinds of events that matter. -/
def eventKinds : List String := ["content_block_delta", "error"]

/-- The events of messages: the delta of a block, an error, or an event of another kind. -/
inductive IsStreamEvent (value : Json) : Prop
  | delta {body : TaggedBody} {delta : Json}
      (tagged : tagged? value = some (.string "content_block_delta", body))
      (field : body.field? "delta" = some delta) (fits : IsBlockDelta delta)
  | error {body : TaggedBody} {report : Json}
      (tagged : tagged? value = some (.string "error", body))
      (field : body.field? "error" = some report) (fits : IsReport report)
  | other {kind : String} {body : TaggedBody} (tagged : tagged? value = some (.string kind, body))
      (other : kind ∉ eventKinds) (bare : IsBare body)

/-- An object with a tag that is none of those that matter. -/
inductive HasOtherTag : JsonTree → Prop
  | object {members : List (StringToken × JsonTree)} {fault : Option JsonFault} {key : StringToken}
      {token : StringToken} {kind : String} (mem : (key, .string token) ∈ members)
      (named : key.read = .ok "type") (tagged : token.read = .ok kind) (other : kind ∉ eventKinds) :
      HasOtherTag (.object members fault)

variable {value : Json} {tree : JsonTree} {depth : Nat}

/-- Only the delta of a text adds one. -/
theorem isBlockDelta_of_deltaText? {text : String} (found : deltaText? value = some text) :
    IsBlockDelta value := by
  unfold deltaText? at found
  split at found
  · cases found
  · next tag body tagged =>
    split at found
    · next marked =>
      split at found
      · next field => exact .text tagged marked field
      · cases found
    · cases found

/-- Only from a report a message is taken. -/
theorem isReport_of_errorMessage? {message : String} (found : errorMessage? value = some message) :
    IsReport value := by
  unfold errorMessage? at found
  split at found
  · split at found
    · next field => exact .object field
    · cases found
  · exact .array _
  · cases found

/-- What does not fit is passed over. -/
theorem extractValue_of_unfit (unfit : ¬ IsStreamEvent value) : extractValue value = .ok none := by
  unfold extractValue
  split
  · next body tagged =>
    cases found : (body.field? "delta").bind deltaText? with
    | none => rfl
    | some text =>
      obtain ⟨delta, field, spoken⟩ := Option.bind_eq_some_iff.mp found
      exact absurd (.delta tagged field (isBlockDelta_of_deltaText? spoken)) unfit
  · next body tagged =>
    split
    · next message found =>
      obtain ⟨report, field, reported⟩ := Option.bind_eq_some_iff.mp found
      exact absurd (.error tagged field (isReport_of_errorMessage? reported)) unfit
    · rfl
  · rfl

/-- The only member of a name is any member of this name. -/
theorem eq_of_onlyMember? {name : String} {members : List (String × Json)} {only other : Json}
    (found : TaggedBody.onlyMember? name members = some only) (mem : (name, other) ∈ members) :
    other = only := by
  unfold TaggedBody.onlyMember? at found
  split at found
  · next key value single =>
    cases found
    have kept : (name, other) ∈ members.filter (·.1 == name) :=
      List.mem_filter.mpr ⟨mem, beq_self_eq_true name⟩
    rw [single, List.mem_singleton, Prod.mk.injEq] at kept
    exact kept.2
  · cases found

/-- What stands among the members of a tree stands among those of its value. -/
theorem mem_of_memberValues {members : List (StringToken × JsonTree)}
    {values : List (String × Json)} (read : JsonTree.memberValues depth members = .ok values)
    {key : StringToken} {name : String} (mem : (key, tree) ∈ members)
    (named : key.read = .ok name) (single : tree.value depth = .ok value) :
    (name, value) ∈ values := by
  induction members generalizing values with
  | nil => cases mem
  | cons member members ih =>
    obtain ⟨name', value', rest, named', single', others, rfl⟩ :=
      JsonTree.memberValues_cons_eq_ok_iff.mp read
    rcases List.mem_cons.mp mem with rfl | behind
    · rw [named, Except.ok.injEq] at named'
      rw [single, Except.ok.injEq] at single'
      rw [named', single']
      exact List.mem_cons_self
    · exact List.mem_cons_of_mem _ (ih others behind)

/-- So is an event of another kind. -/
theorem extractValue_of_otherTag (tagged : HasOtherTag tree)
    (read : tree.value depth = .ok value) : extractValue value = .ok none := by
  obtain @⟨members, fault, key, token, kind, mem, named, spelled, other⟩ := tagged
  obtain ⟨-, -, values, found, rfl⟩ := JsonTree.value_object_eq_ok_iff.mp read
  have listed : ("type", .string kind) ∈ values := by
    refine mem_of_memberValues found mem named ?_
    rw [JsonTree.value, spelled]
    rfl
  -- a tag counts only where it is the only one, so it is this one
  have tags {tag : Json} {body : TaggedBody}
      (tagged : tagged? (.object values) = some (tag, body)) :
      tag = .string kind := by
    obtain ⟨only, found, same⟩ := Option.map_eq_some_iff.mp tagged
    cases same
    exact (eq_of_onlyMember? found listed).symm
  unfold extractValue
  split
  · next body tagged =>
    cases tags tagged
    exact absurd (by decide) other
  · next body tagged =>
    cases tags tagged
    exact absurd (by decide) other
  · rfl

end Messages

/-! ## Foreign data -/

namespace Protocol

/-- The type of a protocol's events. -/
def IsChunk : Protocol → JsonTree → Prop
  | openAiCompatible => ChatCompletions.IsChunk
  | anthropic => fun tree =>
    ∃ value, tree.value JsonText.maxDepth = .ok value ∧ Messages.IsStreamEvent value
  | gemini => GenerateContent.IsChunk

/-- Data that a protocol's adapter has no use for: it is not JSON, it is of another type than the
events of the protocol, or it is tagged as an event that does not matter. -/
inductive Foreign (protocol : Protocol) (data : String) : Prop
  | noJson (none : ∀ tree, ¬ JsonText.Spells data.toList tree)
  | unfit {tree : JsonTree} (spelled : JsonText.Spells data.toList tree)
      (unfit : ¬ protocol.IsChunk tree)
  | otherTag {tree : JsonTree} (tags : protocol = anthropic)
      (spelled : JsonText.Spells data.toList tree) (tagged : Messages.HasOtherTag tree)

variable {protocol : Protocol} {data : String} {tree : JsonTree} {name : Option String}

/-- Whatever tree foreign data has, it does not matter to the protocol. -/
theorem Foreign.cases (foreign : protocol.Foreign data)
    (spelled : JsonText.Spells data.toList tree) :
    ¬ protocol.IsChunk tree ∨ protocol = anthropic ∧ Messages.HasOtherTag tree := by
  cases foreign with
  | noJson none => exact absurd spelled (none tree)
  | unfit spelled' unfit =>
    rw [spelled.unique spelled']
    exact .inl unfit
  | otherTag tags spelled' tagged =>
    rw [spelled.unique spelled']
    exact .inr ⟨tags, tagged⟩

/-- Data adds nothing if the trees that it may have do not matter. -/
theorem extractor_of_irrelevant
    (irrelevant : ∀ tree, JsonText.Spells data.toList tree →
      ¬ protocol.IsChunk tree ∨ protocol = anthropic ∧ Messages.HasOtherTag tree) :
    protocol.extractor ⟨name, data⟩ = .ok none := by
  -- a record is read only from what fits
  have unread {α : Type} {reader : JsonTree → Except JsonFault α} {chunk : α}
      (reads : Reads reader protocol.IsChunk) (other : protocol ≠ anthropic) :
      JsonText.readWith reader data ≠ .ok chunk := by
    intro read
    obtain ⟨tree, spelled, found⟩ := (JsonText.readWith_eq_ok_iff reads.careful).mp read
    obtain unfit | ⟨same, -⟩ := irrelevant tree spelled
    · exact unfit ((reads.fits tree (reads.careful tree _ found)).mp ⟨_, found⟩)
    · exact other same
  cases protocol with
  | openAiCompatible =>
    rw [extractor, ChatCompletions.extract]
    split
    · rfl
    · next read => exact absurd read (unread ChatCompletions.reads_chunk nofun)
  | gemini =>
    rw [extractor, GenerateContent.extract]
    split
    · rfl
    · next read => exact absurd read (unread GenerateContent.reads_chunk nofun)
  | anthropic =>
    rw [extractor, Messages.extract]
    split
    · rfl
    · next value read =>
      have careful := JsonTree.careful_value JsonText.maxDepth
      obtain ⟨tree, spelled, found⟩ := (JsonText.readWith_eq_ok_iff careful).mp read
      obtain unfit | ⟨-, tagged⟩ := irrelevant tree spelled
      · exact Messages.extractValue_of_unfit fun fits => unfit ⟨value, found, fits⟩
      · exact Messages.extractValue_of_otherTag tagged found

/-! ## Blocks -/

/-- What is received of data on one line: carriage returns at its end are dropped. -/
def received (data : String) : String :=
  String.ofList (Text.dropTail (· == '\r') data.toList)

/-- Carriage returns at the end of a JSON text are blanks like any others. -/
theorem spells_of_received (spelled : JsonText.Spells (received data).toList tree) :
    JsonText.Spells data.toList tree := by
  have returns : JsonTree.Blanks (data.toList.rtakeWhile (· == '\r')) := by
    intro c mem
    have returned : c = '\r' := by simpa using List.mem_rtakeWhile_imp mem
    rw [returned]
    rfl
  have longer := spelled.append_blanks returns
  rw [received, String.toList_ofList] at longer
  rwa [← List.rdropWhile_append_rtakeWhile (p := (· == '\r')) (l := data.toList)]

/-- Nor are they missed where a text is trimmed. -/
theorem trim_received (data : String) : Text.trim (received data) = Text.trim data := by
  rw [received, Text.trim, Text.trim, String.toList_ofList, Text.trimmed_dropTail]
  intro c returned
  rw [beq_iff_eq.mp returned]
  decide

/-- A block of one line of data. -/
def dataBlock (data : String) : List UInt8 :=
  encode ("data: ".toList ++ data.toList ++ ['\n', '\n'])

/-- A new decoder makes one event of it and is then as good as new. -/
theorem push_dataBlock (single : '\n' ∉ data.toList) :
    EventDecoder.push {} (dataBlock data) = ([⟨none, received data⟩], {}) := by
  have kept : (received data).toList <+: data.toList := by
    rw [received, String.toList_ofList]
    exact List.rdropWhile_prefix _ _
  have single' : '\n' ∉ (received data).toList := fun mem => single (kept.subset mem)
  have writable : EventScript.IsWritable ⟨none, received data⟩ := by
    refine ⟨nofun, ?_⟩
    rw [List.splitOn_eq_singleton single', List.forall_mem_singleton, received,
      String.toList_ofList]
    exact fun last => absurd (Text.getLast?_dropTail last) (by decide)
  have field : '\n' ∉ "data: ".toList ++ data.toList := by
    rw [List.mem_append, not_or]
    exact ⟨by decide, single⟩
  have line : Text.dropTail (· == '\r') ("data: ".toList ++ data.toList) =
      "data: ".toList ++ (received data).toList := by
    simp [received, Text.dropTail_cons]
  -- the block differs from a written event in the carriage returns at the end of its line
  have split (cs : List Char) :
      encode (cs ++ ['\n', '\n']) = encode (cs ++ ['\n']) ++ encode ['\n'] := by
    rw [← encode_append, List.append_assoc]
    rfl
  have pushed := EventDecoder.push_write writable
  rw [EventScript.write_of_single single', split, EventDecoder.push_push] at pushed
  rw [dataBlock, split, EventDecoder.push_push, EventDecoder.push_dropTail rfl field, line, pushed]

/-- **Foreign events do not disturb a stream.** Between two events of a body, or in front of the
first or behind the last, a block with data that is foreign to the protocol makes no difference to
what the body delivers, however the body is cut into chunks and whether or not it breaks off. -/
theorem items_of_foreign_block (protocol : Protocol) (timeout : Duration)
    (fault : Option TransferFault) (single : '\n' ∉ data.toList)
    (unended : Text.trim data ≠ Delivery.sentinel) (foreign : protocol.Foreign data)
    {before after : List UInt8} (between : (EventDecoder.push {} before).2 = {})
    {chunks longer : List (List UInt8)} (body : chunks.flatten = before ++ after)
    (body' : longer.flatten = before ++ (dataBlock data ++ after)) :
    Delivery.items protocol.extractor timeout { chunks := longer, fault } =
      Delivery.items protocol.extractor timeout { chunks, fault } := by
  have skipped : protocol.extractor ⟨none, received data⟩ = .ok none :=
    extractor_of_irrelevant fun tree spelled => foreign.cases (spells_of_received spelled)
  have onward : Delivery.stops protocol.extractor ⟨none, received data⟩ = false := by
    simp [Delivery.stops, trim_received, unended, skipped, Except.isOk, Except.toBool]
  have silent : Delivery.text? protocol.extractor ⟨none, received data⟩ = none := by
    rw [Delivery.text?, skipped]
  -- what follows the block goes to a decoder that is as good as new, with or without the block
  have events : EventDecoder.eventsUntil {} longer.flatten fault =
      (EventDecoder.push {} before).1 ++
        ⟨none, received data⟩ :: EventDecoder.eventsUntil {} after fault := by
    rw [body', EventDecoder.eventsUntil, EventDecoder.push_push, between, EventDecoder.push_push,
      push_dataBlock single]
    simp [EventDecoder.eventsUntil]
  have events' : EventDecoder.eventsUntil {} chunks.flatten fault =
      (EventDecoder.push {} before).1 ++ EventDecoder.eventsUntil {} after fault := by
    rw [body, EventDecoder.eventsUntil, EventDecoder.push_push, between]
    simp [EventDecoder.eventsUntil]
  rw [Delivery.items_eq_walk, Delivery.items_eq_walk, events, events', Delivery.walk_append,
    Delivery.walk_append, Delivery.walk_cons_of_not_stops onward, silent]
  rfl

/-- An event with a number where the choices should be. -/
def misfit : Json :=
  .object [("choices", .integer (5 : Nat))]

/-- An event of another kind, with its tag behind. -/
def ping : Json :=
  .object [("delta", .null), ("type", .string "ping")]

/-- Data of another type, data with another tag, and what is not JSON with a carriage return behind
it, each between two events of a body that breaks off. -/
theorem items_of_foreign_block_kinds :
    let before := encode "data: \x7b\x7d\n\n".toList
    let after := encode "data: \x7b\"error\":\x7b\"message\":\"busy\"\x7d\x7d\n\n".toList
    let run (protocol : Protocol) (chunks : List (List UInt8)) :=
      Delivery.items protocol.extractor .zero { chunks, fault := some .broken }
    openAiCompatible.Foreign misfit.compact ∧ anthropic.Foreign ping.compact ∧
      gemini.Foreign "\x7boops\r" ∧
      run openAiCompatible [before, dataBlock misfit.compact, after] =
        run openAiCompatible [before ++ after] ∧
      run anthropic [before ++ dataBlock ping.compact, after] = run anthropic [before, after] ∧
      run gemini [before, dataBlock "\x7boops\r" ++ after] = run gemini [before, after] := by
  intro before after run
  have other : openAiCompatible.Foreign misfit.compact := by
    have spelled : misfit.Spelled := by
      simp only [misfit, Json.Spelled, Json.MembersSpelled]
      exact ⟨NumberToken.isNumeral_natural 5, trivial⟩
    have unread : (ChatCompletions.chunkShape.read {} (.ofJson misfit)).isOk = false := by
      decide +kernel
    refine .unfit (JsonText.spells_compact spelled) fun fits => ?_
    obtain ⟨chunk, read⟩ :=
      (ChatCompletions.reads_chunk.fits _ (JsonTree.formFault?_ofJson misfit spelled)).mpr fits
    rw [read] at unread
    cases unread
  have tagged : anthropic.Foreign ping.compact := by
    have spelled : ping.Spelled := by
      simp only [ping, Json.Spelled, Json.MembersSpelled, and_self]
    refine .otherTag rfl (JsonText.spells_compact spelled) ?_
    exact .object (List.mem_cons_of_mem _ List.mem_cons_self) (StringToken.read_ofText "type")
      (StringToken.read_ofText "ping") (by decide)
  have malformed : gemini.Foreign "\x7boops\r" := by
    refine .noJson fun tree spelled => ?_
    have faulty : (JsonText.scan "\x7boops\r").tree.formFault? = some .malformed := by
      decide +kernel
    obtain ⟨scanned, sound⟩ := JsonText.spells_iff.mp spelled
    rw [scanned, sound] at faulty
    cases faulty
  have between : (EventDecoder.push {} before).2 = {} := by decide +kernel
  refine ⟨other, tagged, malformed, ?_, ?_, ?_⟩
  · have body : [before ++ after].flatten = before ++ after := by simp
    exact items_of_foreign_block openAiCompatible .zero (some .broken) (by decide +kernel)
      (by decide +kernel) other between body (by simp)
  · have body : [before, after].flatten = before ++ after := by simp
    exact items_of_foreign_block anthropic .zero (some .broken) (by decide +kernel)
      (by decide +kernel) tagged between body (by simp)
  · have body : [before, after].flatten = before ++ after := by simp
    exact items_of_foreign_block gemini .zero (some .broken) (by decide +kernel)
      (by decide +kernel) malformed between body (by simp)

end Protocol

end Polyglot
