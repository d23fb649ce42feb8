import Polyglot.Proofs.Json.Reordering
import Polyglot.Provider.Adapter

/-!
# The order of members in events

No adapter minds in which order the members of the objects in an event stand. The records of chat
completions and of generated content are read alike in any order. An event of messages is read as a
value, whose tag and fields are looked up by name, so that a tag may stand in front of the fields
that it governs or behind them (`Messages.orderFree_extractValue`).
**`Protocol.extractor_of_reordered`** says so of all three, for any number of reorderings anywhere
in the data.
-/

namespace Polyglot

open JsonTree (OrderFree)

/-! ## Types of events -/

theorem ChatCompletions.orderFree_chunk : OrderFree (chunkShape.read {}) := by
  have text : OrderFree JsonTree.text := JsonTree.orderFree_text
  have delta : OrderFree (deltaShape.read none) :=
    (RecordShape.orderFree_singleton fun _ => text.nullable.map _).read none
  have choice : OrderFree (choiceShape.read none) :=
    (RecordShape.orderFree_singleton fun _ => delta.map _).read none
  have error : OrderFree (errorShape.read "") :=
    (RecordShape.orderFree_singleton fun _ => text.map _).read ""
  have chunk : RecordShape.OrderFree chunkShape :=
    RecordShape.orderFree_pair (fun _ _ => rfl) (fun _ _ => rfl) choice.list error.nullable
      fun _ _ _ => rfl
  exact chunk.read {}

theorem GenerateContent.orderFree_chunk : OrderFree (chunkShape.read {}) := by
  have text : OrderFree JsonTree.text := JsonTree.orderFree_text
  have part : OrderFree (partShape.read none) :=
    (RecordShape.orderFree_singleton fun _ => text.nullable.map _).read none
  have content : OrderFree (contentShape.read []) :=
    (RecordShape.orderFree_singleton fun _ => part.list.map _).read []
  have candidate : OrderFree (candidateShape.read none) :=
    (RecordShape.orderFree_singleton fun _ => content.nullable.map _).read none
  have error : OrderFree (errorShape.read "") :=
    (RecordShape.orderFree_singleton fun _ => text.map _).read ""
  have chunk : RecordShape.OrderFree chunkShape :=
    RecordShape.orderFree_pair (fun _ _ => rfl) (fun _ _ => rfl) candidate.list error.nullable
      fun _ _ _ => rfl
  exact chunk.read {}

/-! ## Events of messages -/

namespace Messages

variable {value other : Json} {body body' : TaggedBody}

/-- Whoever minds no order makes the same of a field of a reordered body. -/
theorem bind_field?_of_alike {β : Type} {f : Json → Option β} (free : Json.OrderFree f)
    (name : String) (alike : Json.Alike body.whole body'.whole) :
    (body.field? name).bind f = (body'.field? name).bind f := by
  have looked := TaggedBody.field?_of_alike name alike
  generalize body.field? name = field, body'.field? name = field' at looked ⊢
  cases looked with
  | none => rfl
  | some alike =>
    cases alike with
    | refl => rfl
    | single step => exact free _ _ step

/-- Tags and bodies that are the same or reordered. -/
structure TaggedAlike (first second : Json × TaggedBody) : Prop where
  tags : Json.Alike first.1 second.1
  bodies : Json.Alike first.2.whole second.2.whole

/-- The tag and the body of a reordered value are reordered, if anything. -/
theorem tagged?_of_reordering (step : value.Reordering other) :
    Option.Rel TaggedAlike (tagged? value) (tagged? other) := by
  have objects {members others : List (String × Json)}
      (step : Json.Reordering (.object members) (.object others)) :
      Option.Rel TaggedAlike (tagged? (.object members)) (tagged? (.object others)) := by
    have tags := TaggedBody.onlyMember?_of_reordering "type" step
    have bodies := TaggedBody.alike_filter "type" step
    simp only [tagged?]
    generalize TaggedBody.onlyMember? "type" members = tag,
      TaggedBody.onlyMember? "type" others = tag' at tags ⊢
    cases tags with
    | none => exact .none
    | some alike => exact .some ⟨alike, bodies⟩
  cases step with
  | members perm => exact objects (.members perm)
  | value inner => exact objects (.value inner)
  | @item before after value other inner =>
    cases before with
    | nil => exact .some ⟨.single inner, .refl⟩
    | cons tag before => exact .some ⟨.refl, .single (.item inner)⟩

/-- The text that was looked up, if it was one. -/
def text? : Option Json → Option String
  | some (.string text) => some text
  | _ => none

/-- A text has only one order. -/
theorem text?_of_alike {field field' : Option Json} (alike : Option.Rel Json.Alike field field') :
    text? field = text? field' := by
  cases alike with
  | none => rfl
  | some alike =>
    cases alike with
    | refl => rfl
    | single step => cases step <;> rfl

/-- An error report is its only field. -/
theorem errorMessage?_whole (body : TaggedBody) :
    errorMessage? body.whole = text? (body.field? "message") := by
  cases body with
  | object members => rfl
  | array items =>
    match items with
    | [] => rfl
    | [value] => cases value <;> rfl
    | value :: _ :: _ => cases value <;> rfl

theorem orderFree_errorMessage? : Json.OrderFree errorMessage? := by
  have whole (body body' : TaggedBody) (step : body.whole.Reordering body'.whole) :
      errorMessage? body.whole = errorMessage? body'.whole := by
    rw [errorMessage?_whole, errorMessage?_whole]
    exact text?_of_alike (TaggedBody.field?_of_alike "message" (.single step))
  intro value other step
  cases step with
  | members perm => exact whole (.object _) (.object _) (.members perm)
  | value inner => exact whole (.object _) (.object _) (.value inner)
  | item inner => exact whole (.array _) (.array _) (.item inner)

theorem orderFree_deltaText? : Json.OrderFree deltaText? := by
  intro value other step
  have tagged := tagged?_of_reordering step
  unfold deltaText?
  generalize tagged? value = first, tagged? other = second at tagged ⊢
  cases tagged with
  | none => rfl
  | @some first second alike =>
    obtain ⟨tag, body⟩ := first
    obtain ⟨tag', body'⟩ := second
    obtain ⟨tags, bodies⟩ := alike
    have texts : text? (body.field? "text") = text? (body'.field? "text") :=
      text?_of_alike (TaggedBody.field?_of_alike "text" bodies)
    cases tags with
    | refl => exact congrArg (fun text => if marksText tag then text else none) texts
    | single step => cases step <;> rfl

/-- **Events of messages.** No order of the members makes a difference, not even to where the tags
stand. -/
theorem orderFree_extractValue : Json.OrderFree extractValue := by
  intro value other step
  have tagged := tagged?_of_reordering step
  unfold extractValue
  generalize tagged? value = first, tagged? other = second at tagged ⊢
  cases tagged with
  | none => rfl
  | @some first second alike =>
    obtain ⟨tag, body⟩ := first
    obtain ⟨tag', body'⟩ := second
    obtain ⟨tags, bodies⟩ := alike
    -- a tag in which something changes places is no text and names no kind of event
    cases tags with
    | refl =>
      split
      · next found =>
        cases found
        exact congrArg Except.ok (bind_field?_of_alike orderFree_deltaText? "delta" bodies)
      · next found =>
        cases found
        simp only [bind_field?_of_alike orderFree_errorMessage? "error" bodies]
      · next others others' =>
        split
        · next found =>
          cases found
          exact absurd rfl (others _)
        · next found =>
          cases found
          exact absurd rfl (others' _)
        · rfl
    | single step => cases step <;> rfl

/-- So it is for the values of trees. -/
theorem orderFree_value (depth : Nat) :
    OrderFree fun tree => (tree.value depth).map extractValue := by
  intro tree other result step read
  cases found : tree.value depth with
  | error fault =>
    simp only [found] at read
    cases read
  | ok value =>
    obtain ⟨value', found', step'⟩ := JsonTree.value_of_reordering step depth value found
    simp only [found] at read
    simp only [found']
    rw [← read]
    exact congrArg Except.ok (orderFree_extractValue value value' step').symm

theorem extract_eq (event : Event) :
    extract event = ((Json.read event.data).map extractValue).toOption.getD (.ok none) := by
  unfold extract
  cases Json.read event.data <;> rfl

end Messages

/-! ## Events -/

namespace Protocol

variable {tree other : JsonTree} {event event' : Event}

/-- **The order of members does not matter.** An event is extracted like any other one whose data
spells the same tree but for the order of the members in some of its objects. -/
theorem extractor_of_reordered (protocol : Protocol)
    (spelled : JsonText.Spells event.data.toList tree)
    (spelled' : JsonText.Spells event'.data.toList other)
    (run : Relation.ReflTransGen JsonTree.Reordering tree other) :
    protocol.extractor event' = protocol.extractor event := by
  cases protocol with
  | openAiCompatible =>
    have same := ChatCompletions.orderFree_chunk.toOption_eq run
    rw [extractor, ChatCompletions.extract, ChatCompletions.extract,
      JsonText.readWith_of_spells _ spelled, JsonText.readWith_of_spells _ spelled']
    generalize ChatCompletions.chunkShape.read {} tree = read,
      ChatCompletions.chunkShape.read {} other = read' at same ⊢
    cases read <;> cases read' <;> cases same <;> rfl
  | gemini =>
    have same := GenerateContent.orderFree_chunk.toOption_eq run
    rw [extractor, GenerateContent.extract, GenerateContent.extract,
      JsonText.readWith_of_spells _ spelled, JsonText.readWith_of_spells _ spelled']
    generalize GenerateContent.chunkShape.read {} tree = read,
      GenerateContent.chunkShape.read {} other = read' at same ⊢
    cases read <;> cases read' <;> cases same <;> rfl
  | anthropic =>
    -- the values are not the same, but what is extracted from them is
    have same := (Messages.orderFree_value JsonText.maxDepth).toOption_eq run
    rw [extractor, Messages.extract_eq, Messages.extract_eq, Json.read, Json.read,
      JsonText.readWith_of_spells _ spelled, JsonText.readWith_of_spells _ spelled', same]

/-- A delta of a text, with the tags in front. -/
def tagsAhead : Json :=
  .object [("type", .string "content_block_delta"),
    ("delta", .object [("type", .string "text_delta"), ("text", .string "Hi")])]

/-- The same with both tags behind the fields that they govern. -/
def tagsBehind : Json :=
  .object [("delta", .object [("text", .string "Hi"), ("type", .string "text_delta")]),
    ("type", .string "content_block_delta")]

/-- Tags behind the fields are found as well. -/
theorem extractor_of_reordered_tags :
    anthropic.extractor ⟨none, tagsBehind.compact⟩ =
        anthropic.extractor ⟨some "content_block_delta", tagsAhead.compact⟩ ∧
      anthropic.extractor ⟨some "content_block_delta", tagsAhead.compact⟩ = .ok (some "Hi") := by
  have spelled : tagsAhead.Spelled := by
    simp only [tagsAhead, Json.Spelled, Json.MembersSpelled, and_self]
  have spelled' : tagsBehind.Spelled := by
    simp only [tagsBehind, Json.Spelled, Json.MembersSpelled, and_self]
  have inner : JsonTree.Reordering
      (.ofJson (.object [("type", .string "text_delta"), ("text", .string "Hi")]))
      (.ofJson (.object [("text", .string "Hi"), ("type", .string "text_delta")])) :=
    .members (.swap _ _ _)
  have replaced : JsonTree.Reordering (.ofJson tagsAhead) _ :=
    @JsonTree.Reordering.value [_] [] _ _ _ none inner
  have run : Relation.ReflTransGen JsonTree.Reordering (.ofJson tagsAhead) (.ofJson tagsBehind) :=
    .tail (.single replaced) (.members (.swap _ _ _))
  refine ⟨?_, by decide +kernel⟩
  exact anthropic.extractor_of_reordered (JsonText.spells_compact spelled)
    (JsonText.spells_compact spelled') run

end Protocol

end Polyglot
