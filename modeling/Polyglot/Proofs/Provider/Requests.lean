import Polyglot.Conversion.Converter
import Polyglot.Proofs.Json.Acceptance
import Polyglot.Proofs.Json.Decimal

/-!
# Prompts in requests

A request carries its prompt whole and apart from everything else. The body is JSON, and what it is
read as is the frame of the protocol with the prompt in one place (`Protocol.frame`), whatever
characters the prompt holds. Nothing else in the frame depends on the prompt.
**`ModelSpec.requests_carry_prompt`** says so of the requests of a model, and of those that a
conversion sends, where the prompt ends with the code as it is.
-/

namespace Polyglot

namespace JsonTree

/-! ## Reading what is written -/

variable {depth : Nat} {key : String} {value read : Json} {items inner : List Json}
  {members fields : List (String × Json)}

theorem value_string (text : String) :
    (ofJson (.string text)).value depth = .ok (.string text) := by
  rw [ofJson, JsonTree.value, StringToken.read_ofText]
  rfl

theorem value_natural {n : Nat} (fits : n < 0x10000000000000000) :
    (ofJson (.integer n)).value depth = .ok (.integer n) := by
  have digits : (toString (n : Int)).toList = Nat.toDigits 10 n := Nat.toList_repr
  rw [ofJson, digits, JsonTree.value, NumberToken.read_toDigits fits]
  rfl

theorem value_array (deep : 1 < depth) (taken : values (depth - 1) (ofItems items) = .ok inner) :
    (ofJson (.array items)).value depth = .ok (.array inner) :=
  value_array_eq_ok_iff.mpr ⟨deep, rfl, inner, taken, rfl⟩

theorem value_object (deep : 1 < depth)
    (taken : memberValues (depth - 1) (ofMembers members) = .ok fields) :
    (ofJson (.object members)).value depth = .ok (.object fields) :=
  value_object_eq_ok_iff.mpr ⟨deep, rfl, fields, taken, rfl⟩

theorem values_singleton (taken : (ofJson value).value depth = .ok read) :
    values depth (ofItems [value]) = .ok [read] :=
  values_cons_eq_ok_iff.mpr ⟨read, [], taken, rfl, rfl⟩

theorem memberValues_cons (taken : (ofJson value).value depth = .ok read)
    (rest : memberValues depth (ofMembers members) = .ok fields) :
    memberValues depth (ofMembers ((key, value) :: members)) = .ok ((key, read) :: fields) :=
  memberValues_cons_eq_ok_iff.mpr
    ⟨key, read, fields, StringToken.read_ofText key, taken, rest, rfl⟩

end JsonTree

namespace Protocol

open JsonTree

/-! ## Frames -/

/-- What the body of a request is read as: one message of the user, whose text is the prompt, and
the settings. -/
def frame (protocol : Protocol) (model : String) (maxTokens : UInt32) (temperature : Json)
    (prompt : String) : Json :=
  match protocol with
  | openAiCompatible => .object [
      ("model", .string model),
      ("messages", .array [.object [("role", .string "user"), ("content", .string prompt)]]),
      ("stream", .bool true),
      ("temperature", temperature),
      ("max_tokens", .integer maxTokens.toNat)]
  | anthropic => .object [
      ("model", .string model),
      ("max_tokens", .integer maxTokens.toNat),
      ("temperature", temperature),
      ("messages", .array [.object [("role", .string "user"), ("content", .string prompt)]]),
      ("stream", .bool true)]
  | gemini => .object [
      ("contents", .array [.object [
        ("role", .string "user"),
        ("parts", .array [.object [("text", .string prompt)]])]]),
      ("generationConfig", .object [
        ("temperature", temperature),
        ("topP", .fraction false 1),
        ("topK", .integer 1),
        ("maxOutputTokens", .integer maxTokens.toNat)])]

variable {protocol : Protocol} {model prompt : String} {options : GenerationOptions}

/-- All numbers in a body are written as numerals. -/
theorem body_spelled (protocol : Protocol) (model prompt : String) (options : GenerationOptions) :
    (protocol.body model prompt options).Spelled := by
  have natural (n : Nat) : NumberToken.IsNumeral (toString (n : Int)).toList :=
    NumberToken.isNumeral_natural n
  have one : NumberToken.IsNumeral (toString (1 : Int)).toList := natural 1
  cases protocol with
  | openAiCompatible =>
    simp only [body, ChatCompletions.body, Json.Spelled, Json.MembersSpelled, Json.ItemsSpelled,
      Single.spelled_ofSingle, natural, and_self]
  | anthropic =>
    simp only [body, Messages.body, Json.Spelled, Json.MembersSpelled, Json.ItemsSpelled,
      Single.spelled_ofSingle, natural, and_self]
  | gemini =>
    simp only [body, GenerateContent.body, Json.Spelled, Json.MembersSpelled, Json.ItemsSpelled,
      Single.spelled_ofSingle, natural, one, and_self]

/-- The body is read as a frame. What stands for the temperature does not depend on the prompt. -/
theorem exists_frame (protocol : Protocol) (model : String) (options : GenerationOptions) :
    ∃ temperature, ∀ prompt,
      Json.read (protocol.body model prompt options).compact =
        .ok (protocol.frame model options.maxTokens temperature prompt) := by
  have tokens : options.maxTokens.toNat < 0x10000000000000000 :=
    options.maxTokens.toNat_lt.trans (by decide)
  have read (prompt : String) :=
    JsonText.readWith_compact (JsonTree.value JsonText.maxDepth)
      (body_spelled protocol model prompt options)
  -- each member is read for itself, in the order in which they stand
  cases protocol with
  | openAiCompatible =>
    obtain ⟨temperature, taken⟩ := Single.exists_value options.temperature
    refine ⟨temperature, fun prompt => (read prompt).trans ?_⟩
    refine value_object (by decide) ?_
    refine memberValues_cons (value_string model) ?_
    refine memberValues_cons (value_array (by decide) (values_singleton ?_)) ?_
    · refine value_object (by decide) ?_
      exact memberValues_cons (value_string "user") (memberValues_cons (value_string prompt) rfl)
    refine memberValues_cons rfl ?_
    refine memberValues_cons (taken _) ?_
    exact memberValues_cons (value_natural tokens) rfl
  | anthropic =>
    obtain ⟨temperature, taken⟩ :=
      Single.exists_value (options.temperature.capped Messages.highestTemperature)
    refine ⟨temperature, fun prompt => (read prompt).trans ?_⟩
    refine value_object (by decide) ?_
    refine memberValues_cons (value_string model) ?_
    refine memberValues_cons (value_natural tokens) ?_
    refine memberValues_cons (taken _) ?_
    refine memberValues_cons (value_array (by decide) (values_singleton ?_)) ?_
    · refine value_object (by decide) ?_
      exact memberValues_cons (value_string "user") (memberValues_cons (value_string prompt) rfl)
    exact memberValues_cons rfl rfl
  | gemini =>
    obtain ⟨temperature, taken⟩ := Single.exists_value options.temperature
    refine ⟨temperature, fun prompt => (read prompt).trans ?_⟩
    refine value_object (by decide) ?_
    refine memberValues_cons (value_array (by decide) (values_singleton ?_)) ?_
    · refine value_object (by decide) ?_
      refine memberValues_cons (value_string "user") ?_
      refine memberValues_cons (value_array (by decide) (values_singleton ?_)) rfl
      exact value_object (by decide) (memberValues_cons (value_string prompt) rfl)
    refine memberValues_cons (value_object (by decide) ?_) rfl
    refine memberValues_cons (taken _) ?_
    have one : (ofJson (.ofSingle .one)).value 126 = .ok (.fraction false 1) := by
      have numeral : (NumberToken.ofText (DecimalStyle.json.writeFinite false 1)).read =
          .ok (.double false 1) := by decide +kernel
      exact congrArg (Except.map JsonNumber.toJson) numeral
    refine memberValues_cons one ?_
    refine memberValues_cons (value_natural (show 1 < 0x10000000000000000 by decide)) ?_
    exact memberValues_cons (value_natural tokens) rfl

/-- The text is JSON, and it is read as the frame around the prompt. -/
structure Carries (protocol : Protocol) (model : String) (maxTokens : UInt32) (temperature : Json)
    (prompt text : String) : Prop where
  json : ∃ tree, JsonText.Spells text.toList tree
  decoded : Json.read text = .ok (protocol.frame model maxTokens temperature prompt)

end Protocol

/-! ## Requests -/

/-- The requests that are sent, in full: none without an address or with a key that cannot stand in
a header, and otherwise one, if somebody answers it. -/
theorem Provider.requests_eq (provider : Provider) (model key : String) (transport : Transport)
    (prompt : String) (options : GenerationOptions) :
    (provider.ask model key transport prompt options).requests =
      match provider.protocol.url? provider.baseUrl model with
      | none => []
      | some url =>
        let request := provider.request url model key prompt options
        if isHeaderValue key ∧ (transport url.authority request).isSome then [request] else [] := by
  unfold ask exchange?
  cases provider.protocol.url? provider.baseUrl model with
  | none => rfl
  | some url =>
    cases writable : isHeaderValue key with
    | false => simp
    | true =>
      cases answered : transport url.authority (provider.request url model key prompt options) with
      | none => simp [answered]
      | some response => simp [answered]

/-- The body of a request that is sent is the one of the protocol. -/
theorem Provider.body_of_mem_requests {provider : Provider} {model key prompt : String}
    {transport : Transport} {options : GenerationOptions} {request : HttpRequest}
    (mem : request ∈ (provider.ask model key transport prompt options).requests) :
    request.body = (provider.protocol.body model prompt options).compact := by
  rw [requests_eq] at mem
  split at mem
  · cases mem
  · dsimp only at mem
    split at mem
    · rw [List.mem_singleton.mp mem]
      rfl
    · cases mem

/-- A conversion calls nobody and sends nothing, or it calls the selected backend with the prompt
that is rendered, and sends what the backend sends. -/
theorem Converter.calls_of_select {converter : Converter} {conversion : ConversionRequest}
    {name : String} {backend : Backend}
    (selected : converter.select? conversion.model = some (name, .ready backend)) :
    ((converter.convert conversion).calls = [] ∧ (converter.convert conversion).requests = []) ∨
    let prompt := renderPrompt conversion.source conversion.target conversion.code
    let options := converter.optionsFor conversion
    (converter.convert conversion).calls = [⟨backend.name, prompt, options⟩] ∧
      (converter.convert conversion).requests = (backend.answer prompt options).requests := by
  unfold convert convertObserved
  simp only [selected]
  split
  · exact .inl ⟨rfl, rfl⟩
  · split
    · exact .inl ⟨rfl, rfl⟩
    · exact .inr ⟨rfl, rfl⟩

/-- A prompt ends with the code as it is, and a line feed. -/
theorem exists_preface (source target : String) :
    ∃ preface, ∀ code, renderPrompt source target code = preface ++ code ++ "\n" :=
  ⟨_, fun _ => rfl⟩

/-- **Requests carry their prompts.** Whatever the prompt is, the body of the request is JSON and is
read as the frame of the protocol around this prompt, with the model and the number of tokens that
were asked for. It is sent if the address can be read, the key can stand in a header and somebody
answers. In a conversion the prompt is the one that is rendered, and it ends with the code. -/
theorem ModelSpec.requests_carry_prompt (spec : ModelSpec) (options : GenerationOptions) :
    ∃ temperature : Json,
      (∀ key transport prompt,
        ∀ request ∈ ((spec.backend key transport).answer prompt options).requests,
          spec.provider.protocol.Carries spec.modelId options.maxTokens temperature prompt
            request.body) ∧
      (∀ key prompt url,
        spec.provider.protocol.url? spec.provider.baseUrl spec.modelId = some url →
        isHeaderValue key →
        ∃ request : HttpRequest, request.scheme = url.scheme ∧ request.target = url.target ∧
          spec.provider.protocol.Carries spec.modelId options.maxTokens temperature prompt
            request.body ∧
          ∀ transport, ((spec.backend key transport).answer prompt options).requests =
            if (transport url.authority request).isSome then [request] else []) ∧
      ∀ (converter : Converter) (conversion : ConversionRequest) name key transport,
        converter.select? conversion.model = some (name, .ready (spec.backend key transport)) →
        converter.optionsFor conversion = options →
        ∃ preface, renderPrompt conversion.source conversion.target conversion.code =
            preface ++ conversion.code ++ "\n" ∧
          ((converter.convert conversion).calls = [] ∧
              (converter.convert conversion).requests = [] ∨
            (converter.convert conversion).calls =
                [⟨spec.modelId, preface ++ conversion.code ++ "\n", options⟩] ∧
              (converter.convert conversion).requests =
                ((spec.backend key transport).answer (preface ++ conversion.code ++ "\n")
                  options).requests) ∧
          ∀ request ∈ (converter.convert conversion).requests,
            spec.provider.protocol.Carries spec.modelId options.maxTokens temperature
              (preface ++ conversion.code ++ "\n") request.body := by
  obtain ⟨temperature, decoded⟩ := spec.provider.protocol.exists_frame spec.modelId options
  have carries {prompt body : String}
      (written : body = (spec.provider.protocol.body spec.modelId prompt options).compact) :
      spec.provider.protocol.Carries spec.modelId options.maxTokens temperature prompt body := by
    rw [written]
    exact ⟨⟨_, JsonText.spells_compact (spec.provider.protocol.body_spelled _ _ _)⟩, decoded prompt⟩
  refine ⟨temperature, fun _ _ _ _ mem => carries (Provider.body_of_mem_requests mem), ?_, ?_⟩
  · intro key prompt url address writable
    refine ⟨spec.provider.request url spec.modelId key prompt options, rfl, rfl, carries rfl,
      fun transport => ?_⟩
    simp only [backend, Provider.requests_eq, address, writable, true_and]
  · intro converter conversion name key transport selected same
    obtain ⟨preface, rendered⟩ := exists_preface conversion.source conversion.target
    have called := Converter.calls_of_select selected
    simp only [rendered, same] at called
    refine ⟨preface, rendered conversion.code, called, fun request mem => ?_⟩
    obtain ⟨-, nothing⟩ | ⟨-, sent⟩ := called
    · rw [nothing] at mem
      cases mem
    · rw [sent] at mem
      exact carries (Provider.body_of_mem_requests mem)

/-- All models on offer have an address. -/
theorem ModelSpec.exists_url_of_mem_stock :
    ∀ spec ∈ stock, ∃ url, spec.provider.protocol.url? spec.provider.baseUrl spec.modelId =
      some url ∧ url.scheme = .https := by
  intro spec mem
  simp only [stock, List.mem_cons, List.not_mem_nil, or_false] at mem
  rcases mem with rfl | rfl | rfl | rfl | rfl <;> exact ⟨_, rfl, rfl⟩

/-- A model of messages whose identifier has quotes. -/
def quotedModel : ModelSpec where
  name := "Claude"
  provider := { protocol := .anthropic, baseUrl := "https://api.anthropic.com/v1/" }
  modelId := "\"claude\""
  apiKeyVariable := "KEY"

/-- Code with quotes, a backslash, a control character and braces, and a temperature that is too
high. -/
theorem ModelSpec.requests_carry_prompt_quoted :
    ∃ registry, Registry.ofDefinitions
        [{ name := "Beta", fileExtension := "b", markers := ["y"], signature := "y" }] =
          .ok registry ∧
      let fresh : Converter := { registry, options := { temperature := .ofRat 2 } }
      let transport : Transport := fun _ _ => some {}
      let converter := fresh.withBackend "Claude" (quotedModel.backend "secret" transport)
      let conversion : ConversionRequest :=
        { code := "y = \"\\\x01\x7b\x7d", source := "Beta", target := "C", model := " claude " }
      ∃ request temperature, (converter.convert conversion).requests = [request] ∧
        request.scheme = .https ∧ request.target = "/v1/messages" ∧
        Json.read request.body = .ok (.object [
          ("model", .string "\"claude\""),
          ("max_tokens", .integer 4000),
          ("temperature", temperature),
          ("messages", .array [.object [
            ("role", .string "user"),
            ("content", .string (renderPrompt "Beta" "C" "y = \"\\\x01\x7b\x7d"))]]),
          ("stream", .bool true)]) := by
  refine ⟨_, rfl, ?_⟩
  intro fresh transport converter conversion
  have selected : converter.select? conversion.model =
      some ("Claude", .ready (quotedModel.backend "secret" transport)) := by
    have key : Text.lowercase (Text.trim " claude ") = Text.lowercase "Claude" := by
      decide
    rw [Converter.select?, key]
    exact List.lookup_cons_self
  have called : (converter.convert conversion).calls ≠ [] := by decide
  obtain ⟨temperature, -, sending, carried⟩ := quotedModel.requests_carry_prompt fresh.options
  obtain ⟨preface, rendered, calls, -⟩ :=
    carried converter conversion "Claude" "secret" transport selected rfl
  obtain ⟨request, scheme, target, carries, sent⟩ :=
    sending "secret" (preface ++ conversion.code ++ "\n") _ rfl (by decide)
  obtain ⟨nobody, -⟩ | ⟨-, requests⟩ := calls
  · exact absurd nobody called
  · have decoded := carries.decoded
    rw [← rendered] at decoded
    exact ⟨request, temperature, requests.trans (sent transport), scheme, target, decoded⟩

end Polyglot
