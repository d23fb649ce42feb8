import Polyglot.Proofs.Conversion.Registration
import Polyglot.Proofs.Text.Lowercase

/-!
# The gate before a backend

Nobody is asked to convert a snippet before the request has passed every check: nothing in it is
blank, the snippet passes for its language, and the latest registration under the model's name is
a backend. `Admitted` says so of a request and the backend that it reaches, `Refused` lists the
results of all other requests in the order of the checks, and **`convert_gated`** says of every
converter and every request that it is one or the other, and which backend is asked what.
-/

namespace Polyglot

variable {request : ConversionRequest}

/-! ## Requests -/

/-- Nothing that is needed is blank. -/
structure ConversionRequest.Complete (request : ConversionRequest) : Prop where
  code : Text.trim request.code ≠ ""
  source : Text.trim request.source ≠ ""
  target : Text.trim request.target ≠ ""
  model : Text.trim request.model ≠ ""

theorem ConversionRequest.isComplete_iff : request.isComplete = true ↔ request.Complete := by
  rw [isComplete, Bool.not_eq_true', ← Bool.not_eq_true]
  simp only [Bool.or_eq_true, Text.allBlank_iff, not_or]
  constructor
  · rintro ⟨⟨⟨code, source⟩, target⟩, model⟩
    exact ⟨code, source, target, model⟩
  · rintro ⟨code, source, target, model⟩
    exact ⟨⟨⟨code, source⟩, target⟩, model⟩

/-- A mismatch is always explained. -/
theorem Validation.explanation_mismatch_ne_empty (detected : Option Language)
    (expected : Language) : (mismatch detected expected).explanation ≠ "" := by
  intro nothing
  unfold explanation at nothing
  simp only [String.append_eq_empty_iff] at nothing
  exact absurd nothing.2 (by decide)

namespace Converter

variable {converter : Converter} {entries : List (String × Slot)} {name : String}
  {backend : Backend} {result : Except ConvertError ConversionOutcome}

/-! ## Verdicts -/

/-- The request passes every check and reaches a backend. -/
structure Admitted (converter : Converter) (entries : List (String × Slot))
    (request : ConversionRequest) (name : String) (backend : Backend) : Prop where
  complete : request.Complete
  valid : converter.registry.validate request.code request.source = .valid
  ready : latest? (Text.lowercase (Text.trim request.model)) entries = some (name, .ready backend)

/-- The result of a request that fails a check; the first check that fails decides. -/
inductive Refused (converter : Converter) (entries : List (String × Slot))
    (request : ConversionRequest) : Except ConvertError ConversionOutcome → Prop
  | skipped (incomplete : ¬ request.Complete) : Refused converter entries request (.ok .skipped)
  | rejected {detected : Option Language} {expected : Language} (complete : request.Complete)
      (mismatch : converter.registry.validate request.code request.source =
        .mismatch detected expected)
      (explained : (Validation.mismatch detected expected).explanation ≠ "") :
      Refused converter entries request
        (.ok (.rejected (Validation.mismatch detected expected).explanation))
  | unavailable {name keyVariable : String} (complete : request.Complete)
      (valid : converter.registry.validate request.code request.source = .valid)
      (keyless : latest? (Text.lowercase (Text.trim request.model)) entries =
        some (name, .missingKey keyVariable)) :
      Refused converter entries request (.error (.modelUnavailable name keyVariable))
  | unsupported (complete : request.Complete)
      (valid : converter.registry.validate request.code request.source = .valid)
      (unknown : latest? (Text.lowercase (Text.trim request.model)) entries = none) :
      Refused converter entries request (.error (.unsupportedModel request.model))

/-- No request is refused and admitted. -/
theorem Refused.not_admitted (refused : Refused converter entries request result) :
    ¬ Admitted converter entries request name backend := by
  intro admitted
  cases refused with
  | skipped incomplete => exact incomplete admitted.complete
  | rejected _ mismatch _ => cases admitted.valid.symm.trans mismatch
  | unavailable _ _ keyless => cases admitted.ready.symm.trans keyless
  | unsupported _ _ unknown => cases admitted.ready.symm.trans unknown

/-! ## Conversions -/

/-- Only the temperature may be the request's own. -/
theorem optionsFor_eq (converter : Converter) (request : ConversionRequest) :
    converter.optionsFor request =
      { converter.options with
        temperature := request.temperature.getD converter.options.temperature } := by
  unfold optionsFor
  cases request.temperature with
  | none => rfl
  | some temperature => rfl

/-- An admitted request is put to its backend, and a refused one has its result at once; the
observer is told nothing of it. -/
theorem convertObserved_cases {σ : Type} (built : Built converter entries)
    (request : ConversionRequest) (observer : Option (Observer σ)) (seen : σ) :
    (∃ name backend, Admitted converter entries request name backend ∧
      converter.convertObserved request observer seen =
        converter.ask request backend observer seen) ∨
    ∃ result, Refused converter entries request result ∧
      converter.convertObserved request observer seen = { result, seen } := by
  have selected := select?_of_built built request.model
  -- the checks are made in turn, and the first that fails decides the refusal
  by_cases complete : request.isComplete = true
  · have incomplete : ¬ (!request.isComplete) = true := by simp [complete]
    rw [convertObserved, if_neg incomplete]
    rw [ConversionRequest.isComplete_iff] at complete
    cases validated : converter.registry.validate request.code request.source with
    | mismatch detected expected =>
      refine .inr ⟨_, .rejected complete validated ?_, rfl⟩
      exact Validation.explanation_mismatch_ne_empty detected expected
    | valid =>
      cases slot : converter.select? request.model with
      | none => exact .inr ⟨_, .unsupported complete validated (selected.symm.trans slot), rfl⟩
      | some found =>
        obtain ⟨name, slot'⟩ := found
        cases slot' with
        | missingKey keyVariable =>
          exact .inr ⟨_, .unavailable complete validated (selected.symm.trans slot), rfl⟩
        | ready backend =>
          exact .inl ⟨name, backend, ⟨complete, validated, selected.symm.trans slot⟩, rfl⟩
  · have incomplete : (!request.isComplete) = true := by simpa using complete
    rw [convertObserved, if_pos incomplete]
    rw [ConversionRequest.isComplete_iff] at complete
    exact .inr ⟨_, .skipped complete, rfl⟩

/-- An admitted request is put to its backend, and a refused one to nobody. -/
theorem convert_cases (built : Built converter entries) (request : ConversionRequest) :
    (∃ name backend, Admitted converter entries request name backend ∧
      (converter.convert request).calls =
        [⟨backend.name, renderPrompt request.source request.target request.code,
          converter.optionsFor request⟩] ∧
      (converter.convert request).requests =
        (backend.answer (renderPrompt request.source request.target request.code)
          (converter.optionsFor request)).requests) ∨
    ∃ result, Refused converter entries request result ∧
      converter.convert request = { result } := by
  rcases convertObserved_cases built request (some record) [] with
    ⟨name, backend, admitted, asked⟩ | ⟨result, refused, answered⟩
  · refine .inl ⟨name, backend, admitted, ?_, ?_⟩
    · rw [convert, asked]
      rfl
    · rw [convert, asked]
      rfl
  · refine .inr ⟨result, refused, ?_⟩
    rw [convert, answered]

/-- A backend is called at most once, and only for a request that passes every check: it is then the
one registered latest under the model's name, asked for the request's own languages and code as they
are, with the code before the final line feed. All other requests end in the result of the first
check that they fail. -/
theorem convert_gated (built : Built converter entries) (request : ConversionRequest) :
    (converter.convert request).calls.length ≤ 1 ∧
    ((converter.convert request).calls ≠ [] ↔
      ∃ name backend, Admitted converter entries request name backend) ∧
    (∀ name backend, Admitted converter entries request name backend →
      let prompt := renderPrompt request.source request.target request.code
      let options := { converter.options with
        temperature := request.temperature.getD converter.options.temperature }
      prompt = "Convert the following " ++ request.source ++ " code to " ++ request.target ++
          ".\n" ++ promptRules request.target ++ "\n" ++ request.source ++ " code:\n" ++
          request.code ++ "\n" ∧
        (converter.convert request).calls = [⟨backend.name, prompt, options⟩] ∧
        (converter.convert request).requests = (backend.answer prompt options).requests) ∧
    ((¬ ∃ name backend, Admitted converter entries request name backend) →
      (converter.convert request).calls = [] ∧ (converter.convert request).requests = [] ∧
        (converter.convert request).progress = [] ∧
        Refused converter entries request (converter.convert request).result) := by
  simp only [← optionsFor_eq]
  rcases convert_cases built request with
    ⟨name, backend, admitted, called, requested⟩ | ⟨result, refused, answered⟩
  · refine ⟨by simp [called], by simpa [called] using ⟨name, backend, admitted⟩, ?_, ?_⟩
    · intro name' backend' admitted'
      -- the slot of a name holds one backend only
      cases admitted'.ready.symm.trans admitted.ready
      exact ⟨rfl, called, requested⟩
    · intro nobody
      exact absurd ⟨name, backend, admitted⟩ nobody
  · rw [answered]
    refine ⟨Nat.zero_le _, ?_, ?_, fun _ => ⟨rfl, rfl, rfl, refused⟩⟩
    · constructor
      · intro called
        exact absurd rfl called
      · rintro ⟨name, backend, admitted⟩
        exact absurd admitted refused.not_admitted
    · intro name backend admitted
      exact absurd admitted refused.not_admitted

/-- A backend that answers with its prompt. -/
def echo (name : String) : Backend where
  name
  answer prompt _ := { items := [.ok prompt] }

/-- Two backends under one name, and snippets of a language that must contain a `y`. -/
theorem convert_gated_replaced :
    ∃ registry, Registry.ofDefinitions
        [{ name := "Beta", fileExtension := "b", markers := ["y"], signature := "y" }] =
          .ok registry ∧
      let fresh : Converter := { registry, options := {} }
      let converter := (fresh.withBackend "GPT" (echo "first")).withBackend "gpt" (echo "second")
      Built converter [("GPT", .ready (echo "first")), ("gpt", .ready (echo "second"))] ∧
        (converter.convert ⟨"y", "Beta", "C", " Gpt ", none⟩).calls =
          [⟨"second", renderPrompt "Beta" "C" "y", {}⟩] ∧
        (converter.convert ⟨"x", "Beta", "C", " Gpt ", none⟩).calls = [] := by
  refine ⟨_, rfl, ?_⟩
  intro fresh converter
  have built : Built converter [("GPT", .ready (echo "first")), ("gpt", .ready (echo "second"))] :=
    ((Built.fresh _ _).registered "GPT" (echo "first")).registered "gpt" (echo "second")
  have key : Text.lowercase (Text.trim " Gpt ") = Text.lowercase "gpt" := by decide
  have passes : converter.registry.validate "y" "Beta" = .valid := by decide
  have fails : (converter.registry.validate "x" "Beta").isValid = false := by decide
  refine ⟨built, ?_, ?_⟩
  · obtain ⟨-, -, asked, -⟩ := convert_gated built ⟨"y", "Beta", "C", " Gpt ", none⟩
    refine (asked "gpt" (echo "second") ⟨⟨?_, ?_, ?_, ?_⟩, passes, ?_⟩).2.1
    · decide
    · decide
    · decide
    · decide
    · rw [key]
      exact (latest?_append_singleton _ [_] "gpt" _).trans (if_pos rfl)
  · obtain ⟨-, -, -, refused⟩ := convert_gated built ⟨"x", "Beta", "C", " Gpt ", none⟩
    refine (refused ?_).1
    rintro ⟨name, backend, -, valid, -⟩
    rw [valid] at fails
    cases fails

end Converter

end Polyglot
