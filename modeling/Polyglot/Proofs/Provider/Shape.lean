import Mathlib.Order.WellFounded
import Polyglot.Proofs.Provider.Delivery
import Polyglot.Proofs.Text.Lines
import Polyglot.Provider.Adapter

/-!
# The shape of an answer

Whoever is asked, and whatever comes back, an answer is made of texts that are not empty, with one
error behind them at most (`Shaped`). That of a delivery has this shape since a walk over events has
it (`shaped_walk`), and it comes to an end since every turn leaves less to do (`no_endless_run`).
An error status is not read as a delivery at all: it comes to one error with an excerpt of the
response, or to a timeout if the head of the response is late. **`Provider.ask_shaped`** says all
this of every provider and every transport.
-/

namespace Polyglot

/-- Texts that are not empty, and behind them one error at most. -/
def Shaped (items : List StreamItem) : Prop :=
  ∃ (texts : List String) (error : Option BackendError),
    (∀ text ∈ texts, text ≠ "") ∧ items = texts.map .ok ++ (error.map .error).toList

theorem Shaped.error (error : BackendError) : Shaped [.error error] :=
  ⟨[], some error, fun _ mem => absurd mem List.not_mem_nil, rfl⟩

namespace Delivery

variable {extract : Extractor} {timeout : Duration} {event : Event} {text : String}
  {response : HttpResponse}

/-! ## Deliveries -/

/-- The text of an event is not empty. -/
theorem ne_empty_of_text? (found : text? extract event = some text) : text ≠ "" := by
  unfold text? at found
  split at found
  · next other _ =>
    split at found
    · cases found
    · next filled =>
      cases found
      rintro rfl
      exact filled rfl
  · cases found

theorem shaped_walk (extract : Extractor) (failure : Option BackendError) (events : List Event) :
    Shaped (walk extract failure events) := by
  refine ⟨_, _, ?_, rfl⟩
  intro text mem
  obtain ⟨event, -, found⟩ := List.mem_filterMap.mp mem
  exact ne_empty_of_text? found

/-- Turn after turn, a delivery comes to its end. -/
theorem no_endless_run (extract : Extractor) (timeout : Duration) (run : Nat → Delivery) :
    ¬ ∀ n, ∃ item, (run n).turn? extract timeout = some (item, run (n + 1)) := by
  intro endless
  have descends (n : Nat) :
      Prod.Lex (· < ·) (Prod.Lex (· < ·) (· < ·)) (run (n + 1)).work (run n).work := by
    obtain ⟨item, turn⟩ := endless n
    exact turn?_work turn
  have ends : WellFounded (Prod.Lex (· < ·) (Prod.Lex (· < ·) (· < ·)) :
      Nat × Nat × Nat → Nat × Nat × Nat → Prop) :=
    WellFoundedRelation.wf
  exact (wellFounded_iff_isEmpty_descending_chain.mp ends).false ⟨fun n => (run n).work, descends⟩

/-! ## Responses -/

theorem shaped_ofResponse (extract : Extractor) (timeout : Duration) (response : HttpResponse) :
    Shaped (ofResponse extract timeout response) := by
  unfold ofResponse
  split
  · exact .error _
  · split
    · rw [items_eq_walk]
      exact shaped_walk _ _ _
    · exact .error _

/-- A response whose head is late comes to a timeout, whatever its status. -/
theorem ofResponse_of_late (extract : Extractor) (late : response.isPrompt timeout = false) :
    ofResponse extract timeout response = [.error (.timeout timeout)] := by
  rw [ofResponse, late]
  rfl

/-- An error status comes to one error, with an excerpt of the response. -/
theorem ofResponse_of_failure (extract : Extractor) (head : response.isPrompt timeout)
    (failed : response.isSuccess = false) :
    ofResponse extract timeout response =
      [.error (.status response.status
        (Text.preview (response.text timeout) errorBodyLimit))] := by
  rw [ofResponse, head, failed]
  rfl

/-- No extractor makes a difference to that. -/
theorem ofResponse_congr (failed : response.isSuccess = false) (extract other : Extractor) :
    ofResponse extract timeout response = ofResponse other timeout response := by
  cases head : response.isPrompt timeout with
  | false => rw [ofResponse_of_late extract head, ofResponse_of_late other head]
  | true => rw [ofResponse_of_failure extract head failed, ofResponse_of_failure other head failed]

end Delivery

/-! ## Answers -/

namespace HttpResponse

/-- Nothing goes wrong with a body that ends in time and does not break off. -/
theorem fault?_eq_none_iff {response : HttpResponse} {limit : Duration} :
    response.fault? limit = none ↔
      (response.received limit).2 = true ∧ response.breaksOff = false := by
  unfold fault?
  cases (response.received limit).2 <;> cases response.breaksOff <;> simp

/-- The text of a response whose body can be read. -/
theorem text_of_whole {response : HttpResponse} {limit : Duration}
    (ended : (response.received limit).2 = true) (whole : response.breaksOff = false) :
    response.text limit = String.ofList (Text.Utf8.decodeLossy response.body.flatten) := by
  rw [text, fault?_eq_none_iff.mpr ⟨ended, whole⟩]

/-- There is no text where the body is late or breaks off. -/
theorem text_of_fault {response : HttpResponse} {limit : Duration}
    (failed : (response.received limit).2 = false ∨ response.breaksOff = true) :
    response.text limit = "" := by
  unfold text
  cases found : response.fault? limit with
  | some fault => rfl
  | none =>
    obtain ⟨ended, whole⟩ := fault?_eq_none_iff.mp found
    simp [ended, whole] at failed

theorem isSuccess_eq_false_iff {response : HttpResponse} :
    response.isSuccess = false ↔ response.status < 200 ∨ 300 ≤ response.status := by
  rw [isSuccess, Bool.and_eq_false_iff, decide_eq_false_iff_not, decide_eq_false_iff_not,
    Nat.not_le, Nat.not_lt]

end HttpResponse

namespace Provider

variable {provider : Provider} {model key prompt : String} {transport : Transport}
  {options : GenerationOptions} {request : HttpRequest} {response : HttpResponse}

theorem items_of_exchange
    (exchanged : provider.exchange? model key transport prompt options =
      some (request, response)) :
    (provider.ask model key transport prompt options).items =
      Delivery.ofResponse provider.protocol.extractor options.timeout response := by
  rw [ask, exchanged]

theorem items_of_no_exchange
    (refused : provider.exchange? model key transport prompt options = none) :
    (provider.ask model key transport prompt options).items = [.error .http] := by
  rw [ask, refused]

/-- **The shape of an answer.** Every answer is made of texts that are not empty, with one error
behind them at most, and no stream goes on forever. A response whose status is not one of success
comes to one error, and nothing in its body is taken for an event: if the head is in time the error
has the status and the text of the response, which is empty where the body is late or breaks off,
and which is cut behind the thousandth character and marked if there are more. If the head is late
the error says so, as it does for any other response. -/
theorem ask_shaped (provider : Provider) (model key : String) (transport : Transport)
    (prompt : String) (options : GenerationOptions) :
    Shaped (provider.ask model key transport prompt options).items ∧
    (∀ run : Nat → Delivery, ¬ ∀ n, ∃ item,
      (run n).turn? provider.protocol.extractor options.timeout = some (item, run (n + 1))) ∧
    (provider.exchange? model key transport prompt options = none →
      (provider.ask model key transport prompt options).items = [.error .http]) ∧
    ∀ request response,
      provider.exchange? model key transport prompt options = some (request, response) →
      response.status < 200 ∨ 300 ≤ response.status →
        let text := response.text options.timeout
        (∀ extract, Delivery.ofResponse extract options.timeout response =
          (provider.ask model key transport prompt options).items) ∧
        (response.isPrompt options.timeout = false →
          (provider.ask model key transport prompt options).items =
            [.error (.timeout options.timeout)]) ∧
        (response.isPrompt options.timeout →
          ∃ body, (provider.ask model key transport prompt options).items =
              [.error (.status response.status body)] ∧
            (text.length ≤ 1000 → body = text) ∧
            (1000 < text.length → ∃ kept : List Char, kept.length = 1000 ∧
              kept <+: text.toList ∧
              Text.Utf8.encode kept <+: Text.Utf8.encode text.toList ∧
              body = String.ofList (kept ++ ['…']))) ∧
        ((response.received options.timeout).2 = false ∨ response.breaksOff = true → text = "") ∧
        ((response.received options.timeout).2 = true → response.breaksOff = false →
          text = String.ofList (Text.Utf8.decodeLossy response.body.flatten)) := by
  refine ⟨?_, Delivery.no_endless_run _ _, items_of_no_exchange, ?_⟩
  · cases exchanged : provider.exchange? model key transport prompt options with
    | none =>
      rw [items_of_no_exchange exchanged]
      exact .error _
    | some exchange =>
      rw [items_of_exchange exchanged]
      exact Delivery.shaped_ofResponse _ _ _
  · intro request response exchanged status text
    -- no event is read from such a response, so the extractor makes no difference
    have failed := HttpResponse.isSuccess_eq_false_iff.mpr status
    rw [items_of_exchange exchanged]
    refine ⟨fun extract => Delivery.ofResponse_congr failed extract _,
      Delivery.ofResponse_of_late _, fun head => ?_, HttpResponse.text_of_fault,
      HttpResponse.text_of_whole⟩
    refine ⟨_, Delivery.ofResponse_of_failure _ head failed, Text.preview_of_le, fun long => ?_⟩
    -- the excerpt is cut between characters, so its bytes are the first of the text
    refine ⟨text.toList.take 1000, ?_, List.take_prefix 1000 _,
      Text.encode_take_prefix 1000 _, Text.preview_of_lt long⟩
    exact List.length_take_of_le (Nat.le_of_lt long)

/-- A provider on the same machine. -/
def nearby : Provider :=
  ⟨.openAiCompatible, "http://localhost/v1"⟩

/-- An error body with one character more than is kept, each of two bytes, and one that stalls. -/
theorem ask_shaped_long_error_body :
    let long : HttpResponse :=
      { status := 500, chunks := [Text.Utf8.encode (List.replicate 1001 'é')] }
    let stalling : HttpResponse :=
      { status := 503, chunks := [[0x6F], [0x70]], pauses := [.zero, .ofSeconds 121] }
    (nearby.ask "m-1" "key" (fun _ _ => some long) "say hi" {}).items =
        [.error (.status 500 (String.ofList (List.replicate 1000 'é' ++ ['…'])))] ∧
      (nearby.ask "m-1" "key" (fun _ _ => some stalling) "say hi" {}).items =
        [.error (.status 503 "")] := by
  intro long stalling
  have exchanged (response : HttpResponse) : ∃ request,
      nearby.exchange? "m-1" "key" (fun _ _ => some response) "say hi" {} =
        some (request, response) := ⟨_, rfl⟩
  constructor
  · obtain ⟨request, exchanged⟩ := exchanged long
    obtain ⟨-, -, -, shaped⟩ := ask_shaped nearby "m-1" "key" (fun _ _ => some long) "say hi" {}
    obtain ⟨-, -, inTime, -, whole⟩ := shaped request long exchanged (.inr (by decide))
    have flat : long.body.flatten = Text.Utf8.encode (List.replicate 1001 'é') :=
      List.append_nil _
    have text : (long.text (.ofSeconds 120)).toList = List.replicate 1001 'é' := by
      rw [whole rfl rfl, String.toList_ofList, flat, Text.Utf8.decodeLossy_encode]
    have exceeding : 1000 < (long.text (.ofSeconds 120)).length := by
      rw [← String.length_toList, text, List.length_replicate]
      decide
    obtain ⟨body, items, -, cut⟩ := inTime rfl
    obtain ⟨kept, length, front, -, rfl⟩ := cut exceeding
    have first : kept = List.replicate 1000 'é' := by
      rw [List.prefix_iff_eq_take.mp front, text, length, List.take_replicate]
      rfl
    rw [items, first]
  · obtain ⟨request, exchanged⟩ := exchanged stalling
    obtain ⟨-, -, -, shaped⟩ := ask_shaped nearby "m-1" "key" (fun _ _ => some stalling) "say hi" {}
    obtain ⟨-, -, inTime, empty, -⟩ := shaped request stalling exchanged (.inr (by decide))
    have text : stalling.text (.ofSeconds 120) = "" := empty (.inl (by decide +kernel))
    obtain ⟨body, items, short, -⟩ := inTime rfl
    rw [items, short (by rw [text]; decide), text]

/-- A response with an error status that comes later than the request may take. -/
theorem ask_late_failure :
    let response : HttpResponse :=
      { status := 500
        chunks := [Text.Utf8.encode "oops".toList]
        delay := .ofMilliseconds 200 }
    let items := (nearby.ask "m-1" "test-key" (fun _ _ => some response) "say hi"
      { timeout := .ofMilliseconds 40 }).items
    items = [.error (.timeout (.ofMilliseconds 40))] ∧
      ∀ body, items ≠ [.error (.status response.status body)] := by
  intro response items
  have late : items = [.error (.timeout (.ofMilliseconds 40))] := by decide
  refine ⟨late, fun body same => ?_⟩
  rw [late] at same
  cases same

end Provider

end Polyglot
