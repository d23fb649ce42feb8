import Polyglot.Proofs.EventStream.Chunking
import Polyglot.Provider.Delivery

/-!
# What a stream delivers

A delivery hands out its items lazily: a queue, a decoder, a flag and the rest of the body change
with every turn. `walk` says in one go what comes of a list of events, and
`delivery_eq_walk` says that a delivery hands out just the walk over the events of its body.

The invariant is `remaining`, what a delivery is going to hand out: the queue, and behind it the
walk over the events that are still in the decoder and in the rest of the body. Each turn takes
its item off the front (`turn?_remaining`), so that the whole run gives all of it
(`items_eq_remaining`).
-/

namespace Polyglot

/-- The events of some bytes and, where no fault cuts them off, the event that their end
completes. -/
def EventDecoder.eventsUntil (decoder : EventDecoder) (bytes : List UInt8)
    (fault : Option TransferFault) : List Event :=
  (decoder.push bytes).1 ++
    if fault.isNone then (decoder.push bytes).2.finish.1.toList else []

/-- A fault cuts off what has not been completed. -/
theorem EventDecoder.eventsUntil_of_isSome {fault : Option TransferFault} (broken : fault.isSome)
    (decoder : EventDecoder) (bytes : List UInt8) :
    decoder.eventsUntil bytes fault = (decoder.push bytes).1 := by
  have noEnd : fault.isNone = false := by rw [← Option.not_isSome, broken]; rfl
  rw [eventsUntil, noEnd, if_neg Bool.false_ne_true, List.append_nil]

namespace Delivery

open Text.Utf8 (lineFeed)

variable {extract : Extractor} {timeout : Duration} {failure : Option BackendError}
  {delivery later : Delivery} {item : Option StreamItem} {event : Event} {events : List Event}

/-! ## The walk over events -/

/-- Is nothing read after the event? So it is with the sentinel and with what cannot be
extracted. -/
def stops (extract : Extractor) (event : Event) : Bool :=
  Text.trim event.data = sentinel || !(extract event).isOk

/-- The text of an event, if there is one and it is not empty. -/
def text? (extract : Extractor) (event : Event) : Option String :=
  match extract event with
  | .ok (some text) => if text.isEmpty then none else some text
  | _ => none

/-- The error at the end of a walk: none behind the sentinel, that of the event that cannot be
extracted, and the failure of the body if no event has stopped the walk. -/
def endError (extract : Extractor) (failure : Option BackendError) :
    Option Event → Option BackendError
  | none => failure
  | some event =>
    if Text.trim event.data = sentinel then none
    else match extract event with
      | .error error => some error
      | .ok _ => none

/-- The items of some events: the texts up to the first event that stops the walk, and then the
error, if there is one. -/
def walk (extract : Extractor) (failure : Option BackendError) (events : List Event) :
    List StreamItem :=
  ((events.takeWhile (!stops extract ·)).filterMap (text? extract)).map .ok ++
    ((endError extract failure (events.find? (stops extract))).map .error).toList

theorem walk_nil : walk extract failure [] = (failure.map .error).toList :=
  rfl

/-- Nothing behind an event that stops the walk counts, nor does the failure of the body. -/
theorem walk_cons_of_stops (stop : stops extract event) (events : List Event) :
    walk extract failure (event :: events) =
      ((endError extract none (some event)).map .error).toList := by
  unfold walk
  rw [List.takeWhile_cons_of_neg (by simp [stop]), List.find?_cons_of_pos stop,
    List.filterMap_nil, List.map_nil, List.nil_append, endError, endError]

/-- Any other event adds its text. -/
theorem walk_cons_of_not_stops (onward : stops extract event = false) (events : List Event) :
    walk extract failure (event :: events) =
      ((text? extract event).map .ok).toList ++ walk extract failure events := by
  unfold walk
  rw [List.takeWhile_cons_of_pos (by simp [onward]), List.find?_cons_of_neg (by simp [onward])]
  cases found : text? extract event with
  | none => rw [List.filterMap_cons_none found]; rfl
  | some text => rw [List.filterMap_cons_some found]; rfl

/-- A walk goes on behind some events unless one of them has stopped it. -/
theorem walk_append (first second : List Event) :
    walk extract failure (first ++ second) =
      walk extract none first ++
        if first.any (stops extract) then [] else walk extract failure second := by
  induction first with
  | nil => rfl
  | cons event first ih =>
    rw [List.cons_append, List.any_cons]
    cases stop : stops extract event with
    | true =>
      rw [walk_cons_of_stops stop, walk_cons_of_stops stop, Bool.true_or, if_pos rfl,
        List.append_nil]
    | false =>
      rw [walk_cons_of_not_stops stop, walk_cons_of_not_stops stop, ih, List.append_assoc,
        Bool.false_or]

/-- How a body fails makes no difference to a walk that an event stops. -/
theorem walk_of_any (stopped : events.any (stops extract)) (more : List Event) :
    walk extract failure (events ++ more) = walk extract none events := by
  rw [walk_append, if_pos stopped, List.append_nil]

/-! ## Turns -/

/-- Taking events is walking over them with the queue as the place for the items. -/
theorem takeEvents_eq (extract : Extractor) (delivery : Delivery) (events : List Event) :
    delivery.takeEvents extract events =
      { delivery with
        pending := delivery.pending ++ walk extract none events
        finished := delivery.finished || events.any (stops extract) } := by
  induction events generalizing delivery with
  | nil => simp [takeEvents, walk_nil]
  | cons event events ih =>
    -- the sentinel and an event that cannot be read end the stream, and any other event goes on
    by_cases done : Text.trim event.data = sentinel
    · have stop : stops extract event := by simp [stops, done]
      rw [takeEvents, if_pos done, walk_cons_of_stops stop, endError, if_pos done]
      simp [stop]
    cases extracted : extract event with
    | error error =>
      have stop : stops extract event := by simp [stops, extracted, Except.isOk, Except.toBool]
      rw [takeEvents, if_neg done, walk_cons_of_stops stop, endError, if_neg done, extracted]
      simp [stop, queue]
    | ok found =>
      have onward : stops extract event = false := by
        simp [stops, done, extracted, Except.isOk, Except.toBool]
      rw [takeEvents, if_neg done, extracted, walk_cons_of_not_stops onward, List.any_cons, onward,
        Bool.false_or, text?, extracted]
      cases found with
      | none => exact ih delivery
      | some text =>
        simp only [ih]
        split
        · rfl
        · simp [queue]

/-- What a delivery is going to hand out. -/
def remaining (extract : Extractor) (timeout : Duration) (delivery : Delivery) :
    List StreamItem :=
  delivery.pending ++
    if delivery.finished then []
    else walk extract (delivery.fault.map (.ofFault timeout))
      (delivery.decoder.eventsUntil delivery.chunks.flatten delivery.fault)

/-- A delivery without another turn has nothing left to hand out. -/
theorem remaining_of_no_turn (done : delivery.turn? extract timeout = none) :
    delivery.remaining extract timeout = [] := by
  unfold turn? at done
  cases waiting : delivery.pending with
  | cons first pending =>
    rw [waiting] at done
    cases done
  | nil =>
    by_cases finished : delivery.finished
    · rw [remaining, waiting, if_pos finished, List.append_nil]
    · simp only [waiting, if_neg finished] at done
      split at done
      · cases done
      · split at done <;> cases done

/-- A turn hands out the first item that remains, or none, and then the others remain. The
decoder is left as a push or the end of the stream leaves it. -/
theorem turn?_remaining (clean : lineFeed ∉ delivery.decoder.buffer)
    (turn : delivery.turn? extract timeout = some (item, later)) :
    delivery.remaining extract timeout = item.toList ++ later.remaining extract timeout ∧
      lineFeed ∉ later.decoder.buffer := by
  unfold turn? at turn
  cases waiting : delivery.pending with
  | cons first pending =>
    rw [waiting] at turn
    cases turn
    refine ⟨?_, clean⟩
    rw [remaining, waiting]
    rfl
  | nil =>
    by_cases finished : delivery.finished
    · simp only [waiting, if_pos finished] at turn
      cases turn
    simp only [waiting, if_neg finished] at turn
    cases coming : delivery.chunks with
    | cons chunk chunks =>
      -- the events of the chunk join the queue
      simp only [coming, takeEvents_eq] at turn
      cases turn
      refine ⟨?_, EventDecoder.drain_clean _⟩
      simp [remaining, waiting, finished, coming, EventDecoder.eventsUntil,
        EventDecoder.push_push, walk_append]
    | nil =>
      have pushed := EventDecoder.push_nil clean
      cases ending : delivery.fault with
      | some fault =>
        -- what the decoder holds is lost
        simp only [coming, ending] at turn
        cases turn
        refine ⟨?_, clean⟩
        simp [remaining, waiting, finished, coming, ending, EventDecoder.eventsUntil, pushed,
          walk_nil]
      | none =>
        -- what the decoder holds may be one more event
        simp only [coming, ending, takeEvents_eq] at turn
        cases turn
        refine ⟨?_, by rw [EventDecoder.finish_buffer]; exact List.not_mem_nil⟩
        simp [remaining, waiting, finished, coming, ending, EventDecoder.eventsUntil, pushed]

/-! ## Runs -/

/-- A run hands out all that remains. -/
theorem items_eq_remaining (clean : lineFeed ∉ delivery.decoder.buffer) :
    delivery.items extract timeout = delivery.remaining extract timeout := by
  fun_induction items extract timeout delivery with
  | case1 delivery done => exact (remaining_of_no_turn done).symm
  | case2 delivery item later turn ih =>
    obtain ⟨split, clean'⟩ := turn?_remaining clean turn
    rw [ih clean', split]

/-- A fresh delivery hands out the walk over the events of its body. -/
theorem items_eq_walk (extract : Extractor) (timeout : Duration) (chunks : List (List UInt8))
    (fault : Option TransferFault) :
    items extract timeout { chunks, fault } =
      walk extract (fault.map (.ofFault timeout))
        (EventDecoder.eventsUntil {} chunks.flatten fault) :=
  items_eq_remaining List.not_mem_nil

/-- **What a stream delivers.** The items are the walk over the events of the whole body, and the
fault of the body comes last if no event has stopped the walk. So it does not matter how the body
is cut; how the body ends does not matter once the sentinel is complete; and what completes no
event before a fault is as good as not sent. -/
theorem delivery_eq_walk (extract : Extractor) (timeout : Duration) (chunks : List (List UInt8))
    (fault : Option TransferFault) :
    items extract timeout { chunks, fault } =
        walk extract (fault.map (.ofFault timeout))
          (EventDecoder.eventsUntil {} chunks.flatten fault) ∧
      (∀ others : List (List UInt8), others.flatten = chunks.flatten →
        items extract timeout { chunks := others, fault } =
          items extract timeout { chunks, fault }) ∧
      (∀ event ∈ (EventDecoder.push {} chunks.flatten).1, Text.trim event.data = sentinel →
        ∀ other, items extract timeout { chunks, fault := other } =
          items extract timeout { chunks, fault }) ∧
      (∀ tail, ((EventDecoder.push {} chunks.flatten).2.push tail).1 = [] → fault.isSome →
        items extract timeout { chunks := chunks ++ [tail], fault } =
          items extract timeout { chunks, fault }) := by
  refine ⟨items_eq_walk extract timeout chunks fault, ?_, ?_, ?_⟩
  · intro others same
    rw [items_eq_walk, items_eq_walk, same]
  · intro event completed done other
    -- the walk stops at the sentinel and never comes to what is behind it
    have stopped : (EventDecoder.push {} chunks.flatten).1.any (stops extract) :=
      List.any_eq_true.mpr ⟨event, completed, by simp [stops, done]⟩
    rw [items_eq_walk, items_eq_walk, EventDecoder.eventsUntil, EventDecoder.eventsUntil,
      walk_of_any stopped, walk_of_any stopped]
  · intro tail nothing broken
    -- where the transfer breaks off, what no blank line completes is lost
    have flat : (chunks ++ [tail]).flatten = chunks.flatten ++ tail := by simp
    rw [items_eq_walk, items_eq_walk, EventDecoder.eventsUntil_of_isSome broken,
      EventDecoder.eventsUntil_of_isSome broken, flat, EventDecoder.push_push, nothing,
      List.append_nil]

/-- With the sentinel cut in two, a fault behind it, and a line that the fault cuts off. -/
theorem delivery_cut_inside_sentinel :
    let extract : Extractor := fun event => .ok (some event.data)
    let chunks := ["data: a\n\ndata: [DO", "", "NE]\n\n"].map (Text.Utf8.encode ·.toList)
    let tail := Text.Utf8.encode "data: b\n".toList
    items extract .zero { chunks, fault := some .broken } = [.ok "a"] ∧
      items extract .zero { chunks, fault := none } =
        items extract .zero { chunks, fault := some .broken } ∧
      items extract .zero { chunks := chunks ++ [tail], fault := some .broken } =
        items extract .zero { chunks, fault := some .broken } := by
  intro extract chunks tail
  have completed : (EventDecoder.push {} chunks.flatten).1 = [⟨none, "a"⟩, ⟨none, "[DONE]"⟩] := by
    decide +kernel
  obtain ⟨walked, -, done, cut⟩ := delivery_eq_walk extract .zero chunks (some .broken)
  refine ⟨walked.trans ?_, done ⟨none, "[DONE]"⟩ (by simp [completed]) (by decide) none,
    cut tail (by decide +kernel) rfl⟩
  rw [EventDecoder.eventsUntil_of_isSome rfl, completed, walk_cons_of_not_stops (by decide),
    walk_cons_of_stops (by decide)]
  rfl

/-! ## Responses -/

/-- A successful response is a stream of what arrives in time. If its end does not, or if the
connection closes, that comes last. -/
theorem ofResponse_of_success (extract : Extractor) {response : HttpResponse}
    (head : response.isPrompt timeout) (success : response.isSuccess) :
    ofResponse extract timeout response =
      walk extract ((response.fault? timeout).map (.ofFault timeout))
        (EventDecoder.eventsUntil {} (response.received timeout).1.flatten
          (response.fault? timeout)) := by
  rw [ofResponse, head, success]
  exact items_eq_walk extract timeout _ _

/-- A body that stalls inside its second event. -/
example :
    let response : HttpResponse :=
      { chunks := ["data: a\n\nda", "ta: b\n\n"].map (Text.Utf8.encode ·.toList)
        pauses := [.ofSeconds 1, .ofSeconds 3] }
    ofResponse (fun event => .ok (some event.data)) (.ofSeconds 2) response =
      [.ok "a", .error (.timeout (.ofSeconds 2))] := by
  intro response
  have late : response.fault? (.ofSeconds 2) = some .timedOut := by decide +kernel
  have completed :
      (EventDecoder.push {} (response.received (.ofSeconds 2)).1.flatten).1 = [⟨none, "a"⟩] := by
    decide +kernel
  rw [ofResponse_of_success _ rfl rfl, late, EventDecoder.eventsUntil_of_isSome rfl, completed,
    walk_cons_of_not_stops (by decide)]
  rfl

end Delivery

end Polyglot
