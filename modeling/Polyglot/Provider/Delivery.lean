import Polyglot.EventStream.Decoder
import Polyglot.Provider.Backend
import Polyglot.Text.Blank
import Polyglot.Text.Lines

/-!
# Delivery

From a response to a stream of texts. Bytes become events, an extractor makes a text of an event
or passes over it, and the stream ends at the sentinel, at an error, or with the body. The body is
read one piece at a time and only when no item waits to be handed out.
-/

namespace Polyglot

/-- The text that an event adds, if it adds one. -/
abbrev Extractor := Event → Except BackendError (Option String)

/-- A stream of texts under way. -/
structure Delivery where
  /-- The pieces of the body that are still to come. -/
  chunks : List (List UInt8)
  /-- What happens after the last of them, unless the body just ends. -/
  fault : Option TransferFault
  decoder : EventDecoder := {}
  /-- Items that have not been handed out yet. -/
  pending : List StreamItem := []
  /-- Nothing more is read. -/
  finished : Bool := false

namespace Delivery

/-- The data that ends a stream. -/
def sentinel : String := "[DONE]"

/-- Let an item wait its turn. -/
def queue (delivery : Delivery) (item : StreamItem) : Delivery :=
  { delivery with pending := delivery.pending ++ [item] }

/-- Queue the items that some events add. The sentinel ends the stream, and so does an error. -/
def takeEvents (extract : Extractor) (delivery : Delivery) : List Event → Delivery
  | [] => delivery
  | event :: events =>
    if Text.trim event.data = sentinel then { delivery with finished := true }
    else match extract event with
      | .error error => { delivery.queue (.error error) with finished := true }
      | .ok none => delivery.takeEvents extract events
      | .ok (some text) =>
        if text.isEmpty then delivery.takeEvents extract events
        else (delivery.queue (.ok text)).takeEvents extract events

/-- One turn: hand out an item that waits, or else read on. There is none when the stream is
over. -/
def turn? (extract : Extractor) (timeout : Duration) (delivery : Delivery) :
    Option (Option StreamItem × Delivery) :=
  match delivery.pending with
  | item :: pending => some (some item, { delivery with pending })
  | [] =>
    if delivery.finished then none
    else match delivery.chunks with
      | chunk :: chunks =>
        let pushed := delivery.decoder.push chunk
        some (none, { delivery with chunks, decoder := pushed.2 }.takeEvents extract pushed.1)
      | [] =>
        match delivery.fault with
        | some fault =>
          some (some (.error (.ofFault timeout fault)), { delivery with finished := true })
        | none =>
          let last := delivery.decoder.finish
          let ended := { delivery with decoder := last.2 }.takeEvents extract last.1.toList
          some (none, { ended with finished := true })

/-- Events do not touch what is still to come. -/
@[simp] theorem takeEvents_chunks (extract : Extractor) (delivery : Delivery)
    (events : List Event) : (delivery.takeEvents extract events).chunks = delivery.chunks := by
  induction events generalizing delivery with
  | nil => rfl
  | cons event events ih =>
    unfold takeEvents
    split
    · rfl
    · split
      · rfl
      · exact ih delivery
      · split
        · exact ih delivery
        · exact ih _

/-- What is left to do. Each turn ends the stream, takes a piece of the body or takes an item from
the queue, the first counting for most. -/
def work (delivery : Delivery) : Nat × Nat × Nat :=
  ((!delivery.finished).toNat, delivery.chunks.length, delivery.pending.length)

theorem turn?_work {extract : Extractor} {timeout : Duration} {delivery later : Delivery}
    {item : Option StreamItem} (h : delivery.turn? extract timeout = some (item, later)) :
    Prod.Lex (· < ·) (Prod.Lex (· < ·) (· < ·)) later.work delivery.work := by
  unfold turn? at h
  split at h
  · next first pending waiting =>
    cases h
    rw [work, work, waiting]
    exact .right _ (.right _ (Nat.lt_succ_self _))
  · split at h
    · cases h
    · next reading =>
      rw [work, work, eq_false_of_ne_true reading]
      split at h
      · next chunk chunks coming =>
        cases h
        rw [takeEvents_chunks, coming]
        cases finished : (takeEvents extract _ _).finished with
        | true => exact .left _ _ Nat.zero_lt_one
        | false => exact .right _ (.left _ _ (Nat.lt_succ_self _))
      · split at h
        · cases h
          exact .left _ _ Nat.zero_lt_one
        · cases h
          exact .left _ _ Nat.zero_lt_one

/-- The items of a stream, handed out one after the other. -/
def items (extract : Extractor) (timeout : Duration) (delivery : Delivery) : List StreamItem :=
  match _ : delivery.turn? extract timeout with
  | none => []
  | some (item, later) => item.toList ++ later.items extract timeout
termination_by delivery.work
decreasing_by exact turn?_work ‹_›

/-- Characters of an error body that are kept. -/
def errorBodyLimit : Nat := 1000

/-- The items of a response. Its body is read as a stream only if the status is one of success. -/
def ofResponse (extract : Extractor) (timeout : Duration) (response : HttpResponse) :
    List StreamItem :=
  if !response.isPrompt timeout then [.error (.ofFault timeout .timedOut)]
  else if response.isSuccess then
    items extract timeout
      { chunks := (response.received timeout).1, fault := response.fault? timeout }
  else
    [.error (.status response.status (Text.preview (response.text timeout) errorBodyLimit))]

end Delivery

end Polyglot
