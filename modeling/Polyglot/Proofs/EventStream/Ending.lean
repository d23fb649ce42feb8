import Polyglot.Proofs.EventStream.Framing

/-!
# The end of a stream and what comes after it

Ending a stream is ending it with two line feeds, and nothing is left of it then, so that a decoder
can be used again as if it were new (`finish_state`). A `Call` is anything that a decoder can be
asked for; **`finish_eq_push_lineFeeds`** says for any calls what the end of the stream gives after
them, and that the calls after the end are answered as a new decoder answers them.
-/

namespace Polyglot.EventDecoder

open Text.Utf8 (lineFeed)

variable {decoder : EventDecoder}

/-! ## The state after the end -/

/-- A line that completes an event ends the block. -/
theorem takeLine_state_of_event {line : List Char} {event : Event} {after : EventDecoder}
    (taken : decoder.takeLine line = (some event, after)) :
    after = { decoder with name := none, data := [] } := by
  cases line with
  | nil =>
    have state := endBlock_state decoder
    rw [show decoder.endBlock = (some event, after) from taken] at state
    exact state
  | cons c line =>
    rw [takeLine_of_ne_nil (List.cons_ne_nil c line)] at taken
    cases taken

/-- The end of a stream leaves nothing behind. -/
theorem finish_state (decoder : EventDecoder) : decoder.finish.2 = {} := by
  unfold finish
  split
  · next idle =>
    rw [endBlock_state, List.isEmpty_iff.mp idle]
  · split
    · next event after taken => exact takeLine_state_of_event taken
    · next after taken =>
      -- the line under way has been taken out of the buffer, and the rest ends with the block
      have idle : after.buffer = [] := by
        have kept := takeLine_buffer { decoder with buffer := [] } (lineText decoder.buffer)
        rwa [taken] at kept
      rw [endBlock_state, idle]

/-! ## Calls -/

/-- What a decoder can be asked for. -/
inductive Call where
  | push (bytes : List UInt8)
  | finish

/-- What it answers. -/
inductive Answer where
  | pushed (events : List Event)
  | finished (event : Option Event)
deriving DecidableEq

/-- Make one call. -/
def call (decoder : EventDecoder) : Call → Answer × EventDecoder
  | .push bytes => (.pushed (decoder.push bytes).1, (decoder.push bytes).2)
  | .finish => (.finished decoder.finish.1, decoder.finish.2)

/-- Make some calls one after the other. -/
def callAll (decoder : EventDecoder) : List Call → List Answer × EventDecoder
  | [] => ([], decoder)
  | first :: calls =>
    let called := decoder.call first
    let others := called.2.callAll calls
    (called.1 :: others.1, others.2)

theorem callAll_append (decoder : EventDecoder) (first second : List Call) :
    decoder.callAll (first ++ second) =
      ((decoder.callAll first).1 ++ ((decoder.callAll first).2.callAll second).1,
        ((decoder.callAll first).2.callAll second).2) := by
  induction first generalizing decoder with
  | nil => rfl
  | cons call calls ih => simp only [List.cons_append, callAll, ih]

/-- Whatever is called, the decoder stays reachable. -/
theorem Reachable.callAll (reachable : Reachable decoder) (calls : List Call) :
    Reachable (decoder.callAll calls).2 := by
  induction calls generalizing decoder with
  | nil => exact reachable
  | cons call calls ih =>
    cases call with
    | push bytes => exact ih (.push bytes reachable)
    | finish => exact ih (.finish reachable)

/-- After the end of a stream, calls are answered as by a new decoder. -/
theorem callAll_append_finish (decoder : EventDecoder) (before after : List Call) :
    decoder.callAll (before ++ .finish :: after) =
      ((decoder.callAll (before ++ [.finish])).1 ++ (({} : EventDecoder).callAll after).1,
        (({} : EventDecoder).callAll after).2) := by
  have ended : (decoder.callAll (before ++ [.finish])).2 = {} := by
    rw [callAll_append]
    exact finish_state _
  rw [List.append_cons, callAll_append, ended]

/-- **The end of a stream is two line feeds.** After any calls of a new decoder, the end of the
stream gives the event that two line feeds would complete, if they would complete one, and one at
most; both leave the decoder as good as new, so that whatever is called after the end of a stream,
the answers are those of a new decoder. -/
theorem finish_eq_push_lineFeeds (calls : List Call) :
    let decoder := (({} : EventDecoder).callAll calls).2
    (decoder.push [lineFeed, lineFeed]).1 = decoder.finish.1.toList ∧
      (decoder.push [lineFeed, lineFeed]).1.length ≤ 1 ∧
      (decoder.push [lineFeed, lineFeed]).2 = {} ∧ decoder.finish.2 = {} ∧
      ∀ after, (({} : EventDecoder).callAll (calls ++ .finish :: after)).1 =
        (({} : EventDecoder).callAll (calls ++ [.finish])).1 ++
          (({} : EventDecoder).callAll after).1 := by
  intro decoder
  have reachable : Reachable decoder := Reachable.fresh.callAll calls
  have pushed := push_lineFeeds reachable.clean
  refine ⟨by rw [pushed], ?_, by rw [pushed], finish_state decoder, fun after => ?_⟩
  · rw [pushed]
    exact Option.length_toList_le
  · rw [callAll_append_finish]

/-- A stream that ends inside a character, and another one after it. -/
example :
    (({} : EventDecoder).callAll
      [.push (Text.Utf8.encode "event: a\ndata: b\ndata: ".toList ++ [0xC3]), .finish,
        .push (Text.Utf8.encode "data: c".toList), .finish]).1 =
      [.pushed [], .finished (some ⟨some "a", "b\n\ufffd"⟩), .pushed [],
        .finished (some ⟨none, "c"⟩)] := by
  decide +kernel

end Polyglot.EventDecoder
