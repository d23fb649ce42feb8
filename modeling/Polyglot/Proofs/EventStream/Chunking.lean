import Polyglot.EventStream.Decoder

/-!
# Chunking

A decoder gives the same events however its bytes are cut into pieces. What makes it so is that
nothing complete is ever left in the buffer (`Reachable.clean`): then pushing more bytes goes on
exactly where the bytes before had stopped (`push_push`), whether the cut falls into a character,
between a carriage return and its line feed, or between the two line feeds of a blank line.
-/

namespace Polyglot.EventDecoder

open Text.Utf8 (lineFeed)

variable {decoder : EventDecoder} {bytes line rest : List UInt8}

/-! ## The first line -/

/-- There is no first line exactly when there is no line feed. -/
theorem firstLine?_eq_none_iff : firstLine? bytes = none ↔ lineFeed ∉ bytes := by
  induction bytes with
  | nil => simp [firstLine?]
  | cons byte bytes ih =>
    unfold firstLine?
    split
    · next same => simp [same]
    · next other =>
      rw [Option.map_eq_none_iff, ih, List.mem_cons, not_or]
      exact ⟨fun absent => ⟨fun same => other same.symm, absent⟩, And.right⟩

/-- The first line goes up to the first line feed. -/
theorem firstLine?_append_lineFeed (clean : lineFeed ∉ line) (rest : List UInt8) :
    firstLine? (line ++ lineFeed :: rest) = some (line, rest) := by
  induction line with
  | nil => simp [firstLine?]
  | cons byte line ih =>
    rw [List.mem_cons, not_or] at clean
    rw [List.cons_append, firstLine?, if_neg (fun same => clean.1 same.symm), ih clean.2]
    rfl

/-- More bytes behind it do not change the first line. -/
theorem firstLine?_append (found : firstLine? bytes = some (line, rest)) (more : List UInt8) :
    firstLine? (bytes ++ more) = some (line, rest ++ more) := by
  induction bytes generalizing line with
  | nil => simp [firstLine?] at found
  | cons byte bytes ih =>
    rw [List.cons_append]
    unfold firstLine? at found ⊢
    split at found
    · next same =>
      rw [if_pos same]
      simp only [Option.some.injEq, Prod.mk.injEq] at found
      obtain ⟨rfl, rfl⟩ := found
      rfl
    · next other =>
      rw [if_neg other]
      obtain ⟨⟨line', rest'⟩, inner, heq⟩ := Option.map_eq_some_iff.mp found
      simp only [Prod.mk.injEq] at heq
      obtain ⟨rfl, rfl⟩ := heq
      rw [ih inner]
      rfl

/-! ## Lines do not see the buffer -/

theorem endBlock_withBuffer (decoder : EventDecoder) (buffer : List UInt8) :
    { decoder with buffer }.endBlock =
      (decoder.endBlock.1, { decoder.endBlock.2 with buffer }) := by
  unfold endBlock
  simp only
  split <;> rfl

/-- What a line does is the same whatever stands in the buffer. -/
theorem takeLine_withBuffer (decoder : EventDecoder) (buffer : List UInt8) (line : List Char) :
    { decoder with buffer }.takeLine line =
      ((decoder.takeLine line).1, { (decoder.takeLine line).2 with buffer }) := by
  unfold takeLine
  split
  · exact endBlock_withBuffer decoder buffer
  · rfl
  · simp only
    split
    · rfl
    · split <;> rfl

/-! ## Draining -/

/-- Without a line feed in the buffer there is nothing to take out. -/
theorem drain_of_clean (clean : lineFeed ∉ decoder.buffer) : decoder.drain = ([], decoder) := by
  unfold drain
  split
  · rfl
  · next found => rw [firstLine?_eq_none_iff.mpr clean] at found; cases found

/-- With one, the first line is taken and the rest is drained after it. -/
theorem drain_of_line (found : firstLine? decoder.buffer = some (line, rest)) :
    decoder.drain =
      let taken := { decoder with buffer := rest }.takeLine (lineText line)
      (taken.1.toList ++ taken.2.drain.1, taken.2.drain.2) := by
  rw [drain]
  split
  · next absent => rw [absent] at found; cases found
  · next line' rest' found' =>
    rw [found'] at found
    cases found
    rfl

/-- What is left in the buffer is the beginning of one line. -/
theorem drain_clean (decoder : EventDecoder) : lineFeed ∉ decoder.drain.2.buffer := by
  fun_induction drain decoder with
  | case1 decoder absent => exact firstLine?_eq_none_iff.mp absent
  | case2 decoder line rest found taken drained ih => exact ih

/-- Bytes behind those in the buffer can wait until the buffer has been drained. -/
theorem drain_append (decoder : EventDecoder) (more : List UInt8) :
    { decoder with buffer := decoder.buffer ++ more }.drain =
      (decoder.drain.1 ++ (decoder.drain.2.push more).1, (decoder.drain.2.push more).2) := by
  fun_induction drain decoder with
  | case1 decoder absent => simp [push]
  | case2 decoder line rest found taken drained ih =>
    have found' : firstLine? { decoder with buffer := decoder.buffer ++ more }.buffer =
        some (line, rest ++ more) := firstLine?_append found more
    have kept : taken.2.buffer = rest := takeLine_buffer _ _
    rw [drain_of_line found']
    have split : { decoder with buffer := rest ++ more }.takeLine (lineText line) =
        (taken.1, { taken.2 with buffer := taken.2.buffer ++ more }) := by
      rw [kept]
      exact takeLine_withBuffer { decoder with buffer := rest } (rest ++ more) (lineText line)
    simp only [split, ih, List.append_assoc, drained]

/-! ## Pushing -/

/-- The states that some sequence of calls leads to. -/
inductive Reachable : EventDecoder → Prop
  | fresh : Reachable {}
  | push {before : EventDecoder} (bytes : List UInt8) :
      Reachable before → Reachable (before.push bytes).2
  | finish {before : EventDecoder} : Reachable before → Reachable before.finish.2

/-- The end of the stream empties the buffer. -/
@[simp] theorem finish_buffer (decoder : EventDecoder) : decoder.finish.2.buffer = [] := by
  unfold finish
  split
  · next empty => rw [endBlock_buffer]; exact List.isEmpty_iff.mp empty
  · have kept : ({ decoder with buffer := [] }.takeLine (lineText decoder.buffer)).2.buffer = [] :=
      takeLine_buffer _ _
    split
    · next taken => rw [taken] at kept; exact kept
    · next taken => rw [taken] at kept; rw [endBlock_buffer]; exact kept

/-- Between calls the buffer holds no complete line. -/
theorem Reachable.clean (reachable : Reachable decoder) : lineFeed ∉ decoder.buffer := by
  cases reachable with
  | fresh => exact List.not_mem_nil
  | push bytes _ => exact drain_clean _
  | finish _ => rw [finish_buffer]; exact List.not_mem_nil

/-- Pushing nothing completes nothing. -/
theorem push_nil (clean : lineFeed ∉ decoder.buffer) : decoder.push [] = ([], decoder) := by
  rw [push, List.append_nil]
  exact drain_of_clean clean

/-- Two pushes are one push of all the bytes. -/
theorem push_push (decoder : EventDecoder) (first second : List UInt8) :
    decoder.push (first ++ second) =
      ((decoder.push first).1 ++ ((decoder.push first).2.push second).1,
        ((decoder.push first).2.push second).2) := by
  rw [push, ← List.append_assoc]
  exact drain_append { decoder with buffer := decoder.buffer ++ first } second

/-- Push some chunks one after the other. -/
def pushAll (decoder : EventDecoder) : List (List UInt8) → List Event × EventDecoder
  | [] => ([], decoder)
  | chunk :: chunks =>
    let pushed := decoder.push chunk
    let others := pushed.2.pushAll chunks
    (pushed.1 ++ others.1, others.2)

/-- **Chunking invariance.** From every reachable state, chunks pushed one after the other give
the events of one push of all their bytes, and lead to the same state. -/
theorem pushAll_eq_push_flatten (reachable : Reachable decoder) (chunks : List (List UInt8)) :
    decoder.pushAll chunks = decoder.push chunks.flatten := by
  induction chunks generalizing decoder with
  | nil => exact (push_nil reachable.clean).symm
  | cons chunk chunks ih =>
    rw [pushAll, List.flatten_cons, push_push, ih (.push chunk reachable)]

/-- Cuts inside a character, between a carriage return and its line feed, and around nothing. -/
theorem pushAll_cut_inside_character :
    Reachable (push {} [100, 97, 116, 97, 58, 32, 0xC3]).2 ∧
      (push {} [100, 97, 116, 97, 58, 32, 0xC3]).2.pushAll [[0xA9, 13], [10], [], [10]] =
        ([⟨none, "é"⟩], {}) :=
  ⟨.push _ .fresh, (pushAll_eq_push_flatten (.push _ .fresh) _).trans (by decide +kernel)⟩

end Polyglot.EventDecoder
