import Mathlib.Logic.Relation
import Polyglot.Proofs.EventStream.Framing
import Polyglot.Proofs.Text.Lines

/-!
# Lines that say nothing

Comments, fields other than the data and the name of an event, and carriage returns before line
feeds can be put into a stream without anything coming of it. An `Insertion` puts in one of them,
and **`pushAll_of_insertions`** says that a decoder makes the same of a stream and of that stream
with any number of them put in, however the two are cut into chunks.

Where a line has ended the buffer is empty (`push_boundary`), so a line that is put in there is
taken by itself and passed over (`push_noise`). A carriage return is a character of its own even
behind a character that is cut off, so it is dropped with the others at the end of its line
(`lineText_append_carriageReturn`).
-/

namespace Polyglot.EventDecoder

open Text.Utf8 (lineFeed)
open EventScript (fieldName)

variable {decoder : EventDecoder} {line text bytes noisy : List UInt8}

/-! ## Noise -/

/-- The byte that may stand before a line feed. -/
def carriageReturn : UInt8 := 13

/-- The byte that comments begin with and fields are named before. -/
def colon : UInt8 := 58

/-- A line that is a comment, or that is not empty and neither adds to the data nor names the
event. -/
inductive IsNoise (line : List UInt8) : Prop
  | comment (marked : line.head? = some colon)
  | other (filled : lineText line ≠ []) (notData : fieldName (lineText line) ≠ "data".toList)
      (notName : fieldName (lineText line) ≠ "event".toList)

/-- A line of noise put in where a line may begin, or a carriage return before a line feed. -/
inductive Insertion : List UInt8 → List UInt8 → Prop
  | noise {before line : List UInt8} (boundary : before = [] ∨ before.getLast? = some lineFeed)
      (single : lineFeed ∉ line) (noise : IsNoise line) (after : List UInt8) :
      Insertion (before ++ after) (before ++ (line ++ lineFeed :: after))
  | carriageReturn (before after : List UInt8) :
      Insertion (before ++ lineFeed :: after) (before ++ carriageReturn :: lineFeed :: after)

/-! ## Carriage returns -/

/-- A carriage return at the end of a line is dropped, whatever it stands behind. -/
theorem lineText_append_carriageReturn (line : List UInt8) :
    lineText (line ++ [carriageReturn]) = lineText line := by
  have text : Text.Utf8.decodeLossy (line ++ [carriageReturn]) =
      Text.Utf8.decodeLossy line ++ ['\r'] :=
    Text.Utf8.decodeLossy_append_ascii (by decide) line
  have returned : ('\r' == '\r') = true := rfl
  rw [lineText, lineText, text]
  exact List.rdropWhile_concat_pos _ _ _ returned

/-- With a carriage return in front, a line feed completes the same line. -/
theorem push_carriageReturn (clean : lineFeed ∉ decoder.buffer) :
    decoder.push [carriageReturn, lineFeed] = decoder.push [lineFeed] := by
  have returned : lineFeed ∉ decoder.buffer ++ [carriageReturn] := by
    rw [List.mem_append, not_or]
    exact ⟨clean, by decide⟩
  have first := push_append_lineFeed decoder [carriageReturn] returned
  have second := push_append_lineFeed decoder [] (by rwa [List.append_nil])
  rw [lineText_append_carriageReturn] at first
  rw [List.append_nil] at second
  exact first.trans second.symm

/-! ## Lines of noise -/

/-- A comment has a colon in front also as a text. -/
theorem lineText_cons_colon (text : List UInt8) :
    lineText (colon :: text) = ':' :: lineText text := by
  have read : Text.Utf8.decodeLossy (colon :: text) = ':' :: Text.Utf8.decodeLossy text :=
    Text.Utf8.decodeLossy_cons_ascii (by decide) text
  rw [lineText, read]
  exact Text.dropTail_cons (by decide) _

/-- Noise is a line with some other field name or none. -/
theorem IsNoise.unrelated (noise : IsNoise line) :
    lineText line ≠ [] ∧ fieldName (lineText line) ≠ "data".toList ∧
      fieldName (lineText line) ≠ "event".toList := by
  cases noise with
  | comment marked =>
    obtain ⟨text, rfl⟩ := List.head?_eq_some_iff.mp marked
    have unnamed : fieldName (':' :: lineText text) = [] := rfl
    rw [lineText_cons_colon, unnamed]
    exact ⟨List.cons_ne_nil _ _, by decide, by decide⟩
  | other filled notData notName => exact ⟨filled, notData, notName⟩

/-- Noise is passed over. -/
theorem takeLine_of_noise (noise : IsNoise line) (decoder : EventDecoder) :
    decoder.takeLine (lineText line) = (none, decoder) := by
  obtain ⟨filled, notData, notName⟩ := noise.unrelated
  rw [takeLine_of_ne_nil filled, values_singleton, values_singleton, if_neg notData,
    if_neg notName, List.map_nil, List.append_nil]
  rfl

/-- A line of noise completes no event and leaves the decoder as it was. -/
theorem push_noise (idle : decoder.buffer = []) (single : lineFeed ∉ line) (noise : IsNoise line) :
    decoder.push (line ++ [lineFeed]) = ([], decoder) := by
  have clean : lineFeed ∉ decoder.buffer ++ line := by rwa [idle, List.nil_append]
  have same : { decoder with buffer := [] } = decoder := by rw [← idle]
  have pushed := push_append_lineFeed decoder line clean
  rw [same, idle, List.nil_append, takeLine_of_noise noise] at pushed
  exact pushed

/-- Where a line may begin, nothing is in the buffer. -/
theorem push_boundary (idle : decoder.buffer = [])
    (boundary : bytes = [] ∨ bytes.getLast? = some lineFeed) :
    (decoder.push bytes).2.buffer = [] := by
  rcases boundary with rfl | ended
  · have clean : lineFeed ∉ decoder.buffer := by
      rw [idle]
      exact List.not_mem_nil
    rw [push_nil clean]
    exact idle
  · obtain ⟨front, rfl⟩ := List.getLast?_eq_some_iff.mp ended
    have clean : lineFeed ∉ (decoder.push front).2.buffer ++ [] := by
      rw [List.append_nil]
      exact drain_clean _
    have ending := push_append_lineFeed (decoder.push front).2 [] clean
    rw [List.nil_append] at ending
    rw [push_push, ending]
    exact takeLine_buffer _ _

/-! ## Streams -/

/-- One insertion makes no difference. -/
theorem push_of_insertion (idle : decoder.buffer = []) (inserted : Insertion bytes noisy) :
    decoder.push noisy = decoder.push bytes := by
  cases inserted with
  | @noise before line boundary single noise after =>
    have passed := push_noise (push_boundary idle boundary) single noise
    have split : line ++ lineFeed :: after = (line ++ [lineFeed]) ++ after := by simp
    rw [push_push, split, push_push, passed, push_push decoder before after]
    rfl
  | carriageReturn before after =>
    have clean : lineFeed ∉ (decoder.push before).2.buffer := drain_clean _
    have split : carriageReturn :: lineFeed :: after = [carriageReturn, lineFeed] ++ after := rfl
    have split' : lineFeed :: after = [lineFeed] ++ after := rfl
    rw [push_push, push_push decoder before, split, push_push, push_carriageReturn clean, split',
      push_push _ [lineFeed]]

/-- Nor do any number of them. -/
theorem push_of_insertions (idle : decoder.buffer = [])
    (inserted : Relation.ReflTransGen Insertion bytes noisy) :
    decoder.push noisy = decoder.push bytes := by
  induction inserted with
  | refl => rfl
  | tail _ last ih => exact (push_of_insertion idle last).trans ih

/-- **Noise is invisible.** A decoder gives the same events for a stream and for that stream with
any number of lines of noise and of carriage returns put in, however each of them is cut into
chunks, and the end of the stream comes to the same after both. -/
theorem pushAll_of_insertions {chunks noisyChunks : List (List UInt8)}
    (inserted : Relation.ReflTransGen Insertion chunks.flatten noisyChunks.flatten) :
    ({} : EventDecoder).pushAll noisyChunks = ({} : EventDecoder).pushAll chunks ∧
      (({} : EventDecoder).pushAll noisyChunks).2.finish =
        (({} : EventDecoder).pushAll chunks).2.finish := by
  have same : ({} : EventDecoder).pushAll noisyChunks = ({} : EventDecoder).pushAll chunks := by
    rw [pushAll_eq_push_flatten .fresh, pushAll_eq_push_flatten .fresh,
      push_of_insertions rfl inserted]
  exact ⟨same, by rw [same]⟩

/-- An event of two lines, of which the first ends inside a character. -/
def cutOff : List UInt8 :=
  [100, 97, 116, 97, 58, 97, 0xC3, 10, 100, 97, 116, 97, 58, 98, 10, 10]

/-- The same with a carriage return behind that character and a comment between the two lines; the
comment is no text, and there are cuts on both sides of the carriage return and in the comment. -/
def noisyCutOff : List (List UInt8) :=
  [[100, 97, 116, 97, 58, 97, 0xC3], [13], [10, 58], [0xFF, 10, 100, 97, 116, 97, 58, 98, 10, 10]]

theorem pushAll_of_insertions_cut_character :
    Relation.ReflTransGen Insertion [cutOff].flatten noisyCutOff.flatten ∧
      ({} : EventDecoder).pushAll noisyCutOff = ([⟨none, "a\ufffd\nb"⟩], {}) := by
  have returned := Insertion.carriageReturn [100, 97, 116, 97, 58, 97, 0xC3]
    [100, 97, 116, 97, 58, 98, 10, 10]
  have commented : Insertion
      ([100, 97, 116, 97, 58, 97, 0xC3, 13, 10] ++ [100, 97, 116, 97, 58, 98, 10, 10])
      ([100, 97, 116, 97, 58, 97, 0xC3, 13, 10] ++
        ([58, 0xFF] ++ lineFeed :: [100, 97, 116, 97, 58, 98, 10, 10])) :=
    .noise (.inr rfl) (by decide) (.comment rfl) _
  have inserted : Relation.ReflTransGen Insertion [cutOff].flatten noisyCutOff.flatten :=
    (Relation.ReflTransGen.single returned).tail commented
  obtain ⟨same, -⟩ := pushAll_of_insertions inserted
  refine ⟨inserted, ?_⟩
  rw [same]
  decide +kernel

end Polyglot.EventDecoder
