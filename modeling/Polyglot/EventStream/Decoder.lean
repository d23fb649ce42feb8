import Polyglot.Text.Blank
import Polyglot.Text.Utf8

/-!
# Server-sent events

Events are blocks of lines that a blank line ends. A line `data: …` adds to the data of its block,
a line `event: …` names it, other fields and comments count for nothing. A block without data is
no event.

The decoder takes bytes in pieces of any size. Bytes are kept in a buffer until their line is
complete and only then read as text, so that a cut inside a character does no harm.
-/

namespace Polyglot

/-- One event: its name, if it has one, and its data lines joined by line feeds. -/
structure Event where
  name : Option String
  data : String
deriving DecidableEq, Repr

/-- The bytes that no line feed has ended yet, and what the block under way has said so far. -/
structure EventDecoder where
  buffer : List UInt8 := []
  name : Option String := none
  data : List String := []
deriving DecidableEq, Repr

namespace EventDecoder

open Text.Utf8 (lineFeed)

/-- A line as field and value: what stands before the first colon, and what stands after it
without one leading space. -/
def splitField (line : List Char) : List Char × List Char :=
  let field := line.takeWhile (· != ':')
  match line.dropWhile (· != ':') with
  | [] => (field, [])
  | _ :: ' ' :: value => (field, value)
  | _ :: value => (field, value)

/-- Data lines joined into one text. -/
def joinData (data : List String) : String :=
  "\n".intercalate data

/-- End the block: it is an event if it has data. -/
def endBlock (decoder : EventDecoder) : Option Event × EventDecoder :=
  let ended := { decoder with name := none, data := [] }
  if decoder.data.isEmpty then (none, ended)
  else (some ⟨decoder.name, joinData decoder.data⟩, ended)

/-- Take one line, without its end. -/
def takeLine (decoder : EventDecoder) (line : List Char) : Option Event × EventDecoder :=
  match line with
  | [] => decoder.endBlock
  | ':' :: _ => (none, decoder)
  | _ =>
    let (field, value) := splitField line
    if field = "data".toList then
      (none, { decoder with data := decoder.data ++ [String.ofList value] })
    else if field = "event".toList then
      (none, { decoder with name := some (String.ofList value) })
    else (none, decoder)

/-- The text of a line of bytes: ill-formed sequences are replaced, and carriage returns at the
end are dropped. -/
def lineText (line : List UInt8) : List Char :=
  Text.dropTail (· == '\r') (Text.Utf8.decodeLossy line)

/-- The first line of some bytes, without its line feed, and what follows it. -/
def firstLine? : List UInt8 → Option (List UInt8 × List UInt8)
  | [] => none
  | byte :: rest =>
    if byte = lineFeed then some ([], rest)
    else (firstLine? rest).map fun (line, rest) => (byte :: line, rest)

theorem firstLine?_length {bytes line rest : List UInt8}
    (h : firstLine? bytes = some (line, rest)) : rest.length < bytes.length := by
  induction bytes generalizing line rest with
  | nil => simp [firstLine?] at h
  | cons byte bytes ih =>
    unfold firstLine? at h
    split at h
    · simp only [Option.some.injEq, Prod.mk.injEq] at h
      rw [← h.2]
      exact Nat.lt_succ_self _
    · obtain ⟨⟨line', rest'⟩, found, heq⟩ := Option.map_eq_some_iff.mp h
      simp only [Prod.mk.injEq] at heq
      rw [← heq.2]
      exact Nat.lt_succ_of_lt (ih found)

/-- Ending a block leaves the buffer alone. -/
@[simp] theorem endBlock_buffer (decoder : EventDecoder) :
    decoder.endBlock.2.buffer = decoder.buffer := by
  unfold endBlock
  split <;> rfl

/-- So does taking a line. -/
@[simp] theorem takeLine_buffer (decoder : EventDecoder) (line : List Char) :
    (decoder.takeLine line).2.buffer = decoder.buffer := by
  unfold takeLine
  split
  · exact endBlock_buffer decoder
  · rfl
  · simp only
    split
    · rfl
    · split <;> rfl

/-- Take the lines that are complete out of the buffer, one after the other; the events that they
complete come out. -/
def drain (decoder : EventDecoder) : List Event × EventDecoder :=
  match h : firstLine? decoder.buffer with
  | none => ([], decoder)
  | some (line, rest) =>
    let taken := { decoder with buffer := rest }.takeLine (lineText line)
    let drained := taken.2.drain
    (taken.1.toList ++ drained.1, drained.2)
termination_by decoder.buffer.length
decreasing_by simpa using firstLine?_length h

/-- Take some bytes; the events that they complete come out. -/
def push (decoder : EventDecoder) (bytes : List UInt8) : List Event × EventDecoder :=
  { decoder with buffer := decoder.buffer ++ bytes }.drain

/-- The stream is over: an unfinished line and an unfinished block count as finished. -/
def finish (decoder : EventDecoder) : Option Event × EventDecoder :=
  if decoder.buffer.isEmpty then decoder.endBlock
  else match { decoder with buffer := [] }.takeLine (lineText decoder.buffer) with
    | (some event, decoder) => (some event, decoder)
    | (none, decoder) => decoder.endBlock

end EventDecoder

end Polyglot
