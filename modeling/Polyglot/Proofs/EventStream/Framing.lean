import Polyglot.Proofs.EventStream.Batch
import Polyglot.Proofs.Text.Lines

/-!
# Writing events

`EventScript.write` is how an event stands in a stream. Events that were written one after the
other are decoded as they were, and the decoder is then as good as new (`push_writeAll`); the
stream may be cut into chunks anywhere (**`pushAll_of_written`**). The end of a stream counts as two
line feeds (`push_lineFeeds`), so that the line feeds at the end of the last event may just as well
be missing (`push_finish_of_written`).
-/

namespace Polyglot

namespace EventScript

/-- Text that can stand on a line by itself. -/
structure IsLine (line : List Char) : Prop where
  single : '\n' ∉ line
  unreturned : line.getLast? ≠ some '\r'

/-- The lines of an event: its name, if it has one, and each line of its data. -/
def eventLines (event : Event) : List (List Char) :=
  (event.name.map ("event: ".toList ++ ·.toList)).toList ++
    (event.data.toList.splitOn '\n').map ("data: ".toList ++ ·)

/-- An event as it stands in a stream, an empty line at its end. -/
def write (event : Event) : List Char :=
  (eventLines event ++ [[]]).flatMap (· ++ ['\n'])

/-- Name and data can be written on lines. -/
structure IsWritable (event : Event) : Prop where
  name : ∀ name ∈ event.name, IsLine name.toList
  data : ∀ line ∈ event.data.toList.splitOn '\n', line.getLast? ≠ some '\r'

instance (line : List Char) : Decidable (IsLine line) :=
  decidable_of_iff ('\n' ∉ line ∧ line.getLast? ≠ some '\r')
    ⟨fun ⟨single, unreturned⟩ => ⟨single, unreturned⟩,
      fun plain => ⟨plain.single, plain.unreturned⟩⟩

instance (event : Event) : Decidable (IsWritable event) :=
  decidable_of_iff ((∀ name ∈ event.name, IsLine name.toList) ∧
      ∀ line ∈ event.data.toList.splitOn '\n', line.getLast? ≠ some '\r')
    ⟨fun ⟨name, data⟩ => ⟨name, data⟩, fun writable => ⟨writable.name, writable.data⟩⟩

/-- An event without a name whose data is one line. -/
theorem write_of_single {data : String} (single : '\n' ∉ data.toList) :
    write ⟨none, data⟩ = "data: ".toList ++ data.toList ++ ['\n', '\n'] := by
  simp [write, eventLines, List.splitOn_eq_singleton single]

end EventScript

namespace EventDecoder

open Text.Utf8 (lineFeed encode encode_append)
open EventScript

variable {decoder : EventDecoder} {line : List Char} {event : Event}

/-! ## Lines -/

/-- A line is read as it was written. -/
theorem lineText_encode (unreturned : line.getLast? ≠ some '\r') :
    lineText (encode line) = line := by
  rw [lineText, Text.Utf8.decodeLossy_encode, Text.dropTail]
  obtain rfl | ⟨init, last, rfl⟩ := List.eq_nil_or_concat line
  · rfl
  · rw [List.concat_eq_append, List.getLast?_concat] at unreturned
    have other : (last == '\r') = false := by
      rw [beq_eq_false_iff_ne]
      exact fun same => unreturned (by rw [same])
    simp [other]

/-- The bytes of a line and a line feed complete the line under way. -/
theorem push_append_lineFeed (decoder : EventDecoder) (bytes : List UInt8)
    (clean : lineFeed ∉ decoder.buffer ++ bytes) :
    decoder.push (bytes ++ [lineFeed]) =
      let taken := { decoder with buffer := [] }.takeLine (lineText (decoder.buffer ++ bytes))
      (taken.1.toList, taken.2) := by
  have found :
      firstLine? { decoder with buffer := decoder.buffer ++ (bytes ++ [lineFeed]) }.buffer =
        some (decoder.buffer ++ bytes, []) := by
    simp only [← List.append_assoc]
    exact firstLine?_append_lineFeed clean []
  have kept : lineFeed ∉ ({ decoder with buffer := [] }.takeLine
      (lineText (decoder.buffer ++ bytes))).2.buffer := by
    rw [takeLine_buffer]
    exact List.not_mem_nil
  rw [push, drain_of_line found]
  simp only [drain_of_clean kept, List.append_nil]

/-- A line that is pushed as a whole is taken as such. -/
theorem push_line (idle : decoder.buffer = []) (plain : IsLine line) :
    decoder.push (encode (line ++ ['\n'])) =
      ((decoder.takeLine line).1.toList, (decoder.takeLine line).2) := by
  have clean : lineFeed ∉ decoder.buffer ++ encode line := by
    rw [idle]
    exact Text.Utf8.lineFeed_not_mem_encode plain.single
  have same : { decoder with buffer := [] } = decoder := by rw [← idle]
  have pushed := push_append_lineFeed decoder (encode line) clean
  rw [same, idle, List.nil_append, lineText_encode plain.unreturned] at pushed
  rw [encode_append]
  exact pushed

/-- So are several lines. -/
theorem push_lines {lines : List (List Char)} (idle : decoder.buffer = [])
    (plain : ∀ line ∈ lines, IsLine line) :
    decoder.push (encode (lines.flatMap (· ++ ['\n']))) = decoder.takeLines lines := by
  induction lines generalizing decoder with
  | nil =>
    have clean : lineFeed ∉ decoder.buffer := by rw [idle]; exact List.not_mem_nil
    exact push_nil clean
  | cons line lines ih =>
    rw [List.forall_mem_cons] at plain
    have idle' : (decoder.takeLine line).2.buffer = [] := by rw [takeLine_buffer, idle]
    rw [List.flatMap_cons, encode_append, push_push, push_line idle plain.1, ih idle' plain.2]
    rfl

/-- Carriage returns at the end of a line make no difference. -/
theorem push_dropTail (idle : decoder.buffer = []) (single : '\n' ∉ line) :
    decoder.push (encode (line ++ ['\n'])) =
      decoder.push (encode (Text.dropTail (· == '\r') line ++ ['\n'])) := by
  have pushed {line : List Char} (single : '\n' ∉ line) :
      decoder.push (encode (line ++ ['\n'])) =
        let taken := { decoder with buffer := [] }.takeLine (Text.dropTail (· == '\r') line)
        (taken.1.toList, taken.2) := by
    have clean : lineFeed ∉ decoder.buffer ++ encode line := by
      rw [idle]
      exact Text.Utf8.lineFeed_not_mem_encode single
    have whole := push_append_lineFeed decoder (encode line) clean
    rw [idle, List.nil_append, lineText, Text.Utf8.decodeLossy_encode] at whole
    rw [encode_append]
    exact whole
  have kept : Text.dropTail (· == '\r') line <+: line := List.rdropWhile_prefix _ line
  have twice : Text.dropTail (· == '\r') (Text.dropTail (· == '\r') line) =
      Text.dropTail (· == '\r') line := List.rdropWhile_idempotent _ line
  rw [pushed single, pushed fun mem => single (kept.subset mem), twice]

/-! ## Events -/

/-- A field name, a colon and a space in front of a line make a line. -/
theorem isLine_field {field : List Char} (single : '\n' ∉ field)
    (spaced : field.getLast? = some ' ') (plain : IsLine line) : IsLine (field ++ line) where
  single := by
    rw [List.mem_append, not_or]
    exact ⟨single, plain.single⟩
  unreturned := by
    have last := plain.unreturned
    rw [List.getLast?_append, spaced]
    cases found : line.getLast? with
    | none => decide
    | some c => rwa [found] at last

theorem isLine_of_mem_eventLines (writable : IsWritable event) (mem : line ∈ eventLines event) :
    IsLine line ∧ line ≠ [] := by
  rw [eventLines, List.mem_append, Option.mem_toList, Option.map_eq_some_iff, List.mem_map] at mem
  obtain ⟨name, named, rfl⟩ | ⟨value, mem, rfl⟩ := mem
  · exact ⟨isLine_field (by decide) rfl (writable.name name named), by simp⟩
  · exact ⟨isLine_field (by decide) rfl ⟨Text.not_mem_of_mem_splitOn mem, writable.data value mem⟩,
      by simp⟩

theorem values_map_data (name : String) (lines : List (List Char)) :
    values name (lines.map ("data: ".toList ++ ·)) = if name = "data" then lines else [] := by
  induction lines with
  | nil => simp [values]
  | cons line lines ih =>
    have field : fieldName ("data: ".toList ++ line) = "data".toList := rfl
    have value : fieldValue ("data: ".toList ++ line) = line := rfl
    rw [List.map_cons, values_cons, ih, field, value]
    by_cases same : name = "data"
    · rw [if_pos same, if_pos same, same, if_pos rfl]
      rfl
    · have other : ¬ "data".toList = name.toList := fun eq => same (String.toList_inj.mp eq).symm
      rw [if_neg same, if_neg same, if_neg other]
      rfl

theorem values_eventLines (event : Event) :
    values "data" (eventLines event) = event.data.toList.splitOn '\n' ∧
      values "event" (eventLines event) = (event.name.map String.toList).toList := by
  cases named : event.name with
  | none =>
    rw [eventLines, named]
    simp only [Option.map_none, Option.toList_none, List.nil_append, values_map_data]
    exact ⟨rfl, rfl⟩
  | some name =>
    have field : fieldName ("event: ".toList ++ name.toList) = "event".toList := rfl
    have value : fieldValue ("event: ".toList ++ name.toList) = name.toList := rfl
    rw [eventLines, named]
    simp only [Option.map_some, Option.toList_some, List.cons_append, List.nil_append,
      values_cons, values_map_data, field, value]
    exact ⟨rfl, rfl⟩

/-- A written event is decoded as it was. -/
theorem push_write (writable : IsWritable event) :
    ({} : EventDecoder).push (encode (write event)) = ([event], {}) := by
  -- every line of the text is read as it was written
  have plain : ∀ line ∈ eventLines event ++ [[]], IsLine line := by
    intro line mem
    rw [List.mem_append, List.mem_singleton] at mem
    obtain mem | rfl := mem
    · exact (isLine_of_mem_eventLines writable mem).1
    · exact ⟨List.not_mem_nil, by decide⟩
  have filled : [] ∉ eventLines event := fun mem => (isLine_of_mem_eventLines writable mem).2 rfl
  obtain ⟨data, name⟩ := values_eventLines event
  have filledData : ((event.data.toList.splitOn '\n').map String.ofList).isEmpty = false := by
    simp
  have joined : joinData ((event.data.toList.splitOn '\n').map String.ofList) = event.data := by
    rw [joinData_map, List.intercalate_splitOn, String.ofList_toList]
  have named : ((event.name.map String.toList).toList.getLast?.map String.ofList).or none =
      event.name := by
    cases event.name <;> simp
  rw [write, push_lines rfl plain, takeLines_append, takeLines_block filled, data, name]
  simp only [takeLines, takeLine, endBlock, List.nil_append, filledData, joined, named]
  rfl

/-- Written events are decoded as they were, and nothing of them is left behind. -/
theorem push_writeAll {events : List Event} (writable : ∀ event ∈ events, IsWritable event) :
    ({} : EventDecoder).push (encode (events.flatMap write)) = (events, {}) := by
  induction events with
  | nil => exact push_nil List.not_mem_nil
  | cons event events ih =>
    rw [List.forall_mem_cons] at writable
    rw [List.flatMap_cons, encode_append, push_push, push_write writable.1, ih writable.2]
    rfl

/-- **Round trip.** Events that were written one after the other come out of a new decoder as they
were, in whatever chunks their bytes arrive: each with its own name or none, and with its data line
by line. Nothing is left behind, so the end of the stream gives no event more. -/
theorem pushAll_of_written {events : List Event} (writable : ∀ event ∈ events, IsWritable event)
    {chunks : List (List UInt8)} (written : chunks.flatten = encode (events.flatMap write)) :
    ({} : EventDecoder).pushAll chunks = (events, {}) ∧
      (({} : EventDecoder).pushAll chunks).2.finish = (none, {}) := by
  have decoded : ({} : EventDecoder).pushAll chunks = (events, {}) := by
    rw [pushAll_eq_push_flatten .fresh, written, push_writeAll writable]
  refine ⟨decoded, ?_⟩
  rw [decoded]
  rfl

/-- Names and data that are empty, that begin with spaces and colons, that look like fields, and
that have carriage returns inside. -/
def awkward : List Event := [
  ⟨some "", ""⟩,
  ⟨none, " : data: x\r y\n\ndata: [DONE]"⟩,
  ⟨some " :é\rdata: z", "event: é\n"⟩]

/-- They are cut inside a character, between the two line feeds of an empty line, and around
nothing. -/
theorem pushAll_of_written_awkward :
    let bytes := encode (awkward.flatMap write)
    let chunks := [bytes.take 15, [], (bytes.drop 15).take 58, bytes.drop 73]
    (∀ event ∈ awkward, IsWritable event) ∧ chunks.flatten = bytes ∧
      ({} : EventDecoder).pushAll chunks = (awkward, {}) ∧
      (({} : EventDecoder).pushAll chunks).2.finish = (none, {}) := by
  intro bytes chunks
  have writable : ∀ event ∈ awkward, IsWritable event := by decide
  have whole : chunks.flatten = bytes := by decide
  exact ⟨writable, whole, pushAll_of_written writable whole⟩

/-! ## The end of a stream -/

/-- A line feed by itself ends the block. -/
theorem push_lineFeed (idle : decoder.buffer = []) :
    decoder.push [lineFeed] = (decoder.endBlock.1.toList, decoder.endBlock.2) :=
  push_line idle ⟨List.not_mem_nil, by decide⟩

/-- A fresh decoder makes nothing of line feeds. -/
theorem push_replicate_lineFeed (n : Nat) :
    ({} : EventDecoder).push (List.replicate n lineFeed) = ([], {}) := by
  induction n with
  | zero => exact push_nil List.not_mem_nil
  | succ n ih =>
    rw [List.replicate_succ, ← List.singleton_append, push_push, push_lineFeed rfl]
    exact ih

/-- The end of a stream completes the events that two line feeds complete, and these leave
nothing behind. -/
theorem push_lineFeeds (clean : lineFeed ∉ decoder.buffer) :
    decoder.push [lineFeed, lineFeed] = (decoder.finish.1.toList, {}) := by
  let taken := { decoder with buffer := [] }.takeLine (lineText decoder.buffer)
  have idle : taken.2.buffer = [] := takeLine_buffer _ _
  have first : decoder.push [lineFeed] = (taken.1.toList, taken.2) := by
    have pushed := push_append_lineFeed decoder []
    rw [List.append_nil] at pushed
    exact pushed clean
  have events : taken.1.toList ++ taken.2.endBlock.1.toList =
      decoder.eventsOfLines [lineText decoder.buffer] := by
    rw [← eventsOfLines_withBuffer decoder [], eventsOfLines, takeLines, takeLines, List.append_nil]
  have state : taken.2.endBlock.2 = {} := by rw [endBlock_state, idle]
  rw [show [lineFeed, lineFeed] = [lineFeed] ++ [lineFeed] from rfl, push_push, first,
    push_lineFeed idle, state, finish_eq]
  simp only [events]
  split
  · next blank =>
    -- ending a block that has just been ended gives nothing more
    have twice : decoder.endBlock.2.endBlock.1 = none := by
      rw [endBlock_state]
      rfl
    rw [blank, eventsOfLines, takeLines, takeLines, takeLine, List.append_nil, twice]
    exact congrArg (·, _) (List.append_nil _)
  · rfl

/-- Written events are decoded as they were, also where the line feeds that end the last of them
are missing. -/
theorem push_finish_of_written {events : List Event}
    (writable : ∀ event ∈ events, IsWritable event) {bytes : List UInt8} {missing : Nat}
    (few : missing ≤ 2)
    (written : bytes ++ List.replicate missing lineFeed = encode (events.flatMap write)) :
    (({} : EventDecoder).push bytes).1 ++ (({} : EventDecoder).push bytes).2.finish.1.toList =
      events := by
  have clean : lineFeed ∉ (({} : EventDecoder).push bytes).2.buffer := drain_clean _
  have ended := push_push {} bytes [lineFeed, lineFeed]
  rw [push_lineFeeds clean] at ended
  have split : [lineFeed, lineFeed] =
      List.replicate missing lineFeed ++ List.replicate (2 - missing) lineFeed := by
    rw [List.replicate_append_replicate, Nat.add_sub_cancel' few]
    rfl
  have whole := push_push {} (encode (events.flatMap write)) (List.replicate (2 - missing) lineFeed)
  rw [push_writeAll writable, push_replicate_lineFeed, ← written, List.append_assoc, ← split,
    ended] at whole
  have events' := congrArg Prod.fst whole
  simpa using events'

end EventDecoder

end Polyglot
