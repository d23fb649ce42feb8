import Polyglot.Proofs.EventStream.Chunking
import Polyglot.Proofs.Text.Utf8

/-!
# Event streams read as a whole

`EventScript.events` reads a whole stream at once: the bytes become text, the text is split into
lines and the lines into blocks, and each block is one event or none. The main statement,
`push_finish_eq_events`, says that the decoder, which takes one line after the other and keeps a
name and data in between, gives exactly these events.

The way there: a push drains the lines of its bytes (`drain_eq_takeLines`), lines of one block only
add to the state (`takeLines_block`), and reading text commutes with splitting it into lines
(`Text.Utf8.splitOn_decodeLossy`).
-/

namespace Polyglot

/-! ## The grammar of a stream -/

namespace EventScript

/-- The lines of a text, without line feeds and without carriage returns at their ends. An empty
piece after the last line feed is no line. -/
def lines (text : List Char) : List (List Char) :=
  let pieces := (text.splitOn '\n').map (Text.dropTail (· == '\r'))
  if pieces.getLast? = some [] then pieces.dropLast else pieces

/-- What stands before the first colon of a line, or the whole line. -/
def fieldName (line : List Char) : List Char :=
  line.takeWhile (· != ':')

/-- What follows the first colon of a line, without one leading space. -/
def fieldValue (line : List Char) : List Char :=
  let after := (line.dropWhile (· != ':')).tail
  if after.head? = some ' ' then after.tail else after

/-- The values of the lines of a block that have a given field name. -/
def values (name : String) (block : List (List Char)) : List (List Char) :=
  (block.filter (fieldName · = name.toList)).map fieldValue

/-- The event of a block: its data are the values of all data lines, its name is the value of the
last line that names it. A block without data lines is no event. -/
def blockEvent (block : List (List Char)) : Option Event :=
  if values "data" block = [] then none
  else some {
    name := (values "event" block).getLast?.map String.ofList
    data := String.ofList (['\n'].intercalate (values "data" block)) }

/-- The events of a whole stream, one for each block between empty lines that is an event. -/
def events (bytes : List UInt8) : List Event :=
  ((lines (Text.Utf8.decodeLossy bytes)).splitOn []).filterMap blockEvent

end EventScript

namespace EventDecoder

open Text.Utf8 (lineFeed)
open EventScript

variable {decoder : EventDecoder} {bytes line rest : List UInt8}

/-! ## Lines -/

theorem splitField_eq (line : List Char) :
    splitField line = (fieldName line, fieldValue line) := by
  unfold splitField fieldName fieldValue
  simp only
  split
  · next none => rw [none]; rfl
  · next colon value spaced => rw [spaced]; rfl
  · next colon value unspaced after =>
    rw [after]
    cases value with
    | nil => rfl
    | cons c value =>
      have other : c ≠ ' ' := fun space => unspaced value (by rw [space])
      simp [other]

theorem values_cons (name : String) (line : List Char) (block : List (List Char)) :
    values name (line :: block) =
      (if fieldName line = name.toList then [fieldValue line] else []) ++ values name block := by
  unfold values
  rw [List.filter_cons]
  simp only [decide_eq_true_eq]
  split <;> rfl

theorem values_singleton (name : String) (line : List Char) :
    values name [line] = if fieldName line = name.toList then [fieldValue line] else [] := by
  rw [values_cons]
  exact List.append_nil _

/-- A line that is not empty ends no block: it may add to the data and may rename the block. -/
theorem takeLine_of_ne_nil {line : List Char} (filled : line ≠ []) (decoder : EventDecoder) :
    decoder.takeLine line =
      (none, { decoder with
        name := ((values "event" [line]).getLast?.map String.ofList).or decoder.name
        data := decoder.data ++ (values "data" [line]).map String.ofList }) := by
  unfold takeLine
  rw [values_singleton, values_singleton]
  split
  · exact absurd rfl filled
  · next comment =>
    -- a comment has the empty field name
    have unnamed : fieldName (':' :: comment) = [] := rfl
    rw [unnamed, if_neg (by decide), if_neg (by decide), List.map_nil, List.append_nil]
    rfl
  · rw [splitField_eq]
    simp only
    split
    · next isData =>
      rw [isData, if_neg (by decide)]
      rfl
    · rw [List.map_nil, List.append_nil]
      split <;> rfl

/-- Take some lines. -/
def takeLines (decoder : EventDecoder) : List (List Char) → List Event × EventDecoder
  | [] => ([], decoder)
  | line :: lines =>
    let taken := decoder.takeLine line
    let others := taken.2.takeLines lines
    (taken.1.toList ++ others.1, others.2)

theorem takeLines_append (decoder : EventDecoder) (first second : List (List Char)) :
    decoder.takeLines (first ++ second) =
      ((decoder.takeLines first).1 ++ ((decoder.takeLines first).2.takeLines second).1,
        ((decoder.takeLines first).2.takeLines second).2) := by
  induction first generalizing decoder with
  | nil => rfl
  | cons line first ih => simp only [List.cons_append, takeLines, ih, List.append_assoc]

theorem takeLines_withBuffer (decoder : EventDecoder) (buffer : List UInt8)
    (lines : List (List Char)) :
    { decoder with buffer }.takeLines lines =
      ((decoder.takeLines lines).1, { (decoder.takeLines lines).2 with buffer }) := by
  induction lines generalizing decoder with
  | nil => rfl
  | cons line lines ih => simp only [takeLines, takeLine_withBuffer, ih]

/-- The lines of one block give no event on the way and leave behind what they said. -/
theorem takeLines_block {block : List (List Char)} (filled : [] ∉ block)
    (decoder : EventDecoder) :
    decoder.takeLines block =
      ([], { decoder with
        name := ((values "event" block).getLast?.map String.ofList).or decoder.name
        data := decoder.data ++ (values "data" block).map String.ofList }) := by
  induction block generalizing decoder with
  | nil => simp [takeLines, values]
  | cons line block ih =>
    rw [List.mem_cons, not_or] at filled
    rw [takeLines, takeLine_of_ne_nil (Ne.symm filled.1), ih filled.2, values_singleton,
      values_singleton, values_cons, values_cons, List.map_append, List.append_assoc,
      List.getLast?_append, Option.map_or, Option.or_assoc]
    rfl

/-- Lines, and then the end of the stream. -/
def eventsOfLines (decoder : EventDecoder) (lines : List (List Char)) : List Event :=
  (decoder.takeLines lines).1 ++ (decoder.takeLines lines).2.endBlock.1.toList

theorem eventsOfLines_append (decoder : EventDecoder) (first second : List (List Char)) :
    decoder.eventsOfLines (first ++ second) =
      (decoder.takeLines first).1 ++ (decoder.takeLines first).2.eventsOfLines second := by
  simp only [eventsOfLines, takeLines_append, List.append_assoc]

theorem eventsOfLines_withBuffer (decoder : EventDecoder) (buffer : List UInt8)
    (lines : List (List Char)) :
    { decoder with buffer }.eventsOfLines lines = decoder.eventsOfLines lines := by
  simp only [eventsOfLines, takeLines_withBuffer, endBlock_withBuffer]

theorem joinData_map (data : List (List Char)) :
    joinData (data.map String.ofList) = String.ofList (['\n'].intercalate data) := by
  have inverse : String.toList ∘ String.ofList = id := funext fun _ => String.toList_ofList
  rw [← String.toList_inj, joinData, String.toList_intercalate, List.map_map, inverse,
    List.map_id, String.toList_ofList, String.toList_ofList]

theorem filterMap_blockEvent_cons (block : List (List Char)) (blocks : List (List (List Char))) :
    (block :: blocks).filterMap blockEvent =
      (blockEvent block).toList ++ blocks.filterMap blockEvent := by
  cases found : blockEvent block with
  | none => rw [List.filterMap_cons_none found]; rfl
  | some event => rw [List.filterMap_cons_some found]; rfl

/-- Ending the block that a fresh decoder has taken the lines of gives the event of the block. -/
theorem endBlock_takeLines {block : List (List Char)} (filled : [] ∉ block)
    (name : decoder.name = none) (data : decoder.data = []) :
    (decoder.takeLines block).2.endBlock.1 = blockEvent block := by
  rw [takeLines_block filled, name, data]
  unfold endBlock blockEvent
  simp only [List.nil_append, Option.or_none, List.isEmpty_iff, List.map_eq_nil_iff, joinData_map]
  split <;> rfl

theorem endBlock_state (decoder : EventDecoder) :
    decoder.endBlock.2 = { decoder with name := none, data := [] } := by
  unfold endBlock
  split <;> rfl

/-- The state machine of lines and the grammar of blocks give the same events. -/
theorem eventsOfLines_eq (lines : List (List Char)) (name : decoder.name = none)
    (data : decoder.data = []) :
    decoder.eventsOfLines lines = (lines.splitOn []).filterMap blockEvent := by
  unfold eventsOfLines
  induction size : lines.length using Nat.strongRecOn generalizing lines decoder with
  | _ n ih =>
    by_cases found : [] ∈ lines
    · obtain ⟨block, rest, rfl, filled⟩ := List.eq_append_cons_of_mem found
      have shorter : rest.length < n := by simp at size; omega
      have quiet : (decoder.takeLines block).1 = [] := by rw [takeLines_block filled]
      have ended := endBlock_takeLines filled name data
      have state := endBlock_state (decoder.takeLines block).2
      rw [List.splitOn_append_cons_self_of_not_mem filled, takeLines_append, takeLines, quiet,
        takeLine, ended, state, List.nil_append, List.append_assoc,
        ih rest.length shorter rest rfl rfl rfl, filterMap_blockEvent_cons]
    · rw [List.splitOn_eq_singleton found, endBlock_takeLines found name data,
        takeLines_block found, filterMap_blockEvent_cons]
      exact (List.append_nil _).symm

/-! ## Bytes -/

theorem firstLine?_eq_some (found : firstLine? bytes = some (line, rest)) :
    bytes = line ++ lineFeed :: rest ∧ lineFeed ∉ line := by
  by_cases present : lineFeed ∈ bytes
  · obtain ⟨line', rest', rfl, clean⟩ := List.eq_append_cons_of_mem present
    rw [firstLine?_append_lineFeed clean] at found
    cases found
    exact ⟨rfl, clean⟩
  · rw [firstLine?_eq_none_iff.mpr present] at found
    cases found

/-- Draining takes the lines that are complete and keeps the beginning of the next one. -/
theorem drain_eq_takeLines (decoder : EventDecoder) :
    decoder.drain =
      let taken := decoder.takeLines ((decoder.buffer.splitOn lineFeed).dropLast.map lineText)
      (taken.1, { taken.2 with buffer := (decoder.buffer.splitOn lineFeed).getLastD [] }) := by
  fun_induction drain decoder with
  | case1 decoder absent =>
    rw [List.splitOn_eq_singleton (firstLine?_eq_none_iff.mp absent)]
    rfl
  | case2 decoder line rest found taken drained ih =>
    obtain ⟨whole, clean⟩ := firstLine?_eq_some found
    obtain ⟨piece, pieces, split⟩ := List.exists_cons_of_ne_nil (List.splitOn_ne_nil lineFeed rest)
    have same : taken = ((decoder.takeLine (lineText line)).1,
        { (decoder.takeLine (lineText line)).2 with buffer := rest }) :=
      takeLine_withBuffer decoder rest (lineText line)
    show (taken.1.toList ++ taken.2.drain.1, taken.2.drain.2) = _
    rw [ih, same, whole, List.splitOn_append_cons_self_of_not_mem clean, split,
      List.dropLast_cons_cons, List.map_cons, takeLines, takeLines_withBuffer]
    rfl

/-! ## The end of the stream -/

/-- The end of the stream takes the line under way, unless its text is empty, and ends the block. -/
theorem finish_eq (decoder : EventDecoder) :
    decoder.finish.1.toList = decoder.eventsOfLines
      (if lineText decoder.buffer = [] then [] else [lineText decoder.buffer]) := by
  unfold finish
  by_cases empty : decoder.buffer.isEmpty
  · have blank : lineText [] = [] := rfl
    rw [if_pos empty, List.isEmpty_iff.mp empty, if_pos blank]
    rfl
  rw [if_neg empty]
  by_cases text : lineText decoder.buffer = []
  · -- an empty line ends the block, and ending it again gives nothing more
    rw [text, if_pos rfl, takeLine, endBlock_withBuffer]
    unfold eventsOfLines takeLines endBlock
    by_cases noData : decoder.data.isEmpty
    · rw [if_pos noData]
      rfl
    · rw [if_neg noData]
      rfl
  · have quiet : (decoder.takeLine (lineText decoder.buffer)).1 = none := by
      rw [takeLine_of_ne_nil text]
    rw [if_neg text, takeLine_withBuffer, eventsOfLines, takeLines, quiet]
    simp only [endBlock_withBuffer]
    rfl

/-- The lines of the text are the texts of the lines, the last one left out if it is empty. -/
theorem lines_decodeLossy (bytes : List UInt8) :
    lines (Text.Utf8.decodeLossy bytes) =
      (bytes.splitOn lineFeed).dropLast.map lineText ++
        (if lineText ((bytes.splitOn lineFeed).getLastD []) = [] then []
          else [lineText ((bytes.splitOn lineFeed).getLastD [])]) := by
  obtain absurdity | ⟨init, last, split⟩ := List.eq_nil_or_concat (bytes.splitOn lineFeed)
  · exact absurd absurdity (List.splitOn_ne_nil _ _)
  rw [List.concat_eq_append] at split
  have texts : ((Text.Utf8.decodeLossy bytes).splitOn '\n').map (Text.dropTail (· == '\r')) =
      init.map lineText ++ [lineText last] := by
    rw [Text.Utf8.splitOn_decodeLossy, split, List.map_map, List.map_append]
    rfl
  unfold lines
  simp only [texts, split, List.getLast?_concat, Option.some.injEq, List.dropLast_concat,
    List.getLastD_concat]
  split
  · exact (List.append_nil _).symm
  · rfl

/-- **Reading line by line is reading as a whole.** What a fresh decoder gives for any bytes and
for the end of the stream after them are the events of the whole stream. -/
theorem push_finish_eq_events (bytes : List UInt8) :
    (({} : EventDecoder).push bytes).1 ++ (({} : EventDecoder).push bytes).2.finish.1.toList =
      EventScript.events bytes := by
  have pushed := drain_eq_takeLines { buffer := bytes }
  simp only [takeLines_withBuffer {} bytes] at pushed
  rw [show ({} : EventDecoder).push bytes = drain { buffer := bytes } from rfl, pushed, finish_eq,
    eventsOfLines_withBuffer, ← eventsOfLines_append, ← lines_decodeLossy]
  exact eventsOfLines_eq _ rfl rfl

/-- The first block has a name but no data; the last one is not ended. -/
example : EventScript.events (Text.Utf8.encode "event: a\n\ndata: b\r\n:\ndata".toList) =
    [⟨none, "b\n"⟩] := by
  decide

end EventDecoder

end Polyglot
