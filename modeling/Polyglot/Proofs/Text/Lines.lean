import Mathlib.Data.List.DropRight
import Polyglot.Proofs.Text.Utf8
import Polyglot.Text.Blank
import Polyglot.Text.Lines

/-!
# Parts of a text

Every piece between two marks is a part of the text (`infix_of_mem_splitOn`), and so is every line
(`infix_of_mem_lines`). The other way round, lines that do not end in a carriage return come back
from their join (`lines_intercalate`); a line ends in one only where there were two
(`returns_of_mem_lines`). A run of characters of one kind ends where one of another kind follows
(`takeWhile_run`). Trimming takes blanks off both ends and nothing else (`exists_blanks_around`),
and stops at the first character that is none (`trimmed_cons`).

An excerpt is counted in characters, a text is stored in bytes. The bytes of the first characters
are the first bytes (`encode_take_prefix`), and fewer than all just when there are more characters
(`utf8ByteSize_truncate_lt_iff`), so that the ellipsis, for which sizes in bytes are compared,
stands just where characters are left out (`preview_of_lt`).
-/

namespace Polyglot.Text

/-! ## Runs -/

section

variable {run rest : List Char} {test : Char → Bool}

/-- What is left behind a run does not go on with it. -/
theorem head?_dropWhile {cs : List Char} {c : Char} (next : (cs.dropWhile test).head? = some c) :
    test c = false := by
  have stops := List.head?_dropWhile_not test cs
  rwa [next] at stops

/-- A run is taken as a whole, and nothing behind it. -/
theorem takeWhile_run (inside : ∀ c ∈ run, test c = true)
    (outside : ∀ c, rest.head? = some c → test c = false) : (run ++ rest).takeWhile test = run := by
  rw [List.takeWhile_append_of_pos inside]
  cases rest with
  | nil => simp
  | cons c rest => simp [outside c rfl]

theorem dropWhile_run (inside : ∀ c ∈ run, test c = true)
    (outside : ∀ c, rest.head? = some c → test c = false) :
    (run ++ rest).dropWhile test = rest := by
  rw [List.dropWhile_append_of_pos inside]
  cases rest with
  | nil => rfl
  | cons c rest => simp [outside c rfl]

end

/-! ## Pieces -/

/-- Every piece is a part of what they are joined to. -/
theorem infix_intercalate {mark : Char} {piece : List Char} {pieces : List (List Char)}
    (listed : piece ∈ pieces) : piece <:+: List.intercalate [mark] pieces := by
  induction pieces with
  | nil => cases listed
  | cons first others ih =>
    cases others with
    | nil =>
      obtain rfl := List.mem_singleton.mp listed
      exact ⟨[], [], by rw [List.intercalate_singleton, List.nil_append, List.append_nil]⟩
    | cons second others =>
      rw [List.intercalate_cons_cons]
      obtain rfl | later := List.mem_cons.mp listed
      · exact ((List.prefix_append _ _).trans (List.prefix_append _ _)).isInfix
      · exact (ih later).trans (List.suffix_append _ _).isInfix

theorem infix_of_mem_splitOn {mark : Char} {cs piece : List Char}
    (listed : piece ∈ cs.splitOn mark) : piece <:+: cs := by
  have within : piece <:+: List.intercalate [mark] (cs.splitOn mark) := infix_intercalate listed
  rwa [List.intercalate_splitOn] at within

/-- No piece has the mark in it. -/
theorem not_mem_of_mem_splitOn {mark : Char} {cs piece : List Char}
    (listed : piece ∈ cs.splitOn mark) : mark ∉ piece := by
  induction cs generalizing piece with
  | nil =>
    rw [List.splitOn_nil, List.mem_singleton] at listed
    simp [listed]
  | cons c cs ih =>
    rw [List.splitOn_cons_eq_if_modifyHead] at listed
    split at listed
    · rcases List.mem_cons.mp listed with rfl | later
      · exact List.not_mem_nil
      · exact ih later
    · next other =>
      -- the character joins the first of the other pieces
      obtain ⟨first, others, split⟩ := List.exists_cons_of_ne_nil (List.splitOn_ne_nil mark cs)
      rw [split] at listed ih
      rcases List.mem_cons.mp listed with rfl | later
      · rw [List.mem_cons, not_or]
        exact ⟨fun same => other (beq_iff_eq.mpr same.symm), ih List.mem_cons_self⟩
      · exact ih (List.mem_cons_of_mem _ later)

/-- The first of several pieces stands in front of the others, a mark between them. -/
theorem intercalate_cons (mark : Char) (piece : List Char) {pieces : List (List Char)}
    (more : pieces ≠ []) :
    List.intercalate [mark] (piece :: pieces) =
      piece ++ mark :: List.intercalate [mark] pieces := by
  rw [List.intercalate_cons_of_ne_nil more, List.append_assoc, List.singleton_append]

/-- A join begins as its first piece does, if there is something in it. -/
theorem head?_intercalate_cons (mark : Char) {piece : List Char} {c : Char}
    (first : piece.head? = some c) (pieces : List (List Char)) :
    (List.intercalate [mark] (piece :: pieces)).head? = some c := by
  cases pieces with
  | nil => rwa [List.intercalate_singleton]
  | cons second others =>
    rw [intercalate_cons _ _ (List.cons_ne_nil _ _), List.head?_append, first, Option.some_or]

/-- A join ends as that of its last pieces does, and behind a mark if there are others. -/
theorem exists_intercalate_append (mark : Char) (pieces : List (List Char))
    {more : List (List Char)} (filled : more ≠ []) :
    ∃ front, List.intercalate [mark] (pieces ++ more) = front ++ List.intercalate [mark] more ∧
      (front = [] ∧ pieces = [] ∨ front.getLast? = some mark) := by
  induction pieces with
  | nil => exact ⟨[], rfl, .inl ⟨rfl, rfl⟩⟩
  | cons piece pieces ih =>
    obtain ⟨front, whole, ended⟩ := ih
    have filled' : pieces ++ more ≠ [] := List.append_ne_nil_of_right_ne_nil _ filled
    refine ⟨piece ++ mark :: front, ?_, .inr ?_⟩
    · rw [List.cons_append, intercalate_cons _ _ filled', whole, List.append_assoc,
        List.cons_append]
    · rw [List.getLast?_append, List.getLast?_cons]
      rcases ended with ⟨rfl, -⟩ | marked
      · rfl
      · rw [marked]
        rfl

/-- A join ends as its last piece does. -/
theorem exists_intercalate_concat (mark : Char) (pieces : List (List Char)) (last : List Char) :
    ∃ front, List.intercalate [mark] (pieces ++ [last]) = front ++ last ∧
      (front = [] ∧ pieces = [] ∨ front.getLast? = some mark) := by
  have joined := exists_intercalate_append mark pieces (List.cons_ne_nil last [])
  rwa [List.intercalate_singleton] at joined

/-- A piece that is not the last stands in a join with a mark behind it. -/
theorem concat_infix_intercalate {mark : Char} {piece : List Char} {pieces : List (List Char)}
    (listed : piece ∈ pieces) (last : List Char) :
    piece ++ [mark] <:+: List.intercalate [mark] (pieces ++ [last]) := by
  induction pieces with
  | nil => cases listed
  | cons first others ih =>
    have more : others ++ [last] ≠ [] := List.append_ne_nil_of_right_ne_nil _ (List.cons_ne_nil _ _)
    rw [List.cons_append, intercalate_cons _ _ more]
    rcases List.mem_cons.mp listed with rfl | later
    · exact ⟨[], List.intercalate [mark] (others ++ [last]), by simp⟩
    · exact (ih later).trans ((List.suffix_cons mark _).trans (List.suffix_append _ _)).isInfix

/-! ## Ends and lines -/

/-- What is dropped from the end stops at a character that stays. -/
theorem dropTail_cons {test : Char → Bool} {c : Char} (kept : test c = false) (cs : List Char) :
    dropTail test (c :: cs) = c :: dropTail test cs := by
  unfold dropTail
  rw [List.reverse_cons, List.dropWhile_append]
  split
  · next empty =>
    rw [List.isEmpty_iff.mp empty, List.dropWhile_cons_of_neg (by rw [kept]; decide)]
    rfl
  · rw [List.reverse_append]
    rfl

/-- In front of a character that stays nothing is dropped. -/
theorem dropTail_append {test : Char → Bool} {back : List Char} {c : Char} (mem : c ∈ back)
    (stays : test c = false) (front : List Char) :
    dropTail test (front ++ back) = front ++ dropTail test back := by
  have left : (back.reverse.dropWhile test).isEmpty = false := by
    rw [List.isEmpty_eq_false_iff]
    intro nothing
    have gone := List.dropWhile_eq_nil_iff.mp nothing c (List.mem_reverse.mpr mem)
    rw [stays] at gone
    cases gone
  rw [dropTail, List.reverse_append, List.dropWhile_append, left, if_neg Bool.false_ne_true,
    List.reverse_append, List.reverse_reverse, dropTail]

/-- The last character that stays is none that would be dropped. -/
theorem getLast?_dropTail {test : Char → Bool} {c : Char} {cs : List Char}
    (last : (dropTail test cs).getLast? = some c) : test c = false := by
  rw [dropTail, List.getLast?_reverse] at last
  exact head?_dropWhile last

theorem getLast?_trimmed {c : Char} {cs : List Char} (last : (trimmed cs).getLast? = some c) :
    isBlank c = false :=
  getLast?_dropTail last

theorem ne_of_blank {c d : Char} (ink : isBlank c = false) (blank : isBlank d = true) : c ≠ d := by
  rintro rfl
  rw [blank] at ink
  cases ink

/-- Trimming leaves a text with the character that it begins with, unless this is blank. -/
theorem trimmed_cons {c : Char} (ink : isBlank c = false) (cs : List Char) :
    trimmed (c :: cs) = c :: dropTail isBlank cs := by
  rw [trimmed, List.dropWhile_cons_of_neg (by rw [ink]; decide), dropTail_cons ink]

/-- Blanks at the beginning make no difference to trimming. -/
theorem trimmed_blanks_append {blanks : List Char} (blank : ∀ c ∈ blanks, isBlank c = true)
    (cs : List Char) : trimmed (blanks ++ cs) = trimmed cs := by
  rw [trimmed, List.dropWhile_append_of_pos blank, trimmed]

/-- A blank at the end makes no difference to trimming. -/
theorem trimmed_append_blank {c : Char} (blank : isBlank c = true) (cs : List Char) :
    trimmed (cs ++ [c]) = trimmed cs := by
  rw [trimmed, trimmed, List.dropWhile_append]
  split
  · next empty =>
    rw [List.isEmpty_iff.mp empty, List.dropWhile_cons_of_pos blank]
    rfl
  · exact List.rdropWhile_concat_pos _ _ _ blank

/-- Blanks at the end make no difference to trimming. -/
theorem trimmed_append_blanks {blanks : List Char} (blank : ∀ c ∈ blanks, isBlank c = true)
    (cs : List Char) : trimmed (cs ++ blanks) = trimmed cs := by
  induction blanks generalizing cs with
  | nil => rw [List.append_nil]
  | cons c blanks ih =>
    obtain ⟨here, later⟩ := List.forall_mem_cons.mp blank
    rw [List.append_cons, ih later, trimmed_append_blank here]

/-- Nor does dropping some blanks at the end before. -/
theorem trimmed_dropTail {test : Char → Bool} (blank : ∀ c, test c → isBlank c) (cs : List Char) :
    trimmed (dropTail test cs) = trimmed cs := by
  induction cs using List.reverseRecOn with
  | nil => rfl
  | append_singleton cs c ih =>
    by_cases dropped : test c
    · rw [trimmed_append_blank (blank c dropped), ← ih]
      exact congrArg trimmed (List.rdropWhile_concat_pos _ _ _ dropped)
    · exact congrArg trimmed (List.rdropWhile_concat_neg _ _ _ dropped)

theorem trimmed_isInfix (cs : List Char) : trimmed cs <:+: cs :=
  (List.rdropWhile_prefix isBlank _).isInfix.trans (List.dropWhile_suffix isBlank).isInfix

/-- Trimming takes blanks off both ends and nothing else. -/
theorem exists_blanks_around (cs : List Char) :
    ∃ front back, cs = front ++ trimmed cs ++ back ∧ (∀ c ∈ front, isBlank c = true) ∧
      ∀ c ∈ back, isBlank c = true := by
  let rest := cs.dropWhile isBlank
  have second : trimmed cs ++ (rest.reverse.takeWhile isBlank).reverse = rest := by
    rw [trimmed, dropTail, ← List.reverse_append, List.takeWhile_append_dropWhile,
      List.reverse_reverse]
  refine ⟨cs.takeWhile isBlank, (rest.reverse.takeWhile isBlank).reverse, ?_, ?_, ?_⟩
  · rw [List.append_assoc, second, List.takeWhile_append_dropWhile]
  · exact fun c mem => List.mem_takeWhile_imp mem
  · exact fun c mem => List.mem_takeWhile_imp (List.mem_reverse.mp mem)

/-- What is no blank is in a text just where it is in the trimmed text. -/
theorem mem_trimmed_iff {c : Char} (ink : isBlank c = false) {cs : List Char} :
    c ∈ trimmed cs ↔ c ∈ cs := by
  refine ⟨fun mem => (trimmed_isInfix cs).subset mem, fun mem => ?_⟩
  obtain ⟨front, back, whole, before, behind⟩ := exists_blanks_around cs
  rw [whole] at mem
  rcases List.mem_append.mp mem with within | after
  · rcases List.mem_append.mp within with early | inside
    · rw [before c early] at ink
      cases ink
    · exact inside
  · rw [behind c after] at ink
    cases ink

/-- Trimming leaves all that is not blank. -/
theorem filter_ink_trimmed (cs : List Char) :
    (trimmed cs).filter (!isBlank ·) = cs.filter (!isBlank ·) := by
  obtain ⟨front, back, around, before, behind⟩ := exists_blanks_around cs
  have none {blanks : List Char} (blank : ∀ c ∈ blanks, isBlank c = true) :
      blanks.filter (!isBlank ·) = [] := by
    rw [List.filter_eq_nil_iff]
    intro c mem
    rw [blank c mem]
    decide
  nth_rewrite 2 [around]
  rw [List.filter_append, List.filter_append, none before, none behind, List.nil_append,
    List.append_nil]

/-- A text with more ink in front of it is another one after trimming too. -/
theorem trimmed_append_ne {front : List Char} {c : Char} (mem : c ∈ front)
    (ink : isBlank c = false) (cs : List Char) : trimmed (front ++ cs) ≠ trimmed cs := by
  intro same
  have inked := congrArg (List.filter (!isBlank ·)) same
  rw [filter_ink_trimmed, filter_ink_trimmed, List.filter_append, List.append_left_eq_self,
    List.filter_eq_nil_iff] at inked
  exact inked c mem (by rw [ink]; rfl)

theorem dropReturn_isPrefix (cs : List Char) : dropReturn cs <+: cs := by
  unfold dropReturn
  split
  · exact List.dropLast_prefix cs
  · exact List.prefix_rfl

/-- A line begins with the first of its characters, unless that is a carriage return. -/
theorem head?_dropReturn {cs : List Char} {c : Char} (first : cs.head? = some c)
    (other : c ≠ '\r') : (dropReturn cs).head? = some c := by
  obtain ⟨rest, rfl⟩ := List.head?_eq_some_iff.mp first
  unfold dropReturn
  split
  · next last =>
    cases rest with
    | nil => exact absurd (Option.some.inj last) other
    | cons d rest => rfl
  · rfl

theorem dropReturn_of_ne {cs : List Char} (other : cs.getLast? ≠ some '\r') :
    dropReturn cs = cs := by
  unfold dropReturn
  split
  · next last => exact absurd last other
  · rfl

/-- A carriage return at the end of a line was the first of two. -/
theorem getLast?_dropReturn {cs : List Char} (last : (dropReturn cs).getLast? = some '\r') :
    "\r\r".toList <:+ cs := by
  by_cases returned : cs.getLast? = some '\r'
  · obtain ⟨rest, rfl⟩ := List.getLast?_eq_some_iff.mp returned
    rw [dropReturn, returned] at last
    change (rest ++ ['\r']).dropLast.getLast? = some '\r' at last
    rw [List.dropLast_concat] at last
    obtain ⟨front, rfl⟩ := List.getLast?_eq_some_iff.mp last
    exact ⟨front, List.append_cons front '\r' ['\r']⟩
  · rw [dropReturn_of_ne returned] at last
    exact absurd last returned

/-- The pieces are the ended lines and what follows the last of them. -/
theorem splitOn_eq_terminatedLines (cs : List Char) :
    cs.splitOn '\n' = (terminatedLines cs).1 ++ [(terminatedLines cs).2] := by
  rw [terminatedLines, List.getLastD_eq_getLast?,
    List.getLast?_eq_some_getLast (List.splitOn_ne_nil '\n' cs)]
  exact (List.dropLast_concat_getLast _).symm

/-- What follows the last line feed is a piece like any other. -/
theorem terminatedLines_snd_mem (cs : List Char) : (terminatedLines cs).2 ∈ cs.splitOn '\n' := by
  rw [splitOn_eq_terminatedLines]
  exact List.mem_append_right _ List.mem_cons_self

theorem terminatedLines_append_cons {line : List Char} (whole : '\n' ∉ line) (rest : List Char) :
    (terminatedLines (line ++ '\n' :: rest)).1 = line :: (terminatedLines rest).1 := by
  rw [terminatedLines, List.splitOn_append_cons_self, List.splitOn_eq_singleton whole]
  exact List.dropLast_cons_of_ne_nil (List.splitOn_ne_nil '\n' rest)

theorem terminatedLines_of_not_mem {cs : List Char} (absent : '\n' ∉ cs) :
    (terminatedLines cs).1 = [] := by
  rw [terminatedLines, List.splitOn_eq_singleton absent]
  rfl

/-- A text that ends in something else than a line feed ends in its last line. -/
theorem getLast?_terminatedLines_snd {cs : List Char} {c : Char} (last : cs.getLast? = some c)
    (other : c ≠ '\n') : (terminatedLines cs).2.getLast? = some c := by
  obtain ⟨front, whole, ended⟩ :=
    exists_intercalate_concat '\n' (terminatedLines cs).1 (terminatedLines cs).2
  rw [← splitOn_eq_terminatedLines, List.intercalate_splitOn] at whole
  rw [whole, List.getLast?_append] at last
  cases rest : (terminatedLines cs).2.getLast? with
  | some d => rwa [rest, Option.some_or] at last
  | none =>
    rw [rest, Option.none_or] at last
    rcases ended with ⟨rfl, -⟩ | lineFeed
    · cases last
    · rw [lineFeed] at last
      exact absurd (Option.some.inj last).symm other

/-- The lines of such a text are the ended ones and the last one. -/
theorem lines_eq_concat {cs : List Char} {c : Char} (last : cs.getLast? = some c)
    (other : c ≠ '\n') :
    lines cs = (terminatedLines cs).1.map dropReturn ++ [(terminatedLines cs).2] := by
  have filled : (terminatedLines cs).2.isEmpty = false := by
    rw [List.isEmpty_eq_false_iff]
    intro nothing
    have ended := getLast?_terminatedLines_snd last other
    rw [nothing] at ended
    cases ended
  simp only [lines, filled, Bool.false_eq_true, if_false]

/-- Lines are what their join has for lines, if no line feed is in them and no carriage return at
their ends. -/
theorem lines_intercalate {ended : List (List Char)} {last : List Char} (filled : last ≠ [])
    (whole : ∀ line ∈ ended ++ [last], '\n' ∉ line)
    (bare : ∀ line ∈ ended, line.getLast? ≠ some '\r') :
    lines (List.intercalate ['\n'] (ended ++ [last])) = ended ++ [last] := by
  have pieces : (List.intercalate ['\n'] (ended ++ [last])).splitOn '\n' = ended ++ [last] :=
    List.splitOn_intercalate _ whole (List.append_ne_nil_of_right_ne_nil _ (List.cons_ne_nil _ _))
  have untouched : ended.map dropReturn = ended := by
    conv_rhs => rw [← List.map_id ended]
    exact List.map_congr_left fun line listed => dropReturn_of_ne (bare line listed)
  have split : terminatedLines (List.intercalate ['\n'] (ended ++ [last])) = (ended, last) := by
    rw [terminatedLines, pieces, List.dropLast_concat, List.getLastD_concat]
  simp only [lines, split, untouched, List.isEmpty_eq_false_iff.mpr filled, Bool.false_eq_true,
    if_false]

/-- Every line is what stands between two line feeds, perhaps without a carriage return. -/
theorem exists_piece_of_mem_lines {cs line : List Char} (listed : line ∈ lines cs) :
    ∃ piece ∈ cs.splitOn '\n', line <+: piece := by
  rw [lines] at listed
  rcases List.mem_append.mp listed with ended | last
  · obtain ⟨piece, inner, rfl⟩ := List.mem_map.mp ended
    exact ⟨piece, List.dropLast_subset _ inner, dropReturn_isPrefix piece⟩
  · split at last
    · cases last
    · obtain rfl := List.mem_singleton.mp last
      exact ⟨_, terminatedLines_snd_mem cs, List.prefix_rfl⟩

/-- So it is a part of the text. -/
theorem infix_of_mem_lines {cs line : List Char} (listed : line ∈ lines cs) : line <:+: cs := by
  obtain ⟨piece, inner, front⟩ := exists_piece_of_mem_lines listed
  exact front.isInfix.trans (infix_of_mem_splitOn inner)

theorem lineFeed_not_mem_of_mem_lines {cs line : List Char} (listed : line ∈ lines cs) :
    '\n' ∉ line := by
  obtain ⟨piece, inner, front⟩ := exists_piece_of_mem_lines listed
  exact fun mem => not_mem_of_mem_splitOn inner (front.subset mem)

/-- A text that begins with no blank begins with its first line. -/
theorem head?_lines {cs : List Char} {c : Char} (first : cs.head? = some c)
    (ink : isBlank c = false) : ∃ line others, lines cs = line :: others ∧ line.head? = some c := by
  have whole : List.intercalate ['\n'] (cs.splitOn '\n') = cs := List.intercalate_splitOn '\n'
  rw [splitOn_eq_terminatedLines] at whole
  rw [lines]
  generalize terminatedLines cs = split at whole
  obtain ⟨ended, last⟩ := split
  -- the first line is all there is, or the first one that a line feed ends
  cases ended with
  | nil =>
    obtain rfl : last = cs := List.intercalate_singleton.symm.trans whole
    obtain ⟨rest, rfl⟩ := List.head?_eq_some_iff.mp first
    exact ⟨c :: rest, [], rfl, rfl⟩
  | cons piece pieces =>
    refine ⟨dropReturn piece, _, rfl, head?_dropReturn ?_ ?_⟩
    · rw [List.cons_append, intercalate_cons _ _ (by simp)] at whole
      rw [← whole, List.head?_append] at first
      cases piece with
      | cons d piece => exact first
      | nil => exact absurd (Option.some.inj first).symm (ne_of_blank ink (by decide))
    · exact ne_of_blank ink (by decide)

/-- A line has a carriage return at its end only where two of them stand before a line feed, or at
the end of the text. -/
theorem returns_of_mem_lines {cs line : List Char} (listed : line ∈ lines cs)
    (returned : line.getLast? = some '\r') :
    "\r\r\n".toList <:+: cs ∨ cs.getLast? = some '\r' := by
  have whole := splitOn_eq_terminatedLines cs
  rw [lines] at listed
  rcases List.mem_append.mp listed with ended | last
  · obtain ⟨piece, inner, rfl⟩ := List.mem_map.mp ended
    -- one carriage return was dropped from the line, and this is another in front of it
    have within : piece ++ ['\n'] <:+: cs := by
      have inner : piece ∈ (terminatedLines cs).1 := inner
      have joined : piece ++ ['\n'] <:+: List.intercalate ['\n'] (_ ++ [(terminatedLines cs).2]) :=
        concat_infix_intercalate inner _
      rwa [← whole, List.intercalate_splitOn] at joined
    obtain ⟨front, twice⟩ := getLast?_dropReturn returned
    refine .inl (List.IsInfix.trans ⟨front, [], ?_⟩ within)
    rw [← twice, List.append_nil, List.append_assoc]
    rfl
  · split at last
    · cases last
    -- nothing is dropped from what no line feed ends
    have same : line = (terminatedLines cs).2 := List.mem_singleton.mp last
    obtain ⟨front, join, -⟩ :=
      exists_intercalate_concat '\n' (terminatedLines cs).1 (terminatedLines cs).2
    rw [← whole, List.intercalate_splitOn, ← same] at join
    exact .inr (by rw [join, List.getLast?_append, returned]; rfl)

/-- In a trimmed text there is no other such place. -/
theorem returns_of_mem_lines_trimmed {cs line : List Char} (listed : line ∈ lines (trimmed cs))
    (returned : line.getLast? = some '\r') : "\r\r\n".toList <:+: cs := by
  rcases returns_of_mem_lines listed returned with returns | last
  · exact returns.trans (trimmed_isInfix cs)
  · exact absurd (getLast?_dropTail last) (by decide)

/-! ## Excerpts -/

open Utf8 (encode)

/-- What is kept of the characters is kept of the bytes, and no character is split. -/
theorem encode_take_prefix (limit : Nat) (cs : List Char) :
    encode (cs.take limit) <+: encode cs := by
  refine ⟨encode (cs.drop limit), ?_⟩
  rw [← Utf8.encode_append, List.take_append_drop]

/-- Bytes are lost just when characters are. -/
theorem utf8ByteSize_truncate_lt_iff (s : String) (limit : Nat) :
    (truncate s limit).utf8ByteSize < s.utf8ByteSize ↔ limit < s.length := by
  have whole : truncate s limit ++ String.ofList (s.toList.drop limit) = s := by
    rw [truncate, ← String.ofList_append, List.take_append_drop, String.ofList_toList]
  have sizes := congrArg String.utf8ByteSize whole
  rw [String.utf8ByteSize_append] at sizes
  rw [← sizes, Nat.lt_add_right_iff_pos, Nat.pos_iff_ne_zero, ne_eq,
    String.utf8ByteSize_eq_zero_iff, String.ofList_eq_empty_iff, List.drop_eq_nil_iff, Nat.not_le,
    String.length_toList]

theorem preview_of_le {s : String} {limit : Nat} (short : s.length ≤ limit) :
    preview s limit = s := by
  have kept : truncate s limit = s := by
    rw [truncate, List.take_of_length_le short, String.ofList_toList]
  rw [preview, kept, if_neg (Nat.lt_irrefl _)]

theorem preview_of_lt {s : String} {limit : Nat} (long : limit < s.length) :
    preview s limit = String.ofList (s.toList.take limit ++ ['…']) := by
  rw [preview, if_pos ((utf8ByteSize_truncate_lt_iff s limit).mpr long), String.ofList_append]
  rfl

end Polyglot.Text
