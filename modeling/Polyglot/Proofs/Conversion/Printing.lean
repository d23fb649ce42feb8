import Mathlib.Data.List.Forall2
import Polyglot.Conversion.PythonScript
import Polyglot.Proofs.Text.Lowercase

/-!
# Scripts line by line

`Stays` says which lines of a script are kept, in terms of the line alone, and the test goes by it
(`isKept_iff`). Every other line is put into `print`, and what comes of a line always stays
(`stays_prepareLine`), so that just these lines are not changed (`prepareLine_eq_self_iff`). A
prepared script begins with no blank and ends with none but its line feed (`exists_preparedLines`);
its lines are therefore the prepared ones (`lines_prepare`), unless a carriage return is left at the
end of one, and preparing it again changes nothing: **`preparing_goes_line_by_line`**.
-/

namespace Polyglot.PythonScript

/-! ## Lines that stay -/

/-- Lines that stay as they are. -/
inductive Stays : List Char → Prop
  | blank {line : List Char} (blank : ∀ c ∈ line, Text.isBlank c = true) : Stays line
  | indented {c : Char} (rest : List Char) (blank : Text.isBlank c = true) : Stays (c :: rest)
  | equals {line : List Char} (mem : '=' ∈ line) : Stays line
  | decorator {line : List Char} (first : (Text.trimmed line).head? = some '@') : Stays line
  | comment {line : List Char} (first : (Text.trimmed line).head? = some '#') : Stays line
  /-- One of the words, and nothing behind it that belongs to a longer word. -/
  | statement {word : String} {rest : List Char} (listed : word ∈ statementWords)
      (whole : ∀ c, rest.head? = some c → isWordPart c = false) : Stays (word.toList ++ rest)

theorem not_isWordPart_of_blank {c : Char} (blank : Text.isBlank c = true) :
    isWordPart c = false := by
  refine Text.of_isBlank (P := fun c => isWordPart c = false) ?_ blank
  decide +kernel

/-- The words are made of word parts, and there is something in each. -/
theorem isWordPart_of_mem {word : String} (listed : word ∈ statementWords) :
    word.toList ≠ [] ∧ ∀ c ∈ word.toList, isWordPart c = true := by
  have table : ∀ word ∈ statementWords, word.toList ≠ [] ∧ word.toList.all isWordPart = true := by
    decide
  obtain ⟨filled, parts⟩ := table word listed
  exact ⟨filled, List.all_eq_true.mp parts⟩

theorem not_isBlank_of_mem {word : String} (listed : word ∈ statementWords) {c : Char}
    (mem : c ∈ word.toList) : Text.isBlank c = false := by
  rw [← Bool.not_eq_true]
  intro blank
  have part := (isWordPart_of_mem listed).2 c mem
  rw [not_isWordPart_of_blank blank] at part
  cases part

theorem isStatement_iff {line : List Char} :
    isStatement line = true ↔
      line.head? = some '@' ∨ line.head? = some '#' ∨
        String.ofList (line.takeWhile isWordPart) ∈ statementWords := by
  unfold isStatement
  split
  · simp
  · simp
  · next decorator comment =>
    rw [List.contains_iff_mem]
    constructor
    · exact fun listed => .inr (.inr listed)
    · rintro (first | first | listed)
      · obtain ⟨rest, rfl⟩ := List.head?_eq_some_iff.mp first
        exact absurd rfl (decorator rest)
      · obtain ⟨rest, rfl⟩ := List.head?_eq_some_iff.mp first
        exact absurd rfl (comment rest)
      · exact listed

/-- Blanks at the end make no difference to the word that a line begins with. -/
theorem takeWhile_trimmed {line : List Char}
    (ink : ∀ c, line.head? = some c → Text.isBlank c = false) :
    (Text.trimmed line).takeWhile isWordPart = line.takeWhile isWordPart := by
  obtain ⟨front, back, whole, before, behind⟩ := Text.exists_blanks_around line
  have nothing : front = [] := by
    cases front with
    | nil => rfl
    | cons c front =>
      have blank := before c List.mem_cons_self
      rw [ink c (by rw [whole]; rfl)] at blank
      cases blank
  have other : back.takeWhile isWordPart = [] := by
    cases back with
    | nil => rfl
    | cons c back =>
      have outside := not_isWordPart_of_blank (behind c List.mem_cons_self)
      exact List.takeWhile_cons_of_neg (by rw [outside]; decide)
  conv_rhs => rw [whole, nothing, List.nil_append, List.takeWhile_append, other, List.append_nil]
  split
  · next all =>
    exact (List.takeWhile_prefix isWordPart).eq_of_length all
  · rfl

/-- What begins with one of the words begins with it as its first word. -/
theorem takeWhile_word {word : String} {rest : List Char} (listed : word ∈ statementWords)
    (whole : ∀ c, rest.head? = some c → isWordPart c = false) :
    (word.toList ++ rest).takeWhile isWordPart = word.toList :=
  Text.takeWhile_run (isWordPart_of_mem listed).2 whole

theorem isKept_of_stays {line : List Char} (stays : Stays line) : isKept line = true := by
  simp only [isKept, Bool.or_eq_true, List.contains_iff_mem, List.isEmpty_iff]
  cases stays with
  | blank blank =>
    refine .inl (.inl (.inl ?_))
    rw [Text.trimmed, List.dropWhile_eq_nil_iff.mpr blank]
    rfl
  | indented rest blank => exact .inl (.inl (.inr blank))
  | equals mem => exact .inr ((Text.mem_trimmed_iff (by decide)).mpr mem)
  | decorator first => exact .inl (.inr (isStatement_iff.mpr (.inl first)))
  | comment first => exact .inl (.inr (isStatement_iff.mpr (.inr (.inl first))))
  | @statement word rest listed whole =>
    refine .inl (.inr (isStatement_iff.mpr (.inr (.inr ?_))))
    have ink : ∀ c, (word.toList ++ rest).head? = some c → Text.isBlank c = false := by
      intro c first
      rw [List.head?_append_of_ne_nil _ (isWordPart_of_mem listed).1] at first
      exact not_isBlank_of_mem listed (List.mem_of_head? first)
    rwa [takeWhile_trimmed ink, takeWhile_word listed whole, String.ofList_toList]

theorem stays_of_isKept {line : List Char} (kept : isKept line = true) : Stays line := by
  simp only [isKept, Bool.or_eq_true, List.contains_iff_mem, List.isEmpty_iff] at kept
  rcases kept with ((nothing | indented) | statement) | equals
  · refine .blank fun c mem => ?_
    by_contra ink
    have left := (Text.mem_trimmed_iff (Bool.not_eq_true _ ▸ ink)).mpr mem
    rw [nothing] at left
    cases left
  · cases line with
    | nil => cases indented
    | cons c rest => exact .indented rest indented
  · rcases isStatement_iff.mp statement with first | first | listed
    · exact .decorator first
    · exact .comment first
    · by_cases ink : ∀ c, line.head? = some c → Text.isBlank c = false
      · rw [takeWhile_trimmed ink] at listed
        have whole (c : Char) (first : (line.dropWhile isWordPart).head? = some c) :
            isWordPart c = false := Text.head?_dropWhile first
        have stays := Stays.statement listed whole
        rwa [String.toList_ofList, List.takeWhile_append_dropWhile] at stays
      · simp only [not_forall, Bool.not_eq_false] at ink
        obtain ⟨c, first, blank⟩ := ink
        obtain ⟨rest, rfl⟩ := List.head?_eq_some_iff.mp first
        exact .indented rest blank
  · exact .equals ((Text.mem_trimmed_iff (by decide)).mp equals)

theorem isKept_iff {line : List Char} : isKept line = true ↔ Stays line :=
  ⟨stays_of_isKept, isKept_of_stays⟩

instance : DecidablePred Stays :=
  fun _ => decidable_of_iff _ isKept_iff

/-! ## Prepared lines -/

/-- A line and what comes of it. -/
inductive Printed : List Char → List Char → Prop
  | kept {line : List Char} (stays : Stays line) : Printed line line
  | wrapped {line : List Char} (bare : ¬ Stays line) :
      Printed line ("print(".toList ++ Text.trimmed line ++ [')'])

theorem printed_prepareLine (line : List Char) : Printed line (prepareLine line) := by
  unfold prepareLine
  split
  · next kept => exact .kept (isKept_iff.mp kept)
  · next bare => exact .wrapped (mt isKept_iff.mpr bare)

/-- What is printed stays. -/
theorem Printed.stays {line printed : List Char} (prepared : Printed line printed) :
    Stays printed := by
  cases prepared with
  | kept stays => exact stays
  | wrapped bare =>
    have printing : Stays ("print".toList ++ '(' :: (Text.trimmed line ++ [')'])) := by
      refine .statement (by decide) ?_
      rintro c ⟨⟩
      decide
    exact printing

theorem stays_prepareLine (line : List Char) : Stays (prepareLine line) :=
  (printed_prepareLine line).stays

theorem prepareLine_eq_self_iff {line : List Char} : prepareLine line = line ↔ Stays line := by
  refine ⟨fun same => same ▸ stays_prepareLine line, fun stays => ?_⟩
  exact if_pos (isKept_iff.mpr stays)

/-- A line that begins with no blank is still one. -/
theorem Printed.head? {line printed : List Char} (prepared : Printed line printed) {c : Char}
    (first : line.head? = some c) (ink : Text.isBlank c = false) :
    ∃ d, printed.head? = some d ∧ Text.isBlank d = false := by
  cases prepared with
  | kept stays => exact ⟨c, first, ink⟩
  | wrapped bare => exact ⟨'p', rfl, by decide⟩

/-- A line ends as before, or in a bracket. -/
theorem Printed.getLast? {line printed : List Char} (prepared : Printed line printed) :
    printed.getLast? = line.getLast? ∨ printed.getLast? = some ')' := by
  cases prepared with
  | kept stays => exact .inl rfl
  | wrapped bare => exact .inr List.getLast?_concat

theorem Printed.lineFeed_not_mem {line printed : List Char} (prepared : Printed line printed)
    (whole : '\n' ∉ line) : '\n' ∉ printed := by
  cases prepared with
  | kept stays => exact whole
  | wrapped bare =>
    rw [List.mem_append, List.mem_append, not_or, not_or]
    refine ⟨⟨by decide, fun mem => ?_⟩, by decide⟩
    exact whole ((Text.trimmed_isInfix line).subset mem)

/-! ## Prepared scripts -/

/-- The lines of a script, prepared. -/
def preparedLines (code : List Char) : List (List Char) :=
  (Text.lines (Text.trimmed code)).map prepareLine

theorem prepare_eq (code : List Char) :
    prepare code = List.intercalate ['\n'] (preparedLines code) ++ ['\n'] := rfl

theorem forall₂_preparedLines (code : List Char) :
    List.Forall₂ Printed (Text.lines (Text.trimmed code)) (preparedLines code) := by
  rw [preparedLines, List.forall₂_map_right_iff, List.forall₂_same]
  exact fun line _ => printed_prepareLine line

theorem lineFeed_not_mem_preparedLines {code line : List Char}
    (listed : line ∈ preparedLines code) : '\n' ∉ line := by
  obtain ⟨plain, inner, rfl⟩ := List.mem_map.mp listed
  exact (printed_prepareLine plain).lineFeed_not_mem (Text.lineFeed_not_mem_of_mem_lines inner)

/-- Only where two carriage returns stand before a line feed a line keeps one at its end. -/
theorem bare_of_mem_preparedLines {code line : List Char} (plain : ¬ "\r\r\n".toList <:+: code)
    (listed : line ∈ preparedLines code) : line.getLast? ≠ some '\r' := by
  intro returned
  obtain ⟨line, inner, rfl⟩ := List.mem_map.mp listed
  rcases (printed_prepareLine line).getLast? with same | bracket
  · rw [same] at returned
    exact plain (Text.returns_of_mem_lines_trimmed inner returned)
  · rw [bracket] at returned
    cases returned

/-- If a script is not blank, its first line begins with no blank and its last one ends with
none. -/
theorem exists_preparedLines {code : List Char} (written : Text.trimmed code ≠ []) :
    (∃ ended last, preparedLines code = ended ++ [last] ∧
      ∃ c, last.getLast? = some c ∧ Text.isBlank c = false) ∧
    ∃ first others, preparedLines code = first :: others ∧
      ∃ c, first.head? = some c ∧ Text.isBlank c = false := by
  obtain ⟨begins, ends⟩ := Text.trimmed_eq_self_iff.mp (Text.trimmed_trimmed code)
  constructor
  · have last := List.getLast?_eq_some_getLast written
    have ink := ends _ last
    -- a last character that is no blank ends no line
    have other : (Text.trimmed code).getLast written ≠ '\n' := Text.ne_of_blank ink (by decide)
    rw [preparedLines, Text.lines_eq_concat last other, List.map_append]
    refine ⟨_, _, rfl, ?_⟩
    rcases (printed_prepareLine (Text.terminatedLines (Text.trimmed code)).2).getLast? with
      same | bracket
    · exact ⟨_, same.trans (Text.getLast?_terminatedLines_snd last other), ink⟩
    · exact ⟨_, bracket, by decide⟩
  · have first := List.head?_eq_some_head written
    have ink := begins _ first
    obtain ⟨line, others, lines, first⟩ := Text.head?_lines first ink
    rw [preparedLines, lines]
    exact ⟨_, _, rfl, (printed_prepareLine line).head? first ink⟩

/-- Nothing of a prepared script is trimmed off but the line feed at its end. -/
theorem trimmed_prepare {code : List Char} (written : Text.trimmed code ≠ []) :
    Text.trimmed (prepare code) = List.intercalate ['\n'] (preparedLines code) := by
  obtain ⟨⟨ended, last, final, d, ends, ink⟩, first, others, initial, c, begins, ink'⟩ :=
    exists_preparedLines written
  rw [prepare_eq, Text.trimmed_append_blank (by decide), Text.trimmed_eq_self_iff]
  constructor
  · rw [initial, Text.head?_intercalate_cons _ begins]
    rintro _ ⟨⟩
    exact ink'
  · obtain ⟨front, whole, -⟩ := Text.exists_intercalate_concat '\n' ended last
    rw [final, whole, List.getLast?_append, ends]
    rintro _ ⟨⟩
    exact ink

/-- The lines of a prepared script are the prepared lines. -/
theorem lines_prepare {code : List Char} (written : Text.trimmed code ≠ [])
    (plain : ¬ "\r\r\n".toList <:+: code) :
    Text.lines (Text.trimmed (prepare code)) = preparedLines code := by
  obtain ⟨⟨ended, last, final, d, ends, -⟩, -⟩ := exists_preparedLines written
  rw [trimmed_prepare written, final]
  refine Text.lines_intercalate ?_ ?_ ?_
  · rintro rfl
    cases ends
  · exact fun line listed => lineFeed_not_mem_preparedLines (final ▸ listed)
  · exact fun line listed =>
      bare_of_mem_preparedLines plain (final ▸ List.mem_append_left _ listed)

theorem prepare_of_blank {code : List Char} (blank : Text.trimmed code = []) :
    prepare code = ['\n'] := by
  rw [prepare_eq, preparedLines, blank]
  rfl

/-- A script that was prepared stays as it is. -/
theorem prepare_prepare {code : List Char} (plain : ¬ "\r\r\n".toList <:+: code) :
    prepare (prepare code) = prepare code := by
  by_cases written : Text.trimmed code = []
  · rw [prepare_of_blank written]
    decide
  · have again : preparedLines (prepare code) = preparedLines code := by
      rw [preparedLines, lines_prepare written plain]
      conv_rhs => rw [← List.map_id (preparedLines code)]
      refine List.map_congr_left fun line listed => ?_
      obtain ⟨line, -, rfl⟩ := List.mem_map.mp listed
      exact prepareLine_eq_self_iff.mpr (stays_prepareLine line)
    rw [prepare_eq, again, ← prepare_eq]

/-- A script is prepared line by line: each line stays or is printed, by what the line alone is, and
a line feed stands behind each. A script that is not blank ends with one line feed and no other, a
line keeps a carriage return at its end only in front of CR LF, and a script where no line does is
not changed by preparing it again. -/
theorem preparing_goes_line_by_line (code : String) :
    (∃ printed, List.Forall₂ Printed (Text.lines (Text.trimmed code.toList)) printed ∧
      (preparePython code).toList = List.intercalate ['\n'] printed ++ ['\n'] ∧
      (Text.allBlank code = false →
        (preparePython code).toList.splitOn '\n' = printed ++ [[]])) ∧
    (Text.allBlank code = false →
      ∃ front c, (preparePython code).toList = front ++ [c, '\n'] ∧ c ≠ '\n') ∧
    (∀ line ∈ Text.lines (Text.trimmed code.toList), line.getLast? = some '\r' →
      "\r\r\n".toList <:+: code.toList) ∧
    (¬ "\r\r\n".toList <:+: code.toList →
      preparePython (preparePython code) = preparePython code) := by
  have output : (preparePython code).toList = prepare code.toList := String.toList_ofList
  have filled (written : Text.allBlank code = false) : Text.trimmed code.toList ≠ [] := by
    intro nothing
    have blank : Text.allBlank code = true :=
      Text.allBlank_iff.mpr (congrArg String.ofList nothing)
    rw [blank] at written
    cases written
  rw [output]
  refine ⟨⟨_, forall₂_preparedLines _, prepare_eq _, ?_⟩, ?_, ?_, fun plain => ?_⟩
  · intro written
    obtain ⟨-, first, others, initial, -⟩ := exists_preparedLines (filled written)
    rw [prepare_eq, List.splitOn_append_cons_self, List.splitOn_intercalate]
    · rfl
    · exact fun line => lineFeed_not_mem_preparedLines
    · exact initial ▸ List.cons_ne_nil _ _
  · intro written
    obtain ⟨⟨ended, last, final, c, ends, ink⟩, -⟩ := exists_preparedLines (filled written)
    obtain ⟨front, whole, -⟩ := Text.exists_intercalate_concat '\n' ended last
    obtain ⟨others, rfl⟩ := List.getLast?_eq_some_iff.mp ends
    refine ⟨front ++ others, c, ?_, ?_⟩
    · rw [prepare_eq, final, whole]
      simp
    · exact Text.ne_of_blank ink (by decide)
  · exact fun line => Text.returns_of_mem_lines_trimmed
  · rw [preparePython, output, prepare_prepare plain, preparePython]

/-- Line feeds behind carriage returns, a carriage return in a line, a wide blank in front, a word
that only begins like one of a statement, and a line that is blank. -/
theorem preparing_mixed_lines :
    let code := "\u3000x\r\n\r\nreturns\ry(2) \r\ndel x\r\n"
    let prepared := "print(x)\n\nprint(returns\ry(2))\ndel x\n"
    preparePython code = prepared ∧ preparePython prepared = prepared := by
  intro code prepared
  have once : preparePython code = prepared := by decide +kernel
  have again := (preparing_goes_line_by_line code).2.2.2 (by decide +kernel)
  rw [once] at again
  exact ⟨once, again⟩

end Polyglot.PythonScript
