import Polyglot.Proofs.Conversion.Unwrapping

/-!
# Cleaning what was cleaned

One pass does not see everything that it makes. Blanks in front of a preamble, which keep it from
the start of its line, are trimmed off behind the pass, and a fence between the opening words joins
them where it was. A text stays as it is in a pass only if it has no noise (`scan_eq_self_iff`), so
a cleaned answer is stable if none of its lines is a preamble.

Where every fence of an answer has a line for itself (`Tidy`), the pass takes out whole lines
(`scan_intercalate`), and the only preamble that can come of it is the first line
(`noPreamble_trimmed_iff`). It does not come of it if the opening words stand behind no indentation
(`Flush`). **`cleaning_again_iff`** puts this together.
-/

namespace Polyglot.Cleaning

variable {text line front back : List Char} {before : Option Char}

/-! ## Texts that stay as they are -/

/-- A character that stays does not begin a preamble. -/
theorem Front.not_opens {c : Char} (front : Front before text (.kept c))
    (start : AtLineStart before) (ended : '\n' ∈ text) : ¬ opening <+: text := by
  intro opens
  cases front with
  | kept unfenced plain => exact plain start opens ended

theorem flatMap_text_kept (cs : List Char) : (cs.map Part.kept).flatMap Part.text = cs := by
  rw [List.flatMap_map]
  exact List.flatMap_singleton' cs

/-- Where everything stays, every part is a character that stays. -/
theorem parts_of_scan_eq (stays : scan before text = text) :
    parts before text = text.map .kept := by
  induction text generalizing before with
  | nil =>
    rw [parts]
    rfl
  | cons c text ih =>
    cases split : parts before (c :: text) with
    | nil =>
      rw [parts] at split
      cases split
    | cons part others =>
      obtain ⟨front, rest, whole, later⟩ := front_of_parts_eq_cons split
      rw [scan_of_front front whole] at stays
      cases part with
      | fence tag lineFeed | preamble line =>
        -- noise leaves less than the text has
        have shorter := Part.length_lt whole
        rw [← stays] at shorter
        exact absurd (scan_sublist _ rest).length_le (Nat.not_le.mpr shorter)
      | kept d =>
        obtain ⟨rfl, rfl⟩ := List.cons.inj whole
        rw [List.map_cons, ← later]
        exact congrArg _ (ih (List.cons.inj stays).2)

/-- A text stays as it is if no noise is in it, and only then. -/
theorem scan_eq_self_iff : scan none text = text ↔ Unfenced text ∧ NoPreamble text := by
  refine ⟨fun stays => ⟨?_, fun line listed opens => ?_⟩,
    fun plain => scan_of_plain plain.1 plain.2⟩
  · rw [← stays, ← removeFrom_eq]
    exact unfenced_removeFrom none text
  · obtain ⟨whole, front, back, rfl, start⟩ := mem_terminatedLines_iff.mp listed
    obtain ⟨c, rest, first⟩ : ∃ c rest, line ++ '\n' :: back = c :: rest :=
      List.exists_cons_of_ne_nil (List.append_ne_nil_of_right_ne_nil _ (List.cons_ne_nil _ _))
    have opens := opens.trans (List.prefix_append line ('\n' :: back))
    have ended : '\n' ∈ line ++ '\n' :: back := List.mem_append_right _ List.mem_cons_self
    -- the preamble would be taken out where it stands
    have split := parts_of_scan_eq stays
    rw [first] at split opens ended
    rw [List.map_append, List.map_cons] at split
    have here := front_of_parts split
    rw [flatMap_text_kept, flatMap_text_kept, Option.or_none] at here
    exact here.not_opens start ended opens

/-! ## Texts whose fences have lines for themselves -/

/-- The line is a fence with its tag and nothing else. -/
def FenceLine (line : List Char) : Prop :=
  "```".toList <+: line ∧ (line.drop 3).all Text.isWord = true

instance : DecidablePred FenceLine :=
  fun line => inferInstanceAs
    (Decidable ("```".toList <+: line ∧ (line.drop 3).all Text.isWord = true))

/-- Every line is a fence or has none. -/
def Tidy (text : List Char) : Prop :=
  ∀ line ∈ text.splitOn '\n', Unfenced line ∨ FenceLine line

instance : DecidablePred Tidy :=
  fun text => inferInstanceAs
    (Decidable (∀ line ∈ text.splitOn '\n', Unfenced line ∨ FenceLine line))

theorem FenceLine.exists_tag (fence : FenceLine line) :
    ∃ tag, (∀ c ∈ tag, Text.isWord c = true) ∧ line = "```".toList ++ tag := by
  obtain ⟨⟨tag, rfl⟩, word⟩ := fence
  exact ⟨tag, List.all_eq_true.mp word, rfl⟩

/-- What stays of the lines of such a text. The last one is no preamble, whatever it begins with, as
no line feed ends it. -/
def linesLeft : List (List Char) → List Char
  | [] => []
  | [last] => if FenceLine last then [] else last
  | line :: others =>
    if FenceLine line ∨ opening <+: line then linesLeft others
    else line ++ '\n' :: linesLeft others

/-- A line that ends with the text. -/
theorem scan_last (whole : '\n' ∉ line) (tidy : Unfenced line ∨ FenceLine line) :
    scan before line = if FenceLine line then [] else line := by
  split
  · next fence =>
    obtain ⟨tag, word, rfl⟩ := fence.exists_tag
    have front : Front before ("```".toList ++ (tag ++ [])) (.fence tag false) :=
      .fence word (by simp)
    rw [List.append_nil] at front
    have whole : "```".toList ++ tag = (Part.fence tag false).text ++ [] := by simp [Part.text]
    rw [scan_of_front front whole, scan_nil]
    rfl
  · next other =>
    have unfenced : Unfenced line := tidy.resolve_right other
    refine scan_of_unfenced unfenced fun front back split _ _ ended => ?_
    exact whole (split ▸ List.mem_append_right front ended)

/-- A line that a line feed ends. -/
theorem scan_line (start : AtLineStart before) (whole : '\n' ∉ line)
    (tidy : Unfenced line ∨ FenceLine line) (rest : List Char) :
    scan before (line ++ '\n' :: rest) =
      if FenceLine line ∨ opening <+: line then scan (some '\n') rest
      else line ++ '\n' :: scan (some '\n') rest := by
  split
  · next noise =>
    rcases noise with fence | opens
    · obtain ⟨tag, word, rfl⟩ := fence.exists_tag
      rw [List.append_assoc, scan_fenceLine word]
    · exact scan_preamble start opens whole rest
  · next other =>
    obtain ⟨unmarked, plain⟩ := not_or.mp other
    refine scan_code start (tidy.resolve_right unmarked) ?_ rest
    intro piece listed
    rw [List.splitOn_eq_singleton whole, List.mem_singleton] at listed
    exact listed ▸ plain

/-- The pass goes through such a text line by line. -/
theorem scan_intercalate {lines : List (List Char)} (filled : lines ≠ [])
    (start : AtLineStart before)
    (tidy : ∀ line ∈ lines, '\n' ∉ line ∧ (Unfenced line ∨ FenceLine line)) :
    scan before (List.intercalate ['\n'] lines) = linesLeft lines := by
  induction lines generalizing before with
  | nil => exact absurd rfl filled
  | cons line others ih =>
    obtain ⟨⟨whole, here⟩, later⟩ := List.forall_mem_cons.mp tidy
    cases others with
    | nil =>
      rw [List.intercalate_singleton]
      exact scan_last whole here
    | cons next others =>
      have rest := ih (List.cons_ne_nil next others) (.inr rfl) later
      rw [Text.intercalate_cons '\n' line (List.cons_ne_nil next others),
        scan_line start whole here, rest]
      rfl

theorem Tidy.scan_eq (tidy : Tidy text) : scan none text = linesLeft (text.splitOn '\n') := by
  have lines : ∀ line ∈ text.splitOn '\n', '\n' ∉ line ∧ (Unfenced line ∨ FenceLine line) :=
    fun line listed => ⟨Text.not_mem_of_mem_splitOn listed, tidy line listed⟩
  have passed := scan_intercalate (List.splitOn_ne_nil '\n' text) (.inl rfl) lines
  rwa [List.intercalate_splitOn] at passed

/-- The lines that stay are lines of the text, and none of them is a preamble. -/
theorem mem_terminatedLines_linesLeft {lines : List (List Char)}
    (whole : ∀ line ∈ lines, '\n' ∉ line)
    (listed : line ∈ (Text.terminatedLines (linesLeft lines)).1) :
    line ∈ lines ∧ ¬ opening <+: line := by
  fun_induction linesLeft lines with
  | case1 => cases listed
  | case2 last fence => cases listed
  | case3 last other =>
    -- no line feed ends the last line
    rw [Text.terminatedLines_of_not_mem (whole last List.mem_cons_self)] at listed
    cases listed
  | case4 first others more noise ih =>
    obtain ⟨stays, plain⟩ := ih (fun line later => whole line (List.mem_cons_of_mem _ later)) listed
    exact ⟨List.mem_cons_of_mem _ stays, plain⟩
  | case5 first others more other ih =>
    rw [Text.terminatedLines_append_cons (whole first List.mem_cons_self)] at listed
    rcases List.mem_cons.mp listed with rfl | later
    · exact ⟨List.mem_cons_self, (not_or.mp other).2⟩
    · obtain ⟨stays, plain⟩ :=
        ih (fun line later => whole line (List.mem_cons_of_mem _ later)) later
      exact ⟨List.mem_cons_of_mem _ stays, plain⟩

theorem Tidy.mem_lines_of_scan (tidy : Tidy text)
    (listed : line ∈ (Text.terminatedLines (scan none text)).1) :
    line ∈ text.splitOn '\n' ∧ ¬ opening <+: line := by
  rw [tidy.scan_eq] at listed
  exact mem_terminatedLines_linesLeft (fun _ => Text.not_mem_of_mem_splitOn) listed

/-! ## The first line after trimming -/

/-- The text begins with a preamble. -/
def Introduced (text : List Char) : Prop :=
  ∃ line rest, text = line ++ '\n' :: rest ∧ opening <+: line ∧ '\n' ∉ line

/-- Opening words with nothing but blanks in front of them in their line stand at its start. -/
def Flush (text : List Char) : Prop :=
  ∀ line ∈ text.splitOn '\n', opening <+: line.dropWhile Text.isBlank → opening <+: line

instance : DecidablePred Flush :=
  fun text => inferInstanceAs (Decidable (∀ line ∈ text.splitOn '\n',
    opening <+: line.dropWhile Text.isBlank → opening <+: line))

theorem Introduced.not_noPreamble (introduced : Introduced text) : ¬ NoPreamble text := by
  obtain ⟨line, rest, rfl, opens, whole⟩ := introduced
  intro plain
  refine plain line ?_ opens
  rw [Text.terminatedLines_append_cons whole]
  exact List.mem_cons_self

/-- Trimming makes a preamble of the first line or of none. -/
theorem noPreamble_trimmed_iff (plain : NoPreamble text) :
    NoPreamble (Text.trimmed text) ↔ ¬ Introduced (Text.trimmed text) := by
  refine ⟨fun plain introduced => introduced.not_noPreamble plain, fun bare line listed opens => ?_⟩
  obtain ⟨whole, front, back, split, start⟩ := mem_terminatedLines_iff.mp listed
  rcases start with nothing | lineFeed
  · rw [List.getLast?_eq_none_iff] at nothing
    rw [nothing, List.nil_append] at split
    exact bare ⟨line, back, split, opens, whole⟩
  · -- behind a line feed the line was there before
    obtain ⟨before, behind, around, -, -⟩ := Text.exists_blanks_around text
    refine plain line (mem_terminatedLines_iff.mpr ⟨whole, before ++ front, back ++ behind, ?_, ?_⟩)
      opens
    · rw [around, split]
      simp only [List.append_assoc, List.cons_append]
    · rw [List.getLast?_append, lineFeed]
      exact .inr rfl

/-- From the opening words on nothing is trimmed off the front. -/
theorem trimmed_of_opens (opens : opening <+: text) :
    Text.trimmed text = Text.dropTail Text.isBlank text := by
  obtain ⟨words, rfl⟩ := opens
  have ink : Text.isBlank 'H' = false := by decide
  exact (Text.trimmed_cons ink _).trans (Text.dropTail_cons ink _).symm

/-- A trimmed text begins with a preamble if the text has one behind blanks, and something behind
its line. -/
theorem introduced_trimmed_iff :
    Introduced (Text.trimmed text) ↔ ∃ blanks line rest, text = blanks ++ (line ++ '\n' :: rest) ∧
      (∀ c ∈ blanks, Text.isBlank c = true) ∧ opening <+: line ∧ '\n' ∉ line ∧
        ∃ c ∈ rest, Text.isBlank c = false := by
  constructor
  · rintro ⟨line, rest, split, opens, whole⟩
    obtain ⟨before, behind, around, blank, -⟩ := Text.exists_blanks_around text
    refine ⟨before, line, rest ++ behind, ?_, blank, opens, whole, ?_⟩
    · rw [around, split]
      simp only [List.append_assoc, List.cons_append]
    · -- the last character of the trimmed text is no blank, so it is not the line feed
      cases last : rest.getLast? with
      | none =>
        rw [List.getLast?_eq_none_iff.mp last] at split
        have ink : Text.isBlank '\n' = false :=
          Text.getLast?_trimmed (by rw [split, List.getLast?_concat])
        exact absurd ink (by decide)
      | some c =>
        have ends : (Text.trimmed text).getLast? = some c := by
          rw [split, List.getLast?_append, List.getLast?_cons, last]
          rfl
        exact ⟨c, List.mem_append_left _ (List.mem_of_getLast? last), Text.getLast?_trimmed ends⟩
  · rintro ⟨blanks, line, rest, rfl, blank, opens, whole, c, mem, ink⟩
    refine ⟨line, Text.dropTail Text.isBlank rest, ?_, opens, whole⟩
    have opens' : opening <+: line ++ '\n' :: rest := opens.trans (List.prefix_append _ _)
    have behind : Text.dropTail Text.isBlank ('\n' :: rest) =
        '\n' :: Text.dropTail Text.isBlank rest := Text.dropTail_append mem ink ['\n']
    rw [Text.trimmed_blanks_append blank, trimmed_of_opens opens',
      Text.dropTail_append (List.mem_cons_of_mem _ mem) ink, behind]

/-- Where the opening words are not indented, trimming makes no preamble. -/
theorem not_introduced_of_flush (tidy : Tidy text) (flush : Flush text) :
    ¬ Introduced (Text.trimmed (scan none text)) := by
  intro introduced
  obtain ⟨blanks, line, rest, left, blank, opens, whole, -⟩ := introduced_trimmed_iff.mp introduced
  -- the line with the blanks that stand in it in front of the opening words
  obtain ⟨front, split, start⟩ :=
    Text.exists_intercalate_concat '\n' (Text.terminatedLines blanks).1
      (Text.terminatedLines blanks).2
  rw [← Text.splitOn_eq_terminatedLines, List.intercalate_splitOn] at split
  have indented := Text.not_mem_of_mem_splitOn (Text.terminatedLines_snd_mem blanks)
  generalize (Text.terminatedLines blanks).2 = indent at split indented
  subst split
  have listed : indent ++ line ∈ (Text.terminatedLines (scan none text)).1 := by
    refine mem_terminatedLines_iff.mpr ⟨?_, front, rest, ?_, ?_⟩
    · exact List.not_mem_append indented whole
    · rw [left]
      simp only [List.append_assoc]
    · rcases start with ⟨rfl, -⟩ | last
      · exact .inl rfl
      · exact .inr last
  obtain ⟨stood, bare⟩ := tidy.mem_lines_of_scan listed
  refine bare (flush _ stood ?_)
  rw [List.dropWhile_append_of_pos fun c mem => blank c (List.mem_append_right front mem)]
  obtain ⟨words, rfl⟩ := opens
  exact List.prefix_append opening words

/-! ## Answers that were cleaned -/

theorem toList_cleanResponse (answer : String) :
    (cleanResponse answer).toList = Text.trimmed (scan none answer.toList) := by
  rw [cleanResponse_eq, Text.trim, String.toList_ofList, String.toList_ofList]

/-- Cleaning leaves a cleaned answer as it is if none of its lines is a preamble. -/
theorem cleanResponse_cleanResponse_iff (answer : String) :
    cleanResponse (cleanResponse answer) = cleanResponse answer ↔
      NoPreamble (cleanResponse answer).toList := by
  rw [← String.toList_inj, toList_cleanResponse (cleanResponse answer)]
  constructor
  · intro stable
    have within :
        (cleanResponse answer).toList.Sublist (scan none (cleanResponse answer).toList) := by
      nth_rewrite 1 [← stable]
      exact (Text.trimmed_isInfix _).sublist
    exact (scan_eq_self_iff.mp ((scan_sublist none _).antisymm within)).2
  · intro plain
    rw [scan_of_plain (unfenced_cleanResponse answer) plain, toList_cleanResponse,
      Text.trimmed_trimmed]

/-- A second cleaning changes nothing if no line of the cleaned answer is a preamble. What begins
with one is what a pass leaves with blanks in front of one. In an answer whose fences have lines for
themselves that is all that can go wrong, and it does not if the opening words are not indented. -/
theorem cleaning_again_iff (answer : String) :
    let once := cleanResponse answer
    (cleanResponse once = once ↔ NoPreamble once.toList) ∧
    (Introduced once.toList ↔ ∃ blanks line rest,
      noise.removeAll answer.toList = blanks ++ (line ++ '\n' :: rest) ∧
        (∀ c ∈ blanks, Text.isBlank c = true) ∧ opening <+: line ∧ '\n' ∉ line ∧
        ∃ c ∈ rest, Text.isBlank c = false) ∧
    (Tidy answer.toList → (cleanResponse once = once ↔ ¬ Introduced once.toList)) ∧
    (Tidy answer.toList → Flush answer.toList →
      ¬ Introduced once.toList ∧ cleanResponse once = once) := by
  intro once
  have stable := cleanResponse_cleanResponse_iff answer
  have first (tidy : Tidy answer.toList) :
      cleanResponse once = once ↔ ¬ Introduced once.toList := by
    have plain : NoPreamble (scan none answer.toList) :=
      fun line listed => (tidy.mem_lines_of_scan listed).2
    rw [stable, toList_cleanResponse]
    exact noPreamble_trimmed_iff plain
  refine ⟨stable, ?_, first, fun tidy flush => ?_⟩
  · rw [toList_cleanResponse, introduced_trimmed_iff, Pattern.removeAll, removeFrom_eq]
  · have bare : ¬ Introduced once.toList := by
      rw [toList_cleanResponse]
      exact not_introduced_of_flush tidy flush
    exact ⟨bare, (first tidy).mpr bare⟩

/-- Two preambles and two fences in lines for themselves, the opening words behind other words, and
in a line that no line feed ends. -/
theorem cleaning_again_tidy :
    let answer := "Here is the converted code:\n```go\nx // Here is the converted\n```\n" ++
      "Here is the converted test:\n\nHere is the converted"
    let once := cleanResponse answer
    Tidy answer.toList ∧ Flush answer.toList ∧
      once = "x // Here is the converted\n\nHere is the converted" ∧
      ¬ Introduced once.toList ∧ cleanResponse once = once := by
  intro answer once
  have tidy : Tidy answer.toList := by decide +kernel
  have flush : Flush answer.toList := by decide +kernel
  exact ⟨tidy, flush, by decide +kernel, (cleaning_again_iff answer).2.2.2 tidy flush⟩

/-- A preamble behind a blank, and a fence between the opening words. -/
theorem cleaning_leaves_preamble :
    (let once := cleanResponse " Here is the converted code:\nx"
     Introduced once.toList ∧ cleanResponse once ≠ once ∧ cleanResponse once = "x") ∧
    (let once := cleanResponse "Here is the``` converted code:\nx"
     Introduced once.toList ∧ cleanResponse once ≠ once ∧ cleanResponse once = "x") := by
  have indented : cleanResponse " Here is the converted code:\nx" =
      "Here is the converted code:\nx" := by decide +kernel
  have parted : cleanResponse "Here is the``` converted code:\nx" =
      "Here is the converted code:\nx" := by decide +kernel
  have again : cleanResponse "Here is the converted code:\nx" = "x" := by decide +kernel
  have introduced : Introduced "Here is the converted code:\nx".toList :=
    ⟨"Here is the converted code:".toList, ['x'], rfl, by decide, by decide⟩
  simp only [indented, parted, again]
  exact ⟨⟨introduced, by decide, trivial⟩, ⟨introduced, by decide, trivial⟩⟩

end Polyglot.Cleaning
