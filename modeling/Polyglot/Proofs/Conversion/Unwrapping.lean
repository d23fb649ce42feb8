import Polyglot.Proofs.Conversion.Cleaning

/-!
# Fenced code

The commonest answer is the code in a fence, perhaps with a preamble. Cleaning gives the code: the
preamble is taken whole whatever else is in it, the fences go with the line feeds behind them, and
what stays behind the code is blank (`scan_code`, `blank_of_mem_scan_fence`). So
**`cleaning_unwraps_code`**.
-/

namespace Polyglot.Cleaning

/-- What stays of a text is part of it. -/
theorem scan_sublist (before : Option Char) (text : List Char) :
    (scan before text).Sublist text := by
  have parted := flatMap_text_parts before text
  rw [scan]
  nth_rewrite 2 [← parted]
  generalize parts before text = all
  induction all with
  | nil => exact List.Sublist.refl _
  | cons part all ih =>
    rw [List.flatMap_cons, List.flatMap_cons]
    refine List.Sublist.append ?_ ih
    cases part with
    | fence tag lineFeed | preamble line => exact List.nil_sublist _
    | kept c => exact List.Sublist.refl _

theorem mem_of_mem_scan {before : Option Char} {text : List Char} {c : Char}
    (stays : c ∈ scan before text) : c ∈ text :=
  (scan_sublist before text).subset stays

/-- Code and the line feed behind it stay, whatever follows. -/
theorem scan_code {before : Option Char} {code : List Char} (start : AtLineStart before)
    (unfenced : Unfenced code) (plain : Unopened code) (rest : List Char) :
    scan before (code ++ '\n' :: rest) = code ++ '\n' :: scan (some '\n') rest := by
  have lineFeed : Front (code.getLast?.or before) ('\n' :: rest) (.kept '\n') := by
    refine .kept ?_ ?_
    · rw [fence_eq, List.cons_prefix_cons]
      exact fun fenced => absurd fenced.1 (by decide)
    · intro _ opens
      exact absurd (List.cons_prefix_cons.mp opens).1 (by decide)
  rw [scan_append_of_quiet, scan_of_front lineFeed rfl]
  · rfl
  intro front c back split
  -- what begins in the code and has no line feed in it ends in the code
  refine .kept ?_ ?_
  · intro fenced
    have absent : '\n' ∉ "```".toList := by decide
    have inside : "```".toList <+: c :: back := isPrefix_of_isPrefix_append_cons absent fenced
    exact unfenced (split ▸ inside.isInfix.trans (List.suffix_append front _).isInfix)
  · intro start' opens
    rw [atLineStart_or_iff start] at start'
    have inside : opening <+: c :: back :=
      isPrefix_of_isPrefix_append_cons lineFeed_not_mem_opening opens
    exact absurd inside ((split ▸ plain).not_opens start')

/-- A fence line leaves nothing. -/
theorem scan_fenceLine {before : Option Char} {tag : List Char}
    (word : ∀ c ∈ tag, Text.isWord c = true) (rest : List Char) :
    scan before ("```".toList ++ (tag ++ '\n' :: rest)) = scan (some '\n') rest := by
  have whole : "```".toList ++ (tag ++ '\n' :: rest) = (Part.fence tag true).text ++ rest := by
    simp [Part.text]
  rw [scan_of_front (.fenceLine rest word) whole, Part.text, if_pos rfl, List.getLast?_concat]
  rfl

/-- Nor does a preamble, whatever its line says. -/
theorem scan_preamble {before : Option Char} {line : List Char} (start : AtLineStart before)
    (opens : opening <+: line) (whole : '\n' ∉ line) (rest : List Char) :
    scan before (line ++ '\n' :: rest) = scan (some '\n') rest := by
  have split : line ++ '\n' :: rest = (Part.preamble line).text ++ rest := by simp [Part.text]
  rw [scan_of_front (.preamble rest start opens whole) split, Part.text, List.getLast?_concat]
  rfl

/-- A fence with blanks behind it leaves blanks only. -/
theorem blank_of_mem_scan_fence {before : Option Char} {blanks : List Char} {c : Char}
    (blank : ∀ d ∈ blanks, Text.isBlank d = true)
    (stays : c ∈ scan before ("```".toList ++ blanks)) : Text.isBlank c = true := by
  have front := front_fenceBefore before blanks
  obtain ⟨rest, whole⟩ := front.exists_rest
  rw [scan_of_front front whole] at stays
  have later : c ∈ rest := mem_of_mem_scan stays
  obtain ⟨taken, fence⟩ : ∃ taken, (fenceBefore blanks).text = "```".toList ++ taken :=
    ⟨_, List.append_assoc _ _ _⟩
  rw [fence, List.append_assoc, List.append_cancel_left_eq] at whole
  exact blank c (whole ▸ List.mem_append_right _ later)

/-- Behind the code a fenced answer leaves blanks only. -/
theorem trimmed_append_scan_code {code blanks : List Char} (unfenced : Unfenced code)
    (plain : Unopened code) (blank : ∀ c ∈ blanks, Text.isBlank c = true) (front : List Char) :
    Text.trimmed (front ++ scan (some '\n') (code ++ '\n' :: ("```".toList ++ blanks))) =
      Text.trimmed (front ++ code) := by
  rw [scan_code (.inr rfl) unfenced plain, ← List.append_assoc]
  -- the line feed behind the code and what the last fence leaves are trimmed off
  refine Text.trimmed_append_blanks ?_ (front ++ code)
  intro c stays
  rcases List.mem_cons.mp stays with rfl | behind
  · decide
  · exact blank_of_mem_scan_fence blank behind

/-- And in front of it nothing, if its tag is a word. -/
theorem trimmed_scan_fenced {before : Option Char} {tag code blanks : List Char}
    (word : ∀ c ∈ tag, Text.isWord c = true) (unfenced : Unfenced code) (plain : Unopened code)
    (blank : ∀ c ∈ blanks, Text.isBlank c = true) :
    Text.trimmed (scan before
        ("```".toList ++ (tag ++ '\n' :: (code ++ '\n' :: ("```".toList ++ blanks))))) =
      Text.trimmed code := by
  rw [scan_fenceLine word]
  exact trimmed_append_scan_code unfenced plain blank []

/-- Code in a fence with a tag, with blanks behind it. -/
def fenced (tag code blanks : String) : String :=
  "```" ++ tag ++ "\n" ++ code ++ "\n```" ++ blanks

theorem toList_fenced (tag code blanks : String) :
    (fenced tag code blanks).toList =
      "```".toList ++ (tag.toList ++ '\n' ::
        (code.toList ++ '\n' :: ("```".toList ++ blanks.toList))) := by
  have first : "\n".toList = ['\n'] := rfl
  have last : "\n```".toList = '\n' :: "```".toList := rfl
  simp only [fenced, String.toList_append, List.append_assoc, first, last, List.cons_append,
    List.nil_append]

/-- The code in a fence, whatever its tag and whatever backticks and near noise it has in it, comes
out as it is but trimmed, and a preamble before the fence makes no difference, whatever its line
says. -/
theorem cleaning_unwraps_code (tag code blanks others : String)
    (word : ∀ c ∈ tag.toList, Text.isWord c = true) (unfenced : Unfenced code.toList)
    (plain : Unopened code.toList) (blank : Text.allBlank blanks = true)
    (line : '\n' ∉ others.toList) :
    cleanResponse (fenced tag code blanks) = Text.trim code ∧
      cleanResponse ("Here is the converted" ++ others ++ "\n" ++ fenced tag code blanks) =
        Text.trim code := by
  rw [Text.allBlank, List.all_eq_true] at blank
  have unwrapped (before : Option Char) :
      Text.trimmed (scan before (fenced tag code blanks).toList) = Text.trimmed code.toList := by
    rw [toList_fenced]
    exact trimmed_scan_fenced word unfenced plain blank
  constructor
  · rw [cleanResponse_eq, Text.trim, String.toList_ofList, unwrapped, Text.trim]
  -- in front of the fence a line more is taken
  have written : ("Here is the converted" ++ others ++ "\n" ++ fenced tag code blanks).toList =
      (opening ++ others.toList) ++ '\n' :: (fenced tag code blanks).toList := by
    have lineFeed : "\n".toList = ['\n'] := rfl
    simp only [String.toList_append, lineFeed, List.append_assoc, List.cons_append, List.nil_append]
    rfl
  have opens : opening <+: opening ++ others.toList := List.prefix_append _ _
  have whole : '\n' ∉ opening ++ others.toList := by
    rw [List.mem_append, not_or]
    exact ⟨lineFeed_not_mem_opening, line⟩
  rw [cleanResponse_eq, written, scan_preamble (.inl rfl) opens whole, Text.trim,
    String.toList_ofList, unwrapped, Text.trim]

/-- A preamble with a fence in its line, code with two backticks and with the opening words behind a
blank, and a line feed and a wide blank at the end. -/
theorem cleaning_unwraps_near_noise :
    let code := " print(``x``)\n Here is the converted\n"
    let answer := "Here is the converted code: ```py\n" ++ fenced "py_3" code "\n\u3000"
    cleanResponse answer = "print(``x``)\n Here is the converted" := by
  intro code answer
  have trimmed : Text.trim code = "print(``x``)\n Here is the converted" := by decide
  have word : "py_3".toList.all Text.isWord = true := by decide
  have unwrapped := cleaning_unwraps_code "py_3" code "\n\u3000" " code: ```py"
    (List.all_eq_true.mp word) (by decide) (by decide) (by decide) (by decide)
  rw [← trimmed, ← unwrapped.2]
  rfl

end Polyglot.Cleaning
