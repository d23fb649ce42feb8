import Polyglot.Proofs.Conversion.Fences
import Polyglot.Proofs.Pattern.Preference

/-!
# What cleaning takes out

`parts` cuts an answer into parts in one pass from left to right: fences, preambles, and characters
that stay. `Front` says what a text can begin with, without the pass and without the search. The
pass goes by it (`front_firstPart`, `firstPart_of_front`), and so does the search for noise, whose
preferred match is the fence or the preamble that the text begins with (`taken_or_kept`). So the
search takes out what the pass leaves out (`removeFrom_eq`): **`cleaning_is_one_pass`**. A text
without fences and preambles stays as it is (`scan_of_plain`).
-/

namespace Polyglot.Cleaning

/-! ## Parts of an answer -/

/-- The words that a preamble begins with. -/
def opening : List Char :=
  "Here is the converted".toList

/-- A part of an answer: one of the two kinds of noise, or a character that stays. -/
inductive Part where
  /-- Three backticks and a tag, and a line feed if one follows. -/
  | fence (tag : List Char) (lineFeed : Bool)
  /-- A line that introduces the code, and its line feed. -/
  | preamble (line : List Char)
  | kept (c : Char)
deriving DecidableEq, Repr

namespace Part

/-- The part as it stands in the answer. -/
def text : Part → List Char
  | fence tag lineFeed => "```".toList ++ tag ++ if lineFeed then ['\n'] else []
  | preamble line => line ++ ['\n']
  | kept c => [c]

/-- What stays of the part. -/
def left : Part → List Char
  | fence _ _ | preamble _ => []
  | kept c => [c]

theorem text_length_pos (part : Part) : 0 < part.text.length := by
  cases part <;> simp [text]

end Part

/-- A place behind no character or behind a line feed. -/
def AtLineStart (before : Option Char) : Prop :=
  before = none ∨ before = some '\n'

instance : DecidablePred AtLineStart :=
  fun before => inferInstanceAs (Decidable (before = none ∨ before = some '\n'))

/-- The fence whose tag and line feed come next. The tag is the longest run of word characters. -/
def fenceBefore (behind : List Char) : Part :=
  .fence (behind.takeWhile Text.isWord) ((behind.dropWhile Text.isWord).head? == some '\n')

/-- The part that a text begins with. -/
def firstPart (before : Option Char) (c : Char) (rest : List Char) : Part :=
  if "```".toList <+: c :: rest then fenceBefore ((c :: rest).drop 3)
  else if AtLineStart before ∧ opening <+: c :: rest ∧ '\n' ∈ c :: rest then
    .preamble ((c :: rest).takeWhile (· != '\n'))
  else .kept c

/-- The parts of a text from left to right, each as it shows itself behind the one before. -/
def parts (before : Option Char) : List Char → List Part
  | [] => []
  | c :: rest =>
    let part := firstPart before c rest
    part :: parts part.text.getLast? ((c :: rest).drop part.text.length)
termination_by text => text.length
decreasing_by
  have positive := (firstPart before c rest).text_length_pos
  rw [List.length_drop, List.length_cons]
  omega

/-- What stays of a text. -/
def scan (before : Option Char) (text : List Char) : List Char :=
  (parts before text).flatMap Part.left

/-! ## The front of a text -/

/-- What a text can begin with, behind the character before it. -/
inductive Front (before : Option Char) : List Char → Part → Prop
  | fenceLine {tag : List Char} (rest : List Char) (word : ∀ c ∈ tag, Text.isWord c = true) :
      Front before ("```".toList ++ (tag ++ '\n' :: rest)) (.fence tag true)
  | fence {tag rest : List Char} (word : ∀ c ∈ tag, Text.isWord c = true)
      (other : ∀ c, rest.head? = some c → Text.isWord c = false ∧ c ≠ '\n') :
      Front before ("```".toList ++ (tag ++ rest)) (.fence tag false)
  | preamble {line : List Char} (rest : List Char) (start : AtLineStart before)
      (opens : opening <+: line) (whole : '\n' ∉ line) :
      Front before (line ++ '\n' :: rest) (.preamble line)
  | kept {c : Char} {rest : List Char} (unfenced : ¬ "```".toList <+: c :: rest)
      (plain : AtLineStart before → opening <+: c :: rest → '\n' ∉ c :: rest) :
      Front before (c :: rest) (.kept c)

theorem lineFeed_not_word : Text.isWord '\n' = false := by decide

theorem lineFeed_not_mem_opening : '\n' ∉ opening := by decide

/-- What a text begins with ends before a character that is not in it. -/
theorem isPrefix_of_isPrefix_append_cons {start line rest : List Char} {c : Char}
    (absent : c ∉ start) (begins : start <+: line ++ c :: rest) : start <+: line := by
  rcases List.prefix_or_prefix_of_prefix begins (List.prefix_append line (c :: rest)) with
    within | ⟨beyond, whole⟩
  · exact within
  · rw [← whole, List.prefix_append_right_inj] at begins
    cases beyond with
    | nil => exact ⟨[], by simpa using whole.symm⟩
    | cons d beyond =>
      obtain ⟨rfl, -⟩ := List.cons_prefix_cons.mp begins
      exact absurd (whole ▸ List.mem_append_right _ List.mem_cons_self) absent

theorem takeWhile_line {line : List Char} (whole : '\n' ∉ line) (rest : List Char) :
    (line ++ '\n' :: rest).takeWhile (· != '\n') = line := by
  have inside : ∀ c ∈ line, (c != '\n') = true := by
    intro c mem
    rw [bne_iff_ne]
    rintro rfl
    exact whole mem
  apply Text.takeWhile_run inside
  simp

/-- A text is in one way a line and what follows its line feed. -/
theorem line_unique {line line' rest rest' : List Char} (whole : '\n' ∉ line)
    (whole' : '\n' ∉ line') (same : line ++ '\n' :: rest = line' ++ '\n' :: rest') :
    line = line' ∧ rest = rest' := by
  have first : line = line' := by
    rw [← takeWhile_line whole rest, same, takeWhile_line whole']
  subst first
  exact ⟨rfl, by simpa using same⟩

theorem front_fenceBefore (before : Option Char) (behind : List Char) :
    Front before ("```".toList ++ behind) (fenceBefore behind) := by
  have word : ∀ c ∈ behind.takeWhile Text.isWord, Text.isWord c = true :=
    fun c mem => List.mem_takeWhile_imp mem
  have split : behind = behind.takeWhile Text.isWord ++ behind.dropWhile Text.isWord :=
    List.takeWhile_append_dropWhile.symm
  unfold fenceBefore
  cases other : behind.dropWhile Text.isWord with
  | nil =>
    rw [other] at split
    nth_rewrite 1 [split]
    exact .fence word (by simp)
  | cons d rest =>
    have outside : Text.isWord d = false := Text.head?_dropWhile (congrArg List.head? other)
    rw [other] at split
    nth_rewrite 1 [split]
    by_cases lineFeed : d = '\n'
    · subst lineFeed
      exact .fenceLine rest word
    · have same : ((d :: rest).head? == some '\n') = false := by simpa using lineFeed
      rw [same]
      refine .fence word ?_
      rintro e ⟨⟩
      exact ⟨outside, lineFeed⟩

theorem front_firstPart (before : Option Char) (c : Char) (rest : List Char) :
    Front before (c :: rest) (firstPart before c rest) := by
  unfold firstPart
  split
  · next fenced =>
    obtain ⟨behind, whole⟩ := fenced
    rw [← whole]
    exact front_fenceBefore before behind
  split
  · next noise =>
    obtain ⟨start, opens, ended⟩ := noise
    obtain ⟨line, rest', whole, first⟩ := List.eq_append_cons_of_mem ended
    rw [whole] at opens ⊢
    rw [takeWhile_line first]
    have opens := isPrefix_of_isPrefix_append_cons lineFeed_not_mem_opening opens
    exact .preamble rest' start opens first
  · next unfenced plain =>
    exact .kept unfenced fun start opens ended => plain ⟨start, opens, ended⟩

/-! ## The front of a text and the search -/

theorem holds_lineStart_iff {before after : Option Char} :
    Anchor.lineStart.holds before after = true ↔ AtLineStart before := by
  simp [Anchor.holds, AtLineStart]

theorem contains_other_iff {c d : Char} :
    (CharSet.compl (.single d)).contains c = true ↔ c ≠ d := by
  rw [CharSet.contains, CharSet.contains_single, Bool.not_eq_true', beq_eq_false_iff_ne]

theorem ends_fence_eq_nil {text : List Char} (before : Option Char)
    (unfenced : ¬ "```".toList <+: text) : fence.ends ⟨before, text, []⟩ = [] := by
  rw [List.eq_nil_iff_forall_not_mem]
  intro stop found
  obtain ⟨next, first, -⟩ := List.mem_flatMap.mp found
  exact unfenced (Pattern.prefix_of_mem_ends_literal first)

/-- Where a preamble matches, there is a line with the opening words, and it is taken whole. -/
theorem line_of_mem_ends_preamble {before : Option Char} {text : List Char} {stop : Spot}
    (found : stop ∈ preamble.ends ⟨before, text, []⟩) :
    AtLineStart before ∧ stop.before = some '\n' ∧
      ∃ line, opening <+: line ∧ '\n' ∉ line ∧ text = line ++ '\n' :: stop.rest := by
  obtain ⟨start, found⟩ := Pattern.mem_ends_seq_anchor_iff.mp found
  obtain ⟨opened, first, found⟩ := List.mem_flatMap.mp found
  obtain ⟨repeated, second, found⟩ := List.mem_flatMap.mp found
  obtain ⟨ended, third, last⟩ := List.mem_flatMap.mp found
  have opens : opening <+: text := Pattern.prefix_of_mem_ends_literal first
  obtain ⟨lineFeed, before'⟩ := Pattern.next_of_mem_ends_single last
  -- nothing before the last part can take a line feed
  have words : (Pattern.literal "Here is the converted".toList).TakesOnly (· ≠ '\n') :=
    Pattern.takesOnly_literal lineFeed_not_mem_opening
  have again : (Pattern.optional true (.literal " is the converted".toList)).TakesOnly (· ≠ '\n') :=
    ⟨Pattern.takesOnly_literal (by decide), trivial⟩
  have others : (Pattern.loop false (.char (.compl (.single '\n')))).TakesOnly (· ≠ '\n') := by
    exact fun c => contains_other_iff.mp
  obtain ⟨line, plain, whole, -⟩ :=
    ((Pattern.leads_of_mem_ends words first).trans
      (Pattern.leads_of_mem_ends again second)).trans (Pattern.leads_of_mem_ends others third)
  have whole : text = line ++ '\n' :: stop.rest := lineFeed ▸ whole
  rw [whole] at opens
  refine ⟨holds_lineStart_iff.mp start, before', line, ?_, ?_, whole⟩
  · exact isPrefix_of_isPrefix_append_cons lineFeed_not_mem_opening opens
  · exact fun mem => plain '\n' mem rfl

/-- A line with the opening words can be taken whole. -/
theorem mem_ends_preamble {before : Option Char} {line : List Char} (start : AtLineStart before)
    (opens : opening <+: line) (whole : '\n' ∉ line) (rest : List Char) :
    ⟨some '\n', rest, []⟩ ∈ preamble.ends ⟨before, line ++ '\n' :: rest, []⟩ := by
  obtain ⟨others, rfl⟩ := opens
  have plain : ∀ c ∈ others, (CharSet.compl (.single '\n')).contains c = true := by
    intro c mem
    rw [contains_other_iff]
    rintro rfl
    exact whole (List.mem_append_right _ mem)
  refine Pattern.mem_ends_seq_anchor_iff.mpr ⟨holds_lineStart_iff.mpr start, ?_⟩
  rw [List.append_assoc]
  refine List.mem_flatMap.mpr ⟨_, (Pattern.prefers_literal opening).mem_ends, ?_⟩
  refine List.mem_flatMap.mpr ⟨_, Pattern.mem_ends_optional _ _ _, ?_⟩
  refine List.mem_flatMap.mpr ⟨_, Pattern.mem_ends_run false plain, ?_⟩
  have lineFeed : (CharSet.single '\n').contains '\n' = true := by simp
  rw [Pattern.sequence, Pattern.single, Pattern.ends_char_of_contains lineFeed]
  exact List.mem_singleton_self _

/-- A fence is taken with the longest tag, and where the match ends is up to the line feed. -/
theorem prefers_fence (before : Option Char) {tag behind : List Char} {stop : Spot}
    (word : ∀ c ∈ tag, Text.isWord c = true)
    (other : ∀ c, behind.head? = some c → Text.isWord c = false)
    (ended : (Pattern.optional true (.single '\n')).Prefers
      ⟨("```".toList ++ tag).getLast?, behind, []⟩ stop) :
    noise.Prefers ⟨before, "```".toList ++ (tag ++ behind), []⟩ stop := by
  have run : (Pattern.loop true (.char .word)).Prefers ⟨some mark, tag ++ behind, []⟩
      ⟨("```".toList ++ tag).getLast?, behind, []⟩ := by
    rw [List.getLast?_append]
    exact Pattern.prefers_run word other
  exact ((Pattern.prefers_literal "```".toList).seq (run.seq ended)).alt

/-- A line that begins with the opening words does not begin with a fence. -/
theorem unfenced_of_opens {line : List Char} (opens : opening <+: line) :
    ¬ "```".toList <+: line := by
  obtain ⟨others, rfl⟩ := opens
  intro fenced
  have other : mark = 'H' := (List.cons_prefix_cons.mp fenced).1
  exact absurd other (by decide)

/-- What a part leaves of a text is shorter. -/
theorem Part.length_lt {part : Part} {text rest : List Char} (whole : text = part.text ++ rest) :
    rest.length < text.length := by
  have positive := part.text_length_pos
  rw [whole, List.length_append]
  omega

/-- The preferred match is the part that the text begins with. -/
def Taken (before : Option Char) (text : List Char) (part : Part) : Prop :=
  ∃ stop, noise.Prefers ⟨before, text, []⟩ stop ∧ stop.before = part.text.getLast? ∧
    text = part.text ++ stop.rest

theorem taken_fenceLine (before : Option Char) {tag : List Char}
    (word : ∀ c ∈ tag, Text.isWord c = true) (rest : List Char) :
    Taken before ("```".toList ++ (tag ++ '\n' :: rest)) (.fence tag true) := by
  have ended : (Pattern.optional true (.single '\n')).Prefers
      ⟨("```".toList ++ tag).getLast?, '\n' :: rest, []⟩ ⟨some '\n', rest, []⟩ := by
    refine Pattern.Prefers.optional ?_
    rw [Pattern.Prefers, Pattern.single, Pattern.ends_char_of_contains (by simp)]
    rfl
  refine ⟨_, prefers_fence before word (by simp [lineFeed_not_word]) ended, ?_, ?_⟩
  · rw [Part.text, if_pos rfl, List.getLast?_concat]
  · simp [Part.text]

theorem taken_fence (before : Option Char) {tag rest : List Char}
    (word : ∀ c ∈ tag, Text.isWord c = true)
    (other : ∀ c, rest.head? = some c → Text.isWord c = false ∧ c ≠ '\n') :
    Taken before ("```".toList ++ (tag ++ rest)) (.fence tag false) := by
  have ended : (Pattern.optional true (.single '\n')).Prefers
      ⟨("```".toList ++ tag).getLast?, rest, []⟩ ⟨("```".toList ++ tag).getLast?, rest, []⟩ := by
    refine Pattern.prefers_optional_of_ends_eq_nil (Pattern.ends_char_eq_nil ?_)
    intro c first
    rw [CharSet.contains_single, beq_eq_false_iff_ne]
    exact (other c first).2
  refine ⟨_, prefers_fence before word (fun c first => (other c first).1) ended, ?_, ?_⟩
  · simp [Part.text]
  · simp [Part.text]

/-- However many of the opening words are repeated and however far the others go, every match of a
preamble ends behind the same line feed, and so does the preferred one. -/
theorem taken_preamble {before : Option Char} {line : List Char} (start : AtLineStart before)
    (opens : opening <+: line) (plain : '\n' ∉ line) (rest : List Char) :
    Taken before (line ++ '\n' :: rest) (.preamble line) := by
  have unfenced : ¬ "```".toList <+: line ++ '\n' :: rest :=
    unfenced_of_opens (opens.trans (List.prefix_append _ _))
  -- no fence begins here, so only the second alternative of the pattern is left
  have only : noise.ends ⟨before, line ++ '\n' :: rest, []⟩ =
      preamble.ends ⟨before, line ++ '\n' :: rest, []⟩ := by
    rw [noise, Pattern.ends, ends_fence_eq_nil before unfenced, List.nil_append]
  have found : noise.ends ⟨before, line ++ '\n' :: rest, []⟩ ≠ [] := by
    rw [only]
    exact List.ne_nil_of_mem (mem_ends_preamble start opens plain rest)
  obtain ⟨stop, preferred⟩ : ∃ stop, noise.Prefers ⟨before, line ++ '\n' :: rest, []⟩ stop :=
    ⟨_, List.head?_eq_some_head found⟩
  have listed : stop ∈ preamble.ends _ := only ▸ preferred.mem_ends
  obtain ⟨-, before', line', -, plain', same⟩ := line_of_mem_ends_preamble listed
  -- the match ends with the line, as it can go no further
  obtain ⟨-, rest'⟩ := line_unique plain plain' same
  refine ⟨stop, preferred, ?_, ?_⟩
  · rw [before']
    simp [Part.text]
  · rw [← rest']
    simp [Part.text]

theorem ends_noise_eq_nil {before : Option Char} {text : List Char}
    (unfenced : ¬ "```".toList <+: text)
    (plain : AtLineStart before → opening <+: text → '\n' ∉ text) :
    noise.ends ⟨before, text, []⟩ = [] := by
  rw [noise, Pattern.ends, ends_fence_eq_nil before unfenced, List.nil_append,
    List.eq_nil_iff_forall_not_mem]
  intro stop found
  obtain ⟨start, -, line, opens, -, rfl⟩ := line_of_mem_ends_preamble found
  exact plain start (opens.trans (List.prefix_append _ _)) (by simp)

/-- The search goes by the front of the text: it takes noise as a whole, and else nothing. -/
theorem taken_or_kept {before : Option Char} {text : List Char} {part : Part}
    (front : Front before text part) :
    part.left = [] ∧ Taken before text part ∨
      ∃ c, part = .kept c ∧ noise.ends ⟨before, text, []⟩ = [] := by
  cases front with
  | fenceLine rest word => exact .inl ⟨rfl, taken_fenceLine before word rest⟩
  | fence word other => exact .inl ⟨rfl, taken_fence before word other⟩
  | preamble rest start opens plain => exact .inl ⟨rfl, taken_preamble start opens plain rest⟩
  | kept unfenced plain => exact .inr ⟨_, rfl, ends_noise_eq_nil unfenced plain⟩

/-! ## The pass -/

theorem Front.exists_rest {before : Option Char} {text : List Char} {part : Part}
    (front : Front before text part) : ∃ rest, text = part.text ++ rest := by
  cases front with
  | fenceLine rest word => exact ⟨rest, by simp [Part.text]⟩
  | @fence tag rest word other => exact ⟨rest, by simp [Part.text]⟩
  | preamble rest start opens whole => exact ⟨rest, by simp [Part.text]⟩
  | @kept c rest unfenced plain => exact ⟨rest, rfl⟩

/-- The parts are all of the text. -/
theorem flatMap_text_parts (before : Option Char) (text : List Char) :
    (parts before text).flatMap Part.text = text := by
  fun_induction parts before text with
  | case1 => rfl
  | case2 before c rest part ih =>
    obtain ⟨behind, whole⟩ := (front_firstPart before c rest).exists_rest
    rw [List.flatMap_cons, ih, whole, List.drop_left]

/-- The first part is what the text begins with, and the others are those of the text behind it. -/
theorem front_of_parts_eq_cons {before : Option Char} {text : List Char} {part : Part}
    {others : List Part} (split : parts before text = part :: others) :
    Front before text part ∧
      ∃ rest, text = part.text ++ rest ∧ parts part.text.getLast? rest = others := by
  cases text with
  | nil =>
    rw [parts] at split
    cases split
  | cons c rest =>
    rw [parts] at split
    obtain ⟨rfl, rfl⟩ := List.cons.inj split
    have front := front_firstPart before c rest
    obtain ⟨behind, whole⟩ := front.exists_rest
    refine ⟨front, behind, whole, ?_⟩
    rw [whole, List.drop_left]

/-- Every part is what the text begins with where it stands. -/
theorem front_of_parts {before : Option Char} {text : List Char} {earlier later : List Part}
    {part : Part} (split : parts before text = earlier ++ part :: later) :
    Front ((earlier.flatMap Part.text).getLast?.or before)
      (part.text ++ later.flatMap Part.text) part := by
  induction earlier generalizing before text with
  | nil =>
    obtain ⟨front, rest, rfl, rfl⟩ := front_of_parts_eq_cons split
    rwa [flatMap_text_parts]
  | cons first earlier ih =>
    obtain ⟨-, rest, -, others⟩ := front_of_parts_eq_cons split
    have later := ih others
    -- there is a last character in front, as every part has one
    have filled : first.text ≠ [] := List.ne_nil_of_length_pos first.text_length_pos
    rw [List.getLast?_eq_some_getLast filled] at later
    rwa [List.flatMap_cons, List.getLast?_append, Option.or_assoc,
      List.getLast?_eq_some_getLast filled]

/-- A text begins with one part only. -/
theorem firstPart_of_front {before : Option Char} {c : Char} {rest text : List Char} {part : Part}
    (front : Front before text part) (whole : text = c :: rest) :
    firstPart before c rest = part := by
  -- a character that is no word character ends the tag
  have outside (d : Char) (behind : List Char) (other : Text.isWord d = false) :
      (d :: behind).takeWhile Text.isWord = [] ∧
        (d :: behind).dropWhile Text.isWord = d :: behind := by
    constructor
    · exact List.takeWhile_cons_of_neg (by simp [other])
    · exact List.dropWhile_cons_of_neg (by simp [other])
  rw [firstPart, ← whole]
  cases front with
  | @fenceLine tag behind word =>
    have none := outside '\n' behind lineFeed_not_word
    rw [if_pos (List.prefix_append _ _)]
    change fenceBefore (tag ++ '\n' :: behind) = _
    rw [fenceBefore, List.takeWhile_append_of_pos word, List.dropWhile_append_of_pos word, none.1,
      none.2, List.append_nil]
    rfl
  | @fence tag behind word other =>
    rw [if_pos (List.prefix_append _ _)]
    change fenceBefore (tag ++ behind) = _
    rw [fenceBefore, List.takeWhile_append_of_pos word, List.dropWhile_append_of_pos word]
    cases behind with
    | nil => rw [List.takeWhile_nil, List.append_nil, List.dropWhile_nil]; rfl
    | cons d behind =>
      have none := outside d behind (other d rfl).1
      have lineFeed : ((d :: behind).head? == some '\n') = false := by simpa using (other d rfl).2
      rw [none.1, none.2, List.append_nil, lineFeed]
  | @preamble line behind start opens plain =>
    have opens' := opens.trans (List.prefix_append line ('\n' :: behind))
    rw [if_neg (unfenced_of_opens opens'), if_pos ⟨start, opens', by simp⟩, takeWhile_line plain]
  | kept unfenced plain =>
    obtain ⟨rfl, rfl⟩ := List.cons.inj whole
    rw [if_neg unfenced, if_neg fun noise => plain noise.1 noise.2.1 noise.2.2]

/-- The pass goes on behind the part that a text begins with. -/
theorem scan_of_front {before : Option Char} {part : Part} {text rest : List Char}
    (front : Front before text part) (whole : text = part.text ++ rest) :
    scan before text = part.left ++ scan part.text.getLast? rest := by
  have shorter := part.length_lt whole
  cases text with
  | nil => exact absurd shorter (Nat.not_lt_zero _)
  | cons c others =>
    rw [scan, parts, firstPart_of_front front rfl, List.flatMap_cons, whole, List.drop_left]
    rfl

theorem scan_nil (before : Option Char) : scan before [] = [] := by
  rw [scan, parts]
  rfl

/-- Taking out noise leaves what the pass leaves. -/
theorem removeFrom_eq (before : Option Char) (text : List Char) :
    noise.removeFrom before text = scan before text := by
  induction length : text.length using Nat.strong_induction_on generalizing before text with
  | _ size ih =>
    subst length
    cases text with
    | nil =>
      rw [Pattern.removeFrom, scan_nil]
    | cons c rest =>
      have front := front_firstPart before c rest
      -- a match takes the part away and the search goes on behind it, in less text
      rcases taken_or_kept front with ⟨gone, stop, preferred, last, whole⟩ | ⟨d, stays, nothing⟩
      · have shorter := Part.length_lt whole
        rw [Pattern.removeFrom_of_cut (Pattern.cut_of_prefers preferred shorter),
          ih _ shorter _ _ rfl, last, scan_of_front front whole, gone, List.nil_append]
      · rw [stays] at front
        obtain ⟨behind, whole⟩ := front.exists_rest
        obtain ⟨rfl, rfl⟩ := List.cons.inj whole
        rw [Pattern.removeFrom_of_stay (Pattern.cut_of_ends_eq_nil nothing),
          ih _ (Nat.lt_succ_self _) _ _ rfl, scan_of_front front rfl]
        rfl

/-! ## Texts without noise -/

/-- Where no noise begins, everything stays. -/
theorem scan_append_of_quiet {before : Option Char} {text : List Char} (tail : List Char)
    (quiet : ∀ front c back, text = front ++ c :: back →
      Front (front.getLast?.or before) (c :: back ++ tail) (.kept c)) :
    scan before (text ++ tail) = text ++ scan (text.getLast?.or before) tail := by
  induction text generalizing before with
  | nil => rfl
  | cons c text ih =>
    have here : Front before (c :: text ++ tail) (.kept c) := quiet [] c text rfl
    rw [scan_of_front here rfl, Spot.getLast?_cons_or]
    refine congrArg (c :: ·) (ih fun front d back split => ?_)
    have later := quiet (c :: front) d back (by rw [split, List.cons_append])
    rwa [Spot.getLast?_cons_or] at later

/-- No line begins with the opening words. -/
def Unopened (text : List Char) : Prop :=
  ∀ line ∈ text.splitOn '\n', ¬ opening <+: line

/-- No line that a line feed ends begins with the opening words. -/
def NoPreamble (text : List Char) : Prop :=
  ∀ line ∈ (Text.terminatedLines text).1, ¬ opening <+: line

instance : DecidablePred Unopened :=
  fun text => inferInstanceAs (Decidable (∀ line ∈ text.splitOn '\n', ¬ opening <+: line))

instance : DecidablePred NoPreamble :=
  fun text => inferInstanceAs
    (Decidable (∀ line ∈ (Text.terminatedLines text).1, ¬ opening <+: line))

/-- Behind a line feed, and at the beginning, the lines are those of the text from there on. -/
theorem exists_lines_append {front : List Char} (start : AtLineStart front.getLast?)
    (back : List Char) :
    ∃ lines, (front ++ back).splitOn '\n' = lines ++ back.splitOn '\n' := by
  rcases start with nothing | lineFeed
  · rw [List.getLast?_eq_none_iff] at nothing
    exact ⟨[], by rw [nothing]; rfl⟩
  · obtain ⟨others, rfl⟩ := List.getLast?_eq_some_iff.mp lineFeed
    refine ⟨others.splitOn '\n', ?_⟩
    rw [List.append_assoc]
    exact List.splitOn_append_cons_self others back

/-- A line that a line feed ends stands at the start of the text or behind another line feed. -/
theorem mem_terminatedLines_iff {text line : List Char} :
    line ∈ (Text.terminatedLines text).1 ↔ '\n' ∉ line ∧
      ∃ front back, text = front ++ (line ++ '\n' :: back) ∧ AtLineStart front.getLast? := by
  constructor
  · intro listed
    have whole : '\n' ∉ line := Text.not_mem_of_mem_splitOn (List.dropLast_subset _ listed)
    obtain ⟨earlier, later, split⟩ := List.append_of_mem listed
    have joined : List.intercalate ['\n'] (text.splitOn '\n') = text :=
      List.intercalate_splitOn '\n'
    rw [Text.splitOn_eq_terminatedLines, split, List.append_assoc, List.cons_append] at joined
    have more : later ++ [(Text.terminatedLines text).2] ≠ [] := by simp
    obtain ⟨front, parted, start⟩ :=
      Text.exists_intercalate_append '\n' earlier (List.cons_ne_nil line _)
    rw [joined, Text.intercalate_cons '\n' line more] at parted
    exact ⟨whole, front, _, parted, start.imp (fun none => by rw [none.1]; rfl) id⟩
  · rintro ⟨whole, front, back, rfl, start⟩
    obtain ⟨lines, split⟩ := exists_lines_append start (line ++ '\n' :: back)
    rw [Text.terminatedLines, split, List.splitOn_append_cons_self, List.splitOn_eq_singleton whole,
      ← List.append_assoc, List.dropLast_append_of_ne_nil (List.splitOn_ne_nil '\n' back)]
    simp

theorem NoPreamble.not_opens {front back : List Char} (plain : NoPreamble (front ++ back))
    (start : AtLineStart front.getLast?) (ended : '\n' ∈ back) : ¬ opening <+: back := by
  intro opens
  obtain ⟨line, rest, rfl, whole⟩ := List.eq_append_cons_of_mem ended
  exact plain line (mem_terminatedLines_iff.mpr ⟨whole, front, rest, rfl, start⟩)
    (isPrefix_of_isPrefix_append_cons lineFeed_not_mem_opening opens)

theorem Unopened.noPreamble {text : List Char} (plain : Unopened text) : NoPreamble text :=
  fun line listed => plain line (List.dropLast_subset _ listed)

theorem Unopened.not_opens {front back : List Char} (plain : Unopened (front ++ back))
    (start : AtLineStart front.getLast?) : ¬ opening <+: back := by
  by_cases ended : '\n' ∈ back
  · exact plain.noPreamble.not_opens start ended
  · obtain ⟨lines, split⟩ := exists_lines_append start back
    refine plain back ?_
    rw [split, List.splitOn_eq_singleton ended]
    simp

theorem atLineStart_or_iff {front : List Char} {before : Option Char} (start : AtLineStart before) :
    AtLineStart (front.getLast?.or before) ↔ AtLineStart front.getLast? := by
  cases last : front.getLast? with
  | none => simpa [AtLineStart] using start
  | some c => rfl

/-- A text without fences stays as it is if no preamble begins anywhere in it. -/
theorem scan_of_unfenced {before : Option Char} {text : List Char} (unfenced : Unfenced text)
    (plain : ∀ front back, text = front ++ back → AtLineStart (front.getLast?.or before) →
      opening <+: back → '\n' ∉ back) : scan before text = text := by
  have stays : scan before (text ++ []) = text ++ scan (text.getLast?.or before) [] := by
    refine scan_append_of_quiet [] fun front c back split => ?_
    rw [List.append_nil]
    refine .kept (fun fenced => ?_) (plain front _ split)
    exact unfenced (split ▸ fenced.isInfix.trans (List.suffix_append front _).isInfix)
  rwa [List.append_nil, scan_nil, List.append_nil] at stays

/-- Without fences and preambles a text stays as it is. -/
theorem scan_of_plain {text : List Char} (unfenced : Unfenced text) (plain : NoPreamble text) :
    scan none text = text := by
  refine scan_of_unfenced unfenced fun front back split start opens ended => ?_
  rw [atLineStart_or_iff (.inl rfl)] at start
  exact (split ▸ plain).not_opens start ended opens

/-! ## Answers -/

theorem cleanResponse_eq (answer : String) :
    cleanResponse answer = Text.trim (String.ofList (scan none answer.toList)) := by
  rw [cleanResponse, Pattern.removeAll, removeFrom_eq, Text.trim, String.toList_ofList]

/-- Cleaning is one pass from left to right: it cuts the answer into parts, each of them what the
answer begins with there, and keeps the characters that belong to no noise; and then it trims. An
answer without noise is trimmed only. -/
theorem cleaning_is_one_pass (answer : String) :
    let all := parts none answer.toList
    noise.removeAll answer.toList = all.flatMap Part.left ∧
      cleanResponse answer = Text.trim (String.ofList (all.flatMap Part.left)) ∧
      all.flatMap Part.text = answer.toList ∧
      (∀ earlier part later, all = earlier ++ part :: later →
        Front (earlier.flatMap Part.text).getLast? (part.text ++ later.flatMap Part.text) part) ∧
      (Unfenced answer.toList → NoPreamble answer.toList →
        cleanResponse answer = Text.trim answer) := by
  intro all
  refine ⟨removeFrom_eq none _, cleanResponse_eq answer, flatMap_text_parts none _, ?_, ?_⟩
  · intro earlier part later split
    have front := front_of_parts split
    rwa [Option.or_none] at front
  · intro unfenced plain
    rw [cleanResponse_eq, scan_of_plain unfenced plain, String.ofList_toList]

/-- Two backticks, opening words in the middle of a line, and opening words in a line that no line
feed ends. -/
theorem cleaning_keeps_near_noise :
    let answer := "``a``\nThen: Here is the converted\nHere is the converted "
    Unfenced answer.toList ∧ NoPreamble answer.toList ∧
      cleanResponse answer = "``a``\nThen: Here is the converted\nHere is the converted" := by
  intro answer
  have unfenced : Unfenced answer.toList := by decide
  have plain : NoPreamble answer.toList := by decide
  refine ⟨unfenced, plain, ?_⟩
  rw [(cleaning_is_one_pass answer).2.2.2.2 unfenced plain]
  decide

end Polyglot.Cleaning
