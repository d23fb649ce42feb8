import Polyglot.Proofs.Conversion.Accumulation
import Polyglot.Proofs.Pattern.Search
import Polyglot.Proofs.Text.Lines

/-!
# No fence survives

Cleaning takes fences out one by one, and what is left of the text on both sides of one comes
together. It never comes together to a new fence: a match begins with three backticks or at the
start of a line (`fence_or_lineStart_of_cut`), so a character that is kept before a match is no
backtick, unless three of them were there before (`unfenced_removeFrom`). Making a script print
adds no backtick and moves no line (`unfenced_prepare`). So **`fences_never_survive`**: neither a
cleaned answer nor the outcome of any conversion has three backticks in a row.
-/

namespace Polyglot

/-- No three backticks stand in a row. -/
def Unfenced (cs : List Char) : Prop :=
  ¬ "```".toList <:+: cs

instance : DecidablePred Unfenced :=
  fun cs => inferInstanceAs (Decidable (¬ "```".toList <:+: cs))

theorem unfenced_nil : Unfenced [] := by decide

/-- What is part of an unfenced text is unfenced. -/
theorem Unfenced.of_isInfix {part whole : List Char} (unfenced : Unfenced whole)
    (within : part <:+: whole) : Unfenced part :=
  fun fenced => unfenced (fenced.trans within)

namespace Cleaning

/-- The character that fences are made of. -/
def mark : Char := '\x60'

theorem fence_eq : "```".toList = [mark, mark, mark] := rfl

/-! ## Matches -/

/-- Three backticks are always taken out. -/
theorem exists_cut_of_fence (before : Option Char) {cs : List Char} (fenced : "```".toList <+: cs) :
    ∃ cut, noise.cut? ⟨before, cs, []⟩ = some cut := by
  obtain ⟨rest, rfl⟩ := fenced
  have fences : fence.ends ⟨before, "```".toList ++ rest, []⟩ =
      (Pattern.seq (.loop true (.char .word)) (.optional true (.single '\n'))).ends
        ⟨some mark, rest, []⟩ := by
    have opening := Pattern.ends_literal_append "```".toList rest before []
    change ((Pattern.literal "```".toList).ends _).flatMap _ = _
    rw [opening, List.flatMap_singleton]
    rfl
  -- the tag and the line feed may both be missing
  have bare : ⟨some mark, rest, []⟩ ∈ fence.ends ⟨before, "```".toList ++ rest, []⟩ := by
    rw [fences]
    exact List.mem_flatMap.mpr
      ⟨_, Pattern.mem_ends_loop _ _ _, Pattern.mem_ends_optional _ _ _⟩
  refine Pattern.exists_cut (List.mem_append_left _ bare) fun stop preferred => ?_
  have listed : stop ∈ fence.ends ⟨before, "```".toList ++ rest, []⟩ := by
    rw [noise, Pattern.ends, List.head?_append_of_ne_nil _ (List.ne_nil_of_mem bare)] at preferred
    exact List.mem_of_head? preferred
  rw [fences] at listed
  have left : stop.rest.length ≤ rest.length := (Pattern.rest_suffix_of_mem_ends listed).length_le
  rw [List.length_append]
  exact Nat.lt_of_le_of_lt left (Nat.lt_add_of_pos_left (by decide))

/-- What is taken out begins with three backticks or at the start of a line. -/
theorem fence_or_lineStart_of_cut {before : Option Char} {cs : List Char}
    {cut : { stop : Spot // stop.rest.length < cs.length }}
    (found : noise.cut? ⟨before, cs, []⟩ = some cut) :
    "```".toList <+: cs ∨ Anchor.lineStart.holds before cs.head? = true := by
  obtain fenced | introduced := List.mem_append.mp (Pattern.mem_ends_of_cut found)
  · obtain ⟨next, first, -⟩ := List.mem_flatMap.mp fenced
    exact .inl (Pattern.prefix_of_mem_ends_literal first)
  · exact .inr (Pattern.mem_ends_seq_anchor_iff.mp introduced).1

/-! ## What is left -/

/-- Behind a backtick that is kept, no more backticks come together than there were, unless there
was a fence. -/
theorem marks_of_removeFrom (count : Nat) {cs : List Char}
    (marked : List.replicate count mark <+: noise.removeFrom (some mark) cs) :
    List.replicate count mark <+: cs ∨ "```".toList <+: cs := by
  induction count generalizing cs with
  | zero => exact .inl List.nil_prefix
  | succ count ih =>
    cases cs with
    | nil =>
      rw [Pattern.removeFrom] at marked
      exact .inl marked
    | cons c rest =>
      cases found : noise.cut? ⟨some mark, c :: rest, []⟩ with
      | some cut =>
        -- only a fence can be cut here, as the place in front is no line start
        obtain fenced | atStart := fence_or_lineStart_of_cut found
        · exact .inr fenced
        · have within : Anchor.lineStart.holds (some mark) (c :: rest).head? = false := rfl
          rw [within] at atStart
          cases atStart
      | none =>
        rw [Pattern.removeFrom_of_stay found, List.replicate_succ, List.cons_prefix_cons] at marked
        obtain ⟨rfl, later⟩ := marked
        obtain fewer | fenced := ih later
        · exact .inl (List.cons_prefix_cons.mpr ⟨rfl, fewer⟩)
        · refine .inr ?_
          obtain ⟨others, rfl⟩ := fenced
          exact ⟨mark :: others, rfl⟩

/-- Taking out noise leaves no fence. -/
theorem unfenced_removeFrom (before : Option Char) (cs : List Char) :
    Unfenced (noise.removeFrom before cs) := by
  induction length : cs.length using Nat.strong_induction_on generalizing before cs with
  | _ size ih =>
    subst length
    cases cs with
    | nil =>
      rw [Pattern.removeFrom]
      decide
    | cons c rest =>
      cases found : noise.cut? ⟨before, c :: rest, []⟩ with
      | some cut =>
        rw [Pattern.removeFrom_of_cut found]
        exact ih _ cut.2 _ _ rfl
      | none =>
        rw [Pattern.removeFrom_of_stay found, Unfenced, List.infix_cons_iff, not_or]
        refine ⟨fun fenced => ?_, ih _ (Nat.lt_succ_self _) _ _ rfl⟩
        rw [fence_eq, List.cons_prefix_cons] at fenced
        obtain ⟨rfl, later⟩ := fenced
        -- the two backticks behind this one were there before, so all three were taken out
        have two : [mark, mark] <+: rest := by
          obtain both | ⟨others, rfl⟩ := marks_of_removeFrom 2 later
          · exact both
          · exact ⟨mark :: others, rfl⟩
        have three : "```".toList <+: mark :: rest := List.cons_prefix_cons.mpr ⟨rfl, two⟩
        obtain ⟨cut, taken⟩ := exists_cut_of_fence before three
        rw [taken] at found
        cases found

end Cleaning

/-! ## Answers -/

/-- A cleaned answer has no fence in it. -/
theorem unfenced_cleanResponse (answer : String) : Unfenced (cleanResponse answer).toList := by
  rw [cleanResponse, String.toList_ofList]
  exact (Cleaning.unfenced_removeFrom none answer.toList).of_isInfix (Text.trimmed_isInfix _)

/-! ## Scripts -/

/-- No fence comes of putting another character between two parts. -/
theorem Unfenced.append_cons {front back : List Char} {c : Char} (first : Unfenced front)
    (second : Unfenced back) (other : c ≠ Cleaning.mark) : Unfenced (front ++ c :: back) := by
  intro fenced
  rcases List.infix_append_iff.mp fenced with within | within | ⟨left, right, whole, ends, begins⟩
  · exact first within
  · rcases List.infix_cons_iff.mp within with begins | within
    · exact other (List.cons_prefix_cons.mp begins).1.symm
    · exact second within
  · cases right with
    | nil =>
      rw [List.append_nil] at whole
      exact first (whole ▸ ends.isInfix)
    | cons d right =>
      -- the other character would have to be part of the fence
      obtain ⟨rfl, -⟩ := List.cons_prefix_cons.mp begins
      have part : d ∈ "```".toList := whole ▸ List.mem_append_right _ List.mem_cons_self
      rw [Cleaning.fence_eq] at part
      have marks : ∀ e ∈ List.replicate 3 Cleaning.mark, e = Cleaning.mark :=
        fun e => List.eq_of_mem_replicate
      exact other (marks d part)

/-- No fence comes of joining lines. -/
theorem unfenced_intercalate {mark : Char} (other : mark ≠ Cleaning.mark)
    {pieces : List (List Char)} (unfenced : ∀ piece ∈ pieces, Unfenced piece) : Unfenced (List.intercalate [mark] pieces) := by
  induction pieces with
  | nil => exact unfenced_nil
  | cons first others ih =>
    obtain ⟨here, later⟩ := List.forall_mem_cons.mp unfenced
    cases others with
    | nil => rwa [List.intercalate_singleton]
    | cons second others =>
      rw [Text.intercalate_cons mark first (List.cons_ne_nil second others)]
      exact here.append_cons (ih later) other

namespace PythonScript

theorem unfenced_prepareLine {line : List Char} (unfenced : Unfenced line) :
    Unfenced (prepareLine line) := by
  unfold prepareLine
  split
  · exact unfenced
  · have opening : Unfenced "print".toList := by decide
    have argument : Unfenced (Text.trimmed line ++ [')']) :=
      (unfenced.of_isInfix (Text.trimmed_isInfix line)).append_cons unfenced_nil (by decide)
    exact opening.append_cons argument (by decide)

/-- Making a script print leaves it without fences. -/
theorem unfenced_prepare {code : List Char} (unfenced : Unfenced code) :
    Unfenced (prepare code) := by
  suffices lines : ∀ line ∈ (Text.lines (Text.trimmed code)).map prepareLine, Unfenced line from
    (unfenced_intercalate (by decide) lines).append_cons unfenced_nil (by decide)
  intro line listed
  obtain ⟨plain, written, rfl⟩ := List.mem_map.mp listed
  have within : plain <:+: code :=
    (Text.infix_of_mem_lines written).trans (Text.trimmed_isInfix code)
  exact unfenced_prepareLine (unfenced.of_isInfix within)

end PythonScript

/-! ## Outcomes -/

namespace Converter

variable {σ : Type}

theorem unfenced_finishCode (registry : Registry) (target answer : String) :
    Unfenced (finishCode registry target answer).toList := by
  simp only [finishCode]
  split
  · rw [preparePython, String.toList_ofList]
    exact PythonScript.unfenced_prepare (unfenced_cleanResponse answer)
  · exact unfenced_cleanResponse answer

/-- Whatever is converted comes from an answer. -/
theorem exists_answer_of_converted {converter : Converter} {request : ConversionRequest}
    {observer : Option (Observer σ)} {seen : σ} {code : String}
    (converted : (converter.convertObserved request observer seen).result = .ok (.converted code)) :
    ∃ answer, code = finishCode converter.registry request.target answer := by
  unfold convertObserved at converted
  split at converted
  · cases converted
  · split at converted
    · cases converted
    · split at converted
      · cases converted
      · cases converted
      · next backend selected =>
        simp only [ask] at converted
        split at converted
        · cases converted
        · next text gathered =>
          cases converted
          exact ⟨text, rfl⟩

/-- No three backticks in a row are left of any answer, and none stand in the outcome of any
conversion, whatever the target and however the answer was cut. -/
theorem fences_never_survive :
    (∀ answer, Unfenced (cleanResponse answer).toList) ∧
    ∀ (converter : Converter) (request : ConversionRequest) (observer : Option (Observer σ))
      (seen : σ) (code : String),
      (converter.convertObserved request observer seen).result = .ok (.converted code) →
        Unfenced code.toList := by
  refine ⟨unfenced_cleanResponse, fun converter request observer seen code converted => ?_⟩
  obtain ⟨answer, rfl⟩ := exists_answer_of_converted converted
  exact unfenced_finishCode converter.registry request.target answer

/-- Five backticks, cut into pieces, on both sides of a script. -/
theorem fences_never_survive_long_runs :
    ∃ registry, Registry.ofDefinitions scriptLanguages = .ok registry ∧
      let backend := scripted "model" [.ok "``", .ok "```py\nx\n````", .ok "`"]
      let converter := ({ registry, options := {} } : Converter).withBackend "GPT" backend
      let code := "print(``py)\nprint(x)\nprint(``)\n"
      (converter.convertObserved ⟨"y", "Beta", "Python", "GPT", none⟩ none ()).result =
        .ok (.converted code) ∧ Unfenced code.toList := by
  refine ⟨_, rfl, ?_⟩
  intro backend converter code
  have converted : (converter.convertObserved ⟨"y", "Beta", "Python", "GPT", none⟩ none ()).result =
      .ok (.converted code) := by decide +kernel
  exact ⟨converted, fences_never_survive.2 _ _ _ _ _ converted⟩

end Converter

end Polyglot
