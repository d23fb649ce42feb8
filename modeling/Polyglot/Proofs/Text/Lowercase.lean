import Mathlib.Data.List.DropRight
import Polyglot.Proofs.Text.Lines
import Polyglot.Text.Lowercase

/-!
# Blanks and lowercase

Changing a text to lowercase keeps the blanks at its ends, so that a text whose lowercase form has
none has none itself (`trim_eq_self_of_lowercase`), and adds no others, so that a text with blanks
at its ends is no trimmed text up to case (`lowercase_trim_ne`). Blanks are their own small letters
(`lowercaseOf_blank`) and those of nothing else (`not_isBlank_lowercaseOf`); the tables are looked
through for that once and for all.

Two texts whose ASCII letters differ in case have the same lowercase form
(`lowercase_eq_of_equalIgnoringAsciiCase`), but texts with the same lowercase form need be equal up
to the case of ASCII letters only if they are ASCII (`equalIgnoringAsciiCase_iff_of_ascii`).
-/

namespace Polyglot.Text

/-! ## Blank characters -/

/-- What the search finds stands in the table. -/
theorem Ranges.search_sound {table : Ranges} {point fuel first limit : Nat}
    (found : table.search point fuel first limit = true) :
    ∃ row ∈ table, row.1 ≤ point ∧ point ≤ row.2 := by
  induction fuel generalizing first limit with
  | zero => cases found
  | succ fuel ih =>
    unfold search at found
    split at found
    · simp only at found
      split at found
      · cases found
      · next low high row =>
        split at found
        · exact ih found
        · split at found
          · exact ih found
          · next above below =>
            exact ⟨(low, high), Array.mem_of_getElem? row, Nat.not_lt.mp above,
              Nat.not_lt.mp below⟩
    · cases found

/-- What holds of every character in the rows of the table holds of every blank. -/
theorem of_isBlank {P : Char → Prop}
    (table : ∀ row ∈ blanks, ∀ n ∈ List.range' row.1 (row.2 + 1 - row.1), P (Char.ofNat n))
    {c : Char} (blank : isBlank c = true) : P c := by
  obtain ⟨row, listed, low, high⟩ := Ranges.search_sound blank
  have covered : c.toNat ∈ List.range' row.1 (row.2 + 1 - row.1) := by
    rw [List.mem_range'_1]
    omega
  have holds := table row listed c.toNat covered
  rwa [Char.ofNat_toNat] at holds

/-- Every blank is its own small letter. -/
theorem lowercaseOf_blank {c : Char} (blank : isBlank c = true) : lowercaseOf c = [c] := by
  refine of_isBlank (P := fun c => lowercaseOf c = [c]) ?_ blank
  decide

theorem ne_sigma_of_blank {c : Char} (blank : isBlank c = true) : (c == 'Σ') = false := by
  rw [beq_eq_false_iff_ne]
  rintro rfl
  revert blank
  decide

/-- A blank at the front stays there. -/
theorem lowercasedAfter_cons_blank {c : Char} (blank : isBlank c = true) (before cs : List Char) :
    lowercasedAfter before (c :: cs) = c :: lowercasedAfter (c :: before) cs := by
  rw [lowercasedAfter, ne_sigma_of_blank blank, lowercaseOf_blank blank]
  rfl

/-- A blank at the end stays there. -/
theorem getLast?_lowercasedAfter {c : Char} (blank : isBlank c = true) (before cs : List Char) :
    (lowercasedAfter before (cs ++ [c])).getLast? = some c := by
  induction cs generalizing before with
  | nil =>
    rw [List.nil_append, lowercasedAfter_cons_blank blank]
    rfl
  | cons d cs ih =>
    rw [List.cons_append, lowercasedAfter]
    simp only [List.getLast?_append, ih, Option.some_or]

/-- No small letter is a blank: those that a row of the table leads to lie outside every row of the
blanks. -/
theorem not_isBlank_lowercaseOf {c d : Char} (ink : isBlank c = false) (small : d ∈ lowercaseOf c) :
    isBlank d = false := by
  have ascii : ∀ n < 0x80, isBlank (Char.ofNat n) = false →
      isBlank (Char.ofNat n).toLower = false := by decide
  have apart : ∀ run ∈ lowercaseRuns, ∀ row ∈ blanks,
      row.2 < run.first + run.offset ∨ run.last + run.offset < row.1 := by decide +kernel
  have positive : ∀ row ∈ blanks, 0 < row.1 := by decide
  unfold lowercaseOf at small
  split at small
  · next low =>
    rw [List.mem_singleton] at small
    have same := ascii c.toNat low
    rw [Char.ofNat_toNat] at same
    exact small ▸ same ink
  split at small
  · rw [List.mem_cons, List.mem_singleton] at small
    rcases small with rfl | rfl <;> decide
  split at small
  · next run found =>
    rw [List.mem_singleton] at small
    rw [← Bool.not_eq_true]
    intro blank
    obtain ⟨row, listed, low, high⟩ := Ranges.search_sound blank
    have covers := List.find?_some found
    -- the small letter is as far from the capital as the row says, or no code point at all
    have outside := apart run (List.mem_of_find?_eq_some found) row listed
    simp only [CaseRun.covers, Bool.and_eq_true, decide_eq_true_eq] at covers
    have code : d.toNat = run.partner c.toNat ∨ d.toNat = 0 := by
      by_cases valid : (run.partner c.toNat).isValidChar
      · rw [small, Char.ofNat, dif_pos valid]
        exact .inl rfl
      · rw [small, Char.ofNat, dif_neg valid]
        exact .inr rfl
    have := positive row listed
    rw [CaseRun.partner] at code
    omega
  · rw [List.mem_singleton] at small
    exact small ▸ ink

theorem lowercaseOf_ne_nil (c : Char) : lowercaseOf c ≠ [] := by
  unfold lowercaseOf
  split
  · nofun
  · split
    · nofun
    · split <;> nofun

/-- What is no blank becomes none, whatever stands around it. -/
theorem lowercasedAfter_cons_ink {c : Char} (ink : isBlank c = false) (before cs : List Char) :
    ∃ small, small ≠ [] ∧ (∀ d ∈ small, isBlank d = false) ∧
      lowercasedAfter before (c :: cs) = small ++ lowercasedAfter (c :: before) cs := by
  refine ⟨_, ?_, ?_, rfl⟩
  · split
    · split <;> nofun
    · exact lowercaseOf_ne_nil c
  · split
    · split <;> exact List.forall_mem_singleton.mpr (by decide)
    · exact fun d => not_isBlank_lowercaseOf ink

/-- A text whose last character is no blank has such a lowercase form. -/
theorem getLast?_lowercasedAfter_ink {c : Char} (ink : isBlank c = false) (before cs : List Char) :
    ∃ d, (lowercasedAfter before (cs ++ [c])).getLast? = some d ∧ isBlank d = false := by
  induction cs generalizing before with
  | nil =>
    obtain ⟨small, filled, inked, form⟩ := lowercasedAfter_cons_ink ink before []
    refine ⟨small.getLast filled, ?_, inked _ (List.getLast_mem filled)⟩
    rw [List.nil_append, form, lowercasedAfter, List.append_nil, List.getLast?_eq_some_getLast]
  | cons e cs ih =>
    obtain ⟨d, last, inked⟩ := ih (e :: before)
    refine ⟨d, ?_, inked⟩
    rw [List.cons_append, lowercasedAfter]
    simp only [List.getLast?_append, last, Option.some_or]

/-! ## The case of ASCII letters -/

/-- The capitals of ASCII. -/
def capitals : List Char :=
  (List.range' 0x41 26).map Char.ofNat

theorem toLower_eq_self_or_capital (c : Char) : c.toLower = c ∨ c ∈ capitals := by
  by_cases capital : c.val ≥ 'A'.val ∧ c.val ≤ 'Z'.val
  · refine .inr (List.mem_map.mpr ⟨c.toNat, ?_, Char.ofNat_toNat c⟩)
    have low : 0x41 ≤ c.toNat := capital.1
    have high : c.toNat ≤ 0x5A := capital.2
    rw [List.mem_range'_1]
    omega
  · exact .inl (dif_neg capital)

/-- What has been looked up for each capital. -/
theorem of_mem_capitals {P : Char → Prop} [DecidablePred P]
    (table : capitals.all (decide <| P ·) = true) {c : Char} (capital : c ∈ capitals) : P c :=
  of_decide_eq_true (List.all_eq_true.mp table c capital)

/-- A letter and its small letter are alike in all that lowercase depends on. -/
theorem casing_toLower (c : Char) :
    lowercaseOf c.toLower = lowercaseOf c ∧ isCased c.toLower = isCased c ∧
      isCaseIgnorable c.toLower = isCaseIgnorable c ∧ (c.toLower == 'Σ') = (c == 'Σ') := by
  rcases toLower_eq_self_or_capital c with same | capital
  · rw [same]
    exact ⟨rfl, rfl, rfl, rfl⟩
  · exact of_mem_capitals (P := fun c => lowercaseOf c.toLower = lowercaseOf c ∧
      isCased c.toLower = isCased c ∧ isCaseIgnorable c.toLower = isCaseIgnorable c ∧
      (c.toLower == 'Σ') = (c == 'Σ')) (by decide +kernel) capital

theorem startsCased_map_toLower (cs : List Char) :
    startsCased (cs.map Char.toLower) = startsCased cs := by
  induction cs with
  | nil => rfl
  | cons c cs ih =>
    obtain ⟨-, cased, ignorable, -⟩ := casing_toLower c
    rw [startsCased, startsCased] at ih ⊢
    rw [List.map_cons, List.dropWhile_cons, List.dropWhile_cons, ignorable]
    cases isCaseIgnorable c with
    | true => exact ih
    | false => exact cased

/-- Lowercase does not see the case of ASCII letters. -/
theorem lowercasedAfter_map_toLower (before cs : List Char) :
    lowercasedAfter (before.map Char.toLower) (cs.map Char.toLower) =
      lowercasedAfter before cs := by
  induction cs generalizing before with
  | nil => rfl
  | cons c cs ih =>
    obtain ⟨small, -, -, sigma⟩ := casing_toLower c
    have others := ih (c :: before)
    rw [List.map_cons] at others
    rw [List.map_cons, lowercasedAfter, lowercasedAfter, others, small, sigma,
      startsCased_map_toLower, startsCased_map_toLower]

/-- Texts that are equal up to the case of ASCII letters are equal up to case. -/
theorem lowercase_eq_of_equalIgnoringAsciiCase {s t : String}
    (same : equalIgnoringAsciiCase s t = true) : lowercase s = lowercase t := by
  have letters : s.toList.map Char.toLower = t.toList.map Char.toLower := beq_iff_eq.mp same
  have small (cs : List Char) : lowercased (cs.map Char.toLower) = lowercased cs :=
    lowercasedAfter_map_toLower [] cs
  rw [lowercase, lowercase, ← small s.toList, letters, small]

/-- Nothing but ASCII characters. -/
def IsAscii (s : String) : Prop :=
  ∀ c ∈ s.toList, c.toNat < 0x80

instance : DecidablePred IsAscii := fun s =>
  decidable_of_iff (s.toList.all (·.toNat < 0x80) = true) (by simp [IsAscii])

/-- Trimming takes characters away only. -/
theorem isAscii_trim {s : String} (ascii : IsAscii s) : IsAscii (trim s) := by
  intro c mem
  rw [trim, String.toList_ofList] at mem
  exact ascii c ((trimmed_isInfix s.toList).subset mem)

theorem lowercasedAfter_of_ascii {cs : List Char} (ascii : ∀ c ∈ cs, c.toNat < 0x80)
    (before : List Char) : lowercasedAfter before cs = cs.map Char.toLower := by
  induction cs generalizing before with
  | nil => rfl
  | cons c cs ih =>
    rw [List.forall_mem_cons] at ascii
    have plain : (c == 'Σ') = false := by
      rw [beq_eq_false_iff_ne]
      rintro rfl
      exact absurd ascii.1 (by decide)
    rw [lowercasedAfter, plain, lowercaseOf, if_pos ascii.1, ih ascii.2]
    rfl

/-- Of ASCII texts the converse holds as well. -/
theorem equalIgnoringAsciiCase_iff_of_ascii {s t : String} (ascii : IsAscii s)
    (ascii' : IsAscii t) : equalIgnoringAsciiCase s t = true ↔ lowercase s = lowercase t := by
  refine ⟨lowercase_eq_of_equalIgnoringAsciiCase, fun same => beq_iff_eq.mpr ?_⟩
  rw [lowercase, lowercase, lowercased, lowercased, lowercasedAfter_of_ascii ascii,
    lowercasedAfter_of_ascii ascii', String.ofList_inj] at same
  exact same

/-! ## Trimming -/

/-- Nothing is trimmed off a text that neither begins nor ends with a blank. -/
theorem trimmed_eq_self_iff {cs : List Char} :
    trimmed cs = cs ↔
      (∀ c, cs.head? = some c → isBlank c = false) ∧
        ∀ c, cs.getLast? = some c → isBlank c = false := by
  have front : cs.dropWhile isBlank = cs ↔ ∀ c, cs.head? = some c → isBlank c = false := by
    cases cs with
    | nil => simp
    | cons c cs => simp [List.dropWhile_eq_self_iff]
  have back : cs.rdropWhile isBlank = cs ↔ ∀ c, cs.getLast? = some c → isBlank c = false := by
    rw [List.rdropWhile_eq_self_iff]
    constructor
    · intro last c ends
      obtain ⟨front, rfl⟩ := List.getLast?_eq_some_iff.mp ends
      simpa using last (by simp)
    · intro last filled
      rw [last _ (List.getLast?_eq_some_getLast filled)]
      decide
  rw [← front, ← back]
  constructor
  · intro untouched
    -- what both steps leave as it was, the first leaves as it was
    have first : cs.dropWhile isBlank = cs := by
      refine (List.dropWhile_suffix isBlank).eq_of_length_le ?_
      calc cs.length = (trimmed cs).length := by rw [untouched]
        _ ≤ (cs.dropWhile isBlank).length := (List.rdropWhile_prefix isBlank _).length_le
    refine ⟨first, ?_⟩
    rwa [trimmed, first] at untouched
  · rintro ⟨first, second⟩
    rw [trimmed, first]
    exact second

theorem trim_eq_self_of_lowercase {s : String} (unpadded : trim (lowercase s) = lowercase s) :
    trim s = s := by
  have kept : trimmed (lowercased s.toList) = lowercased s.toList := by
    rwa [trim, lowercase, String.toList_ofList, String.ofList_inj] at unpadded
  obtain ⟨front, back⟩ := trimmed_eq_self_iff.mp kept
  have untouched : trimmed s.toList = s.toList := by
    refine trimmed_eq_self_iff.mpr ⟨?_, ?_⟩
    -- a blank at an end would still be there in lowercase, where none is
    · intro c begins
      obtain ⟨rest, written⟩ := List.head?_eq_some_iff.mp begins
      by_contra blank
      rw [Bool.not_eq_false] at blank
      have stays := front c (by rw [written, lowercased, lowercasedAfter_cons_blank blank]; rfl)
      rw [blank] at stays
      cases stays
    · intro c ends
      obtain ⟨rest, written⟩ := List.getLast?_eq_some_iff.mp ends
      by_contra blank
      rw [Bool.not_eq_false] at blank
      have stays := back c (by rw [written, lowercased, getLast?_lowercasedAfter blank])
      rw [blank] at stays
      cases stays
  rw [trim, untouched, String.ofList_toList]

/-- The lowercase form of a text has blanks at its ends just where the text has. -/
theorem trimmed_lowercased_of_trimmed {cs : List Char} (kept : trimmed cs = cs) :
    trimmed (lowercased cs) = lowercased cs := by
  obtain ⟨front, back⟩ := trimmed_eq_self_iff.mp kept
  refine trimmed_eq_self_iff.mpr ⟨?_, ?_⟩
  -- what becomes of a character that is no blank begins with none, and ends with none
  · intro d begins
    cases cs with
    | nil => cases begins
    | cons c cs =>
      obtain ⟨small, filled, inked, form⟩ := lowercasedAfter_cons_ink (front c rfl) [] cs
      rw [lowercased, form, List.head?_append, List.head?_eq_some_head filled, Option.some_or,
        Option.some.injEq] at begins
      exact begins ▸ inked _ (List.head_mem filled)
  · intro d ends
    cases written : cs.getLast? with
    | none =>
      rw [List.getLast?_eq_none_iff.mp written] at ends
      cases ends
    | some c =>
      obtain ⟨rest, rfl⟩ := List.getLast?_eq_some_iff.mp written
      obtain ⟨d', last, inked⟩ := getLast?_lowercasedAfter_ink (back c written) [] rest
      rw [lowercased, last, Option.some.injEq] at ends
      exact ends ▸ inked

/-- What was trimmed has no blanks at its ends. -/
theorem trimmed_trimmed (cs : List Char) : trimmed (trimmed cs) = trimmed cs := by
  refine trimmed_eq_self_iff.mpr ⟨?_, ?_⟩
  · intro c begins
    obtain ⟨tail, whole⟩ : trimmed cs <+: cs.dropWhile isBlank := List.rdropWhile_prefix isBlank _
    have first : (cs.dropWhile isBlank).head? = some c := by
      rw [← whole, List.head?_append, begins, Option.some_or]
    exact head?_dropWhile first
  · exact fun c ends => getLast?_dropTail ends

/-- A text with blanks at its ends differs from every trimmed text, even up to case. -/
theorem lowercase_trim_ne {s : String} (padded : trim s ≠ s) (t : String) :
    lowercase (trim t) ≠ lowercase s := by
  intro same
  refine padded (trim_eq_self_of_lowercase ?_)
  have kept : trimmed (lowercased (trimmed t.toList)) = lowercased (trimmed t.toList) :=
    trimmed_lowercased_of_trimmed (trimmed_trimmed t.toList)
  rw [← same, trim, lowercase, trim, String.toList_ofList, String.toList_ofList, kept]

/-- A text is blank when nothing is left of it after trimming. -/
theorem allBlank_iff {s : String} : allBlank s = true ↔ trim s = "" := by
  rw [allBlank, List.all_eq_true, trim, ← String.toList_inj, String.toList_ofList]
  constructor
  · intro blank
    rw [trimmed, List.dropWhile_eq_nil_iff.mpr blank]
    rfl
  · intro nothing
    have rest : ∀ c ∈ s.toList.dropWhile isBlank, isBlank c = true :=
      List.rdropWhile_eq_nil_iff.mp nothing
    cases left : s.toList.dropWhile isBlank with
    | nil => exact List.dropWhile_eq_nil_iff.mp left
    | cons c cs =>
      -- the first character that is left is no blank, and all that are left are blanks
      have ink : isBlank c = false := head?_dropWhile (congrArg List.head? left)
      have blank := rest c (by rw [left]; exact List.mem_cons_self)
      rw [ink] at blank
      cases blank

/-- A text that is not blank is not empty. -/
theorem ne_empty_of_trim {s : String} (written : trim s ≠ "") : s ≠ "" := by
  rintro rfl
  exact written rfl

end Polyglot.Text
