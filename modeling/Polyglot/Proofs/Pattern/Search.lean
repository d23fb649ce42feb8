import Mathlib.Data.List.Infix
import Polyglot.Pattern.Search

/-!
# What a search finds

A match takes a part of the text, made of what its pattern can take, and ends behind it
(`leads_of_mem_ends`), so no match gives text back. A literal text matches itself and nothing else
(`ends_literal_append`), and what may be left out never stands in the way of a match
(`mem_ends_loop`, `mem_ends_optional`). Taking matches out goes on behind the preferred one, if that
takes anything (`removeFrom_of_cut`), and else keeps one character (`removeFrom_of_stay`).
-/

namespace Polyglot

/-! ## Places in a text -/

namespace Spot

variable {test : Char → Prop} {start middle stop : Spot}

/-- One place leads to another: the text between them holds only characters that pass the test, and
the last of those, if there are any, stands before the second place. -/
def Leads (test : Char → Prop) (start stop : Spot) : Prop :=
  ∃ taken : List Char, (∀ c ∈ taken, test c) ∧ start.rest = taken ++ stop.rest ∧
    stop.before = taken.getLast?.or start.before

/-- What stands before the end of a text that is gone through from its first character on. -/
theorem getLast?_cons_or (c : Char) (cs : List Char) (before : Option Char) :
    (c :: cs).getLast?.or before = cs.getLast?.or (some c) := by
  rw [List.getLast?_cons]
  cases cs.getLast? <;> rfl

theorem Leads.refl (spot : Spot) : Leads test spot spot :=
  ⟨[], List.forall_mem_nil _, rfl, rfl⟩

theorem Leads.trans (first : Leads test start middle) (second : Leads test middle stop) :
    Leads test start stop := by
  obtain ⟨front, passed, text, before⟩ := first
  obtain ⟨back, passed', text', before'⟩ := second
  refine ⟨front ++ back, ?_, ?_, ?_⟩
  · intro c mem
    rcases List.mem_append.mp mem with mem | mem
    · exact passed c mem
    · exact passed' c mem
  · rw [text, text', List.append_assoc]
  · rw [before', before, List.getLast?_append, Option.or_assoc]

end Spot

namespace Pattern

variable {p q : Pattern} {spot stop : Spot} {test : Char → Prop}

/-! ## Ends of matches -/

/-- Every character that a pattern can take passes the test. -/
def TakesOnly (test : Char → Prop) : Pattern → Prop
  | empty | anchor _ => True
  | char set => ∀ c, set.contains c = true → test c
  | seq p q | alt p q => p.TakesOnly test ∧ q.TakesOnly test
  | loop _ p | times _ p | upTo _ _ p | group _ p => p.TakesOnly test

theorem takesOnly_trivial (p : Pattern) : p.TakesOnly fun _ => True := by
  induction p <;> simp_all [TakesOnly]

theorem takesOnly_literal {c : Char} {cs : List Char} (absent : c ∉ cs) :
    (literal cs).TakesOnly (· ≠ c) := by
  induction cs with
  | nil => trivial
  | cons d cs ih =>
    rw [List.mem_cons, not_or] at absent
    refine ⟨fun e contained => ?_, ih absent.2⟩
    rw [CharSet.contains_single, beq_iff_eq] at contained
    exact contained ▸ Ne.symm absent.1

/-- Eager or not, a repetition ends where it begins or behind one more round. -/
theorem mem_rounds_succ_iff {eager : Bool} {step : Spot → List Spot} {fuel : Nat} :
    stop ∈ rounds eager step (fuel + 1) spot ↔
      stop = spot ∨ ∃ next ∈ step spot, next.rest.length < spot.rest.length ∧
        stop ∈ rounds eager step fuel next := by
  cases eager with
  | true =>
    simp only [rounds, if_true, List.mem_append, List.mem_singleton, List.mem_flatMap,
      List.mem_filter, decide_eq_true_eq, and_assoc]
    exact or_comm
  | false =>
    simp only [rounds, Bool.false_eq_true, if_false, List.mem_cons, List.mem_flatMap,
      List.mem_filter, decide_eq_true_eq, and_assoc]

theorem mem_atMost_succ_iff {eager : Bool} {step : Spot → List Spot} {count : Nat} :
    stop ∈ atMost eager step (count + 1) spot ↔
      stop = spot ∨ ∃ next ∈ step spot, stop ∈ atMost eager step count next := by
  cases eager with
  | true =>
    simp only [atMost, if_true, List.mem_append, List.mem_singleton, List.mem_flatMap]
    exact or_comm
  | false => simp only [atMost, Bool.false_eq_true, if_false, List.mem_cons, List.mem_flatMap]

/-- Rounds of steps that lead on lead on. -/
theorem leads_of_mem_rounds {eager : Bool} {step : Spot → List Spot} {fuel : Nat}
    (steps : ∀ spot, ∀ stop ∈ step spot, spot.Leads test stop)
    (found : stop ∈ rounds eager step fuel spot) : spot.Leads test stop := by
  induction fuel generalizing spot with
  | zero =>
    obtain rfl := List.mem_singleton.mp found
    exact .refl _
  | succ fuel ih =>
    rcases mem_rounds_succ_iff.mp found with rfl | ⟨next, taken, -, later⟩
    · exact .refl _
    · exact (steps spot next taken).trans (ih later)

theorem leads_of_mem_exactly {step : Spot → List Spot} {count : Nat}
    (steps : ∀ spot, ∀ stop ∈ step spot, spot.Leads test stop)
    (found : stop ∈ exactly step count spot) : spot.Leads test stop := by
  induction count generalizing spot with
  | zero =>
    obtain rfl := List.mem_singleton.mp found
    exact .refl _
  | succ count ih =>
    obtain ⟨next, taken, later⟩ := List.mem_flatMap.mp found
    exact (steps spot next taken).trans (ih later)

theorem leads_of_mem_atMost {eager : Bool} {step : Spot → List Spot} {count : Nat}
    (steps : ∀ spot, ∀ stop ∈ step spot, spot.Leads test stop)
    (found : stop ∈ atMost eager step count spot) : spot.Leads test stop := by
  induction count generalizing spot with
  | zero =>
    obtain rfl := List.mem_singleton.mp found
    exact .refl _
  | succ count ih =>
    rcases mem_atMost_succ_iff.mp found with rfl | ⟨next, taken, later⟩
    · exact .refl _
    · exact (steps spot next taken).trans (ih later)

/-- A match takes the text up to the place where it ends, and nothing but what its pattern can
take. -/
theorem leads_of_mem_ends (only : p.TakesOnly test) (found : stop ∈ p.ends spot) :
    spot.Leads test stop := by
  induction p generalizing spot stop with
  | empty =>
    obtain rfl := List.mem_singleton.mp found
    exact .refl _
  | char set =>
    unfold ends at found
    split at found
    · cases found
    · next c rest text =>
      split at found
      · next contained =>
        obtain rfl := List.mem_singleton.mp found
        exact ⟨[c], by simpa using only c contained, text, rfl⟩
      · cases found
  | anchor a =>
    unfold ends at found
    split at found
    · obtain rfl := List.mem_singleton.mp found
      exact .refl _
    · cases found
  | seq p q ihp ihq =>
    obtain ⟨next, first, later⟩ := List.mem_flatMap.mp found
    exact (ihp only.1 first).trans (ihq only.2 later)
  | alt p q ihp ihq =>
    obtain first | second := List.mem_append.mp found
    · exact ihp only.1 first
    · exact ihq only.2 second
  | loop eager p ih => exact leads_of_mem_rounds (fun _ _ taken => ih only taken) found
  | times count p ih => exact leads_of_mem_exactly (fun _ _ taken => ih only taken) found
  | upTo eager count p ih => exact leads_of_mem_atMost (fun _ _ taken => ih only taken) found
  | group index p ih =>
    obtain ⟨inner, taken, rfl⟩ := List.mem_map.mp found
    have within : spot.Leads test inner := ih only taken
    exact within

/-- A match leaves an end of the text that it began in. -/
theorem rest_suffix_of_mem_ends (found : stop ∈ p.ends spot) : stop.rest <:+ spot.rest := by
  obtain ⟨taken, -, text, -⟩ := leads_of_mem_ends (takesOnly_trivial p) found
  exact ⟨taken, text.symm⟩

/-- A loop may end where it begins. -/
theorem mem_ends_loop (eager : Bool) (p : Pattern) (spot : Spot) :
    spot ∈ (loop eager p).ends spot := by
  rw [ends]
  cases spot.rest.length with
  | zero => exact List.mem_singleton_self spot
  | succ fuel => exact mem_rounds_succ_iff.mpr (.inl rfl)

/-- What may be left out is. -/
theorem mem_ends_optional (eager : Bool) (p : Pattern) (spot : Spot) :
    spot ∈ (optional eager p).ends spot := by
  cases eager with
  | true => exact List.mem_append_right _ (List.mem_singleton_self spot)
  | false => exact List.mem_append_left _ (List.mem_singleton_self spot)

/-- A literal text matches itself, and the match ends behind it. -/
theorem ends_literal_append (cs rest : List Char) (before : Option Char)
    (groups : List (Nat × List Char)) :
    (literal cs).ends ⟨before, cs ++ rest, groups⟩ = [⟨cs.getLast?.or before, rest, groups⟩] := by
  induction cs generalizing before with
  | nil => rfl
  | cons c cs ih =>
    have first : (single c).ends ⟨before, c :: cs ++ rest, groups⟩ =
        [⟨some c, cs ++ rest, groups⟩] := by
      simp [single, ends]
    rw [literal, List.foldr_cons, ends, first, List.flatMap_singleton, Spot.getLast?_cons_or]
    exact ih (some c)

/-- Where a character of a set is asked for, the next one is of the set. -/
theorem next_of_mem_ends_char {set : CharSet} (found : stop ∈ (char set).ends spot) :
    ∃ c, set.contains c = true ∧ spot.rest = c :: stop.rest ∧ stop.before = some c := by
  unfold ends at found
  split at found
  · cases found
  · next c rest text =>
    split at found
    · next contained =>
      obtain rfl := List.mem_singleton.mp found
      exact ⟨c, contained, text, rfl⟩
    · cases found

/-- Where a character matches, it is the next one. -/
theorem next_of_mem_ends_single {c : Char} (found : stop ∈ (single c).ends spot) :
    spot.rest = c :: stop.rest ∧ stop.before = some c := by
  obtain ⟨d, same, text, before⟩ := next_of_mem_ends_char found
  rw [CharSet.contains_single, beq_iff_eq] at same
  subst same
  exact ⟨text, before⟩

/-- Where a literal text matches, the text begins with it. -/
theorem prefix_of_mem_ends_literal {cs : List Char} (found : stop ∈ (literal cs).ends spot) :
    cs <+: spot.rest := by
  induction cs generalizing spot with
  | nil => exact List.nil_prefix
  | cons c cs ih =>
    obtain ⟨next, first, later⟩ := List.mem_flatMap.mp found
    rw [(next_of_mem_ends_single first).1]
    exact List.cons_prefix_cons.mpr ⟨rfl, ih later⟩

/-- Where a literal text matches, the match ends behind it. -/
theorem rest_of_mem_ends_literal {cs : List Char} (found : stop ∈ (literal cs).ends spot) :
    spot.rest = cs ++ stop.rest := by
  obtain ⟨rest, text⟩ := prefix_of_mem_ends_literal found
  obtain ⟨before, whole, groups⟩ := spot
  dsimp only at text
  subst text
  rw [ends_literal_append, List.mem_singleton] at found
  rw [found]

/-- Where characters of a set are asked for, some characters of the set are taken. -/
theorem run_of_mem_ends_oneOrMore {set : CharSet} {eager : Bool}
    (found : stop ∈ (oneOrMore eager (char set)).ends spot) :
    ∃ run, run ≠ [] ∧ (∀ c ∈ run, set.contains c = true) ∧ spot.rest = run ++ stop.rest := by
  obtain ⟨next, first, later⟩ := List.mem_flatMap.mp found
  obtain ⟨c, here, text, -⟩ := next_of_mem_ends_char first
  have only : (loop eager (char set)).TakesOnly (set.contains · = true) :=
    fun _ contained => contained
  obtain ⟨others, inside, text', -⟩ := leads_of_mem_ends only later
  refine ⟨c :: others, List.cons_ne_nil _ _, ?_, ?_⟩
  · intro d listed
    rcases List.mem_cons.mp listed with rfl | listed
    · exact here
    · exact inside d listed
  · rw [text, text', List.cons_append]

/-- An anchored pattern matches what the pattern does where the condition holds. -/
theorem mem_ends_seq_anchor_iff {a : Anchor} :
    stop ∈ (seq (anchor a) p).ends spot ↔
      a.holds spot.before spot.after = true ∧ stop ∈ p.ends spot := by
  simp only [ends]
  split
  · next holds => simp [holds]
  · next fails => simp [fails]

/-! ## Taking matches out -/

/-- Where every match takes something and there is one, something is taken out. -/
theorem exists_cut (some_end : stop ∈ p.ends spot)
    (shorter : ∀ stop, (p.ends spot).head? = some stop → stop.rest.length < spot.rest.length) :
    ∃ cut, p.cut? spot = some cut := by
  unfold cut?
  split
  · next none_at_all =>
    rw [none_at_all] at some_end
    cases some_end
  · next first others listed =>
    have taken := shorter first (by rw [listed, List.head?_cons])
    rw [dif_pos taken]
    exact ⟨_, rfl⟩

/-- Whatever is taken out is a match. -/
theorem mem_ends_of_cut {cut : { stop : Spot // stop.rest.length < spot.rest.length }}
    (found : p.cut? spot = some cut) : cut.1 ∈ p.ends spot := by
  unfold cut? at found
  split at found
  · cases found
  · next first others listed =>
    split at found
    · cases found
      rw [listed]
      exact List.mem_cons_self
    · cases found

/-- Where something is taken out, the rest of the work is behind it. -/
theorem removeFrom_of_cut {before : Option Char} {cs : List Char}
    {cut : { stop : Spot // stop.rest.length < cs.length }}
    (found : p.cut? ⟨before, cs, []⟩ = some cut) :
    p.removeFrom before cs = p.removeFrom cut.1.before cut.1.rest := by
  cases cs with
  | nil => exact absurd cut.2 (Nat.not_lt_zero _)
  | cons c rest => rw [removeFrom, found]

/-- Where nothing is taken out, one character is kept. -/
theorem removeFrom_of_stay {before : Option Char} {c : Char} {rest : List Char}
    (nothing : p.cut? ⟨before, c :: rest, []⟩ = none) :
    p.removeFrom before (c :: rest) = c :: p.removeFrom (some c) rest := by
  rw [removeFrom, nothing]

end Pattern

end Polyglot
