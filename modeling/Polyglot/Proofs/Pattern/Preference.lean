import Polyglot.Proofs.Pattern.Search

/-!
# Which match is preferred

Of all matches from a place a search takes the first. `Prefers` says where that ends, and each way
to put a pattern together has its rule: one part after the other (`Prefers.seq`), the first of two
if it matches (`Prefers.alt`) and the second if the first does not (`prefers_alt_of_ends_eq_nil`),
what may be left out where it stands (`Prefers.optional`). An eager loop over a set of characters
prefers the longest run of them (`prefers_run`); whether eager or not, it can end behind any run
(`mem_ends_run`). A search ends at the first place that has a match (`firstFrom_of_prefers`), and
what is taken out of a text is what the preferred match takes (`cut_of_prefers`).
-/

namespace Polyglot.Pattern

variable {p q : Pattern} {set : CharSet} {spot middle stop : Spot} {c : Char}
  {before : Option Char} {rest : List Char} {groups : List (Nat × List Char)}

/-- Of all matches that begin at the spot the first one ends at `stop`. -/
def Prefers (p : Pattern) (spot stop : Spot) : Prop :=
  (p.ends spot).head? = some stop

theorem Prefers.mem_ends (preferred : p.Prefers spot stop) : stop ∈ p.ends spot :=
  List.mem_of_head? preferred

/-! ## Parts -/

theorem Prefers.seq (first : p.Prefers spot middle) (second : q.Prefers middle stop) :
    (seq p q).Prefers spot stop := by
  unfold Prefers at first second
  cases listed : p.ends spot with
  | nil =>
    rw [listed] at first
    cases first
  | cons next others =>
    rw [listed, List.head?_cons, Option.some.injEq] at first
    subst first
    have found : q.ends next ≠ [] := by
      intro nothing
      rw [nothing] at second
      cases second
    rw [Prefers, ends, listed, List.flatMap_cons, List.head?_append_of_ne_nil _ found, second]

theorem Prefers.alt (first : p.Prefers spot stop) : (alt p q).Prefers spot stop := by
  have found : p.ends spot ≠ [] := List.ne_nil_of_mem first.mem_ends
  rw [Prefers, ends, List.head?_append_of_ne_nil _ found]
  exact first

theorem prefers_alt_of_ends_eq_nil (nothing : p.ends spot = []) (second : q.Prefers spot stop) :
    (alt p q).Prefers spot stop := by
  rw [Prefers, ends, nothing, List.nil_append]
  exact second

theorem Prefers.optional (here : p.Prefers spot stop) : (optional true p).Prefers spot stop :=
  here.alt

theorem prefers_optional_of_ends_eq_nil (nothing : p.ends spot = []) :
    (optional true p).Prefers spot spot :=
  prefers_alt_of_ends_eq_nil nothing rfl

/-- A group remembers what it took. -/
theorem Prefers.group (index : Nat) (inside : p.Prefers spot stop) :
    (group index p).Prefers spot
      { stop with groups := (index, spot.textTo stop) :: stop.groups } := by
  unfold Prefers at inside
  rw [Prefers, ends, List.head?_map, inside]
  rfl

/-! ## Characters -/

theorem ends_char_of_contains (contained : set.contains c = true) :
    (char set).ends ⟨before, c :: rest, groups⟩ = [⟨some c, rest, groups⟩] := by
  simp only [ends, if_pos contained]

theorem ends_char_eq_nil (other : ∀ c, rest.head? = some c → set.contains c = false) :
    (char set).ends ⟨before, rest, groups⟩ = [] := by
  cases rest with
  | nil => rfl
  | cons c rest =>
    have outside : set.contains c = false := other c rfl
    simp [ends, outside]

theorem prefers_literal (cs : List Char) :
    (literal cs).Prefers ⟨before, cs ++ rest, groups⟩ ⟨cs.getLast?.or before, rest, groups⟩ := by
  rw [Prefers, ends_literal_append]
  rfl

/-- Rounds over a run of characters in the set can end behind it. -/
theorem mem_rounds_run (eager : Bool) {run : List Char} {fuel : Nat}
    (inside : ∀ c ∈ run, set.contains c = true) (enough : run.length ≤ fuel) :
    ⟨run.getLast?.or before, rest, groups⟩ ∈
      rounds eager (char set).ends fuel ⟨before, run ++ rest, groups⟩ := by
  induction run generalizing before fuel with
  | nil =>
    cases fuel with
    | zero => exact List.mem_singleton_self _
    | succ fuel => exact mem_rounds_succ_iff.mpr (.inl rfl)
  | cons c run ih =>
    obtain ⟨here, later⟩ := List.forall_mem_cons.mp inside
    cases fuel with
    | zero => exact absurd enough (Nat.not_succ_le_zero _)
    | succ fuel =>
      rw [List.cons_append, Spot.getLast?_cons_or]
      refine mem_rounds_succ_iff.mpr (.inr ⟨⟨some c, run ++ rest, groups⟩, ?_, ?_, ?_⟩)
      · rw [ends_char_of_contains here]
        exact List.mem_singleton_self _
      · exact Nat.lt_succ_self _
      · exact ih later (Nat.le_of_succ_le_succ enough)

/-- Eager rounds over the longest run of characters in the set end behind it first. -/
theorem head?_rounds_run {run : List Char} {fuel : Nat}
    (inside : ∀ c ∈ run, set.contains c = true)
    (outside : ∀ c, rest.head? = some c → set.contains c = false) (enough : run.length ≤ fuel) :
    (rounds true (char set).ends fuel ⟨before, run ++ rest, groups⟩).head? =
      some ⟨run.getLast?.or before, rest, groups⟩ := by
  induction run generalizing before fuel with
  | nil =>
    cases fuel with
    | zero => rfl
    | succ fuel => simp [rounds, ends_char_eq_nil outside]
  | cons c run ih =>
    obtain ⟨here, later⟩ := List.forall_mem_cons.mp inside
    cases fuel with
    | zero => exact absurd enough (Nat.not_succ_le_zero _)
    | succ fuel =>
      -- what is preferred is a round for this character and then the longest run behind it
      have tail : (rounds true (char set).ends fuel ⟨some c, run ++ rest, groups⟩).head? =
          some ⟨run.getLast?.or (some c), rest, groups⟩ :=
        ih later (Nat.le_of_succ_le_succ enough)
      rw [List.cons_append, Spot.getLast?_cons_or, rounds, ends_char_of_contains here]
      simp [List.head?_append, tail]

theorem mem_ends_run (eager : Bool) {run : List Char}
    (inside : ∀ c ∈ run, set.contains c = true) :
    ⟨run.getLast?.or before, rest, groups⟩ ∈
      (loop eager (char set)).ends ⟨before, run ++ rest, groups⟩ :=
  mem_rounds_run eager inside (by simp)

theorem prefers_run {run : List Char} (inside : ∀ c ∈ run, set.contains c = true)
    (outside : ∀ c, rest.head? = some c → set.contains c = false) :
    (loop true (char set)).Prefers ⟨before, run ++ rest, groups⟩
      ⟨run.getLast?.or before, rest, groups⟩ :=
  head?_rounds_run inside outside (by simp)

/-- One or more characters of a set are taken as far as they go. -/
theorem prefers_oneOrMore {run : List Char} (some_run : run ≠ [])
    (inside : ∀ c ∈ run, set.contains c = true)
    (outside : ∀ c, rest.head? = some c → set.contains c = false) :
    (oneOrMore true (char set)).Prefers ⟨before, run ++ rest, groups⟩
      ⟨run.getLast?.or before, rest, groups⟩ := by
  cases run with
  | nil => exact absurd rfl some_run
  | cons c run =>
    obtain ⟨here, later⟩ := List.forall_mem_cons.mp inside
    have first : (char set).Prefers ⟨before, c :: (run ++ rest), groups⟩
        ⟨some c, run ++ rest, groups⟩ := by
      rw [Prefers, ends_char_of_contains here]
      rfl
    rw [List.cons_append, Spot.getLast?_cons_or]
    exact first.seq (prefers_run later outside)

/-! ## Searching -/

/-- The leftmost place with a match is where a search ends. -/
theorem firstFrom_of_prefers {cs : List Char} (preferred : p.Prefers ⟨before, cs, []⟩ stop) :
    p.firstFrom before cs = some stop := by
  cases cs with
  | nil => exact preferred
  | cons c rest =>
    unfold Prefers at preferred
    rw [firstFrom]
    split
    · next first others listed =>
      rw [listed] at preferred
      exact preferred
    · next nothing =>
      rw [nothing] at preferred
      cases preferred

/-- Where there is no match, a search goes on. -/
theorem firstFrom_cons_of_ends_eq_nil (nothing : p.ends ⟨before, c :: rest, []⟩ = []) :
    p.firstFrom before (c :: rest) = p.firstFrom (some c) rest := by
  rw [firstFrom, nothing]

/-! ## Taking matches out -/

theorem cut_of_prefers (preferred : p.Prefers spot stop)
    (shorter : stop.rest.length < spot.rest.length) : p.cut? spot = some ⟨stop, shorter⟩ := by
  unfold cut?
  unfold Prefers at preferred
  split
  · next nothing =>
    rw [nothing] at preferred
    cases preferred
  · next first others listed =>
    rw [listed, List.head?_cons, Option.some.injEq] at preferred
    subst preferred
    rw [dif_pos shorter]

theorem cut_of_ends_eq_nil (nothing : p.ends spot = []) : p.cut? spot = none := by
  rw [cut?, nothing]

end Polyglot.Pattern
