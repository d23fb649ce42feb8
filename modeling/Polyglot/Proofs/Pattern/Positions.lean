import Mathlib.Data.Finset.Card
import Mathlib.Data.Nat.Bitwise
import Polyglot.Pattern.Engine
import Polyglot.Proofs.Pattern.Spans

/-!
# Sets of positions find what patterns span

A set of positions is followed through a pattern all at once. `follows_reach` says of every pattern
that it arrives just where single matches end, so that **`matchesIn_iff`**: a pattern is found in a
text if it spans some part of it. The steps of a plan are those of a derivation of `Spans`, but for
loops: a derivation may go round as often as it likes, and a closure stops after as many rounds as
the text has characters. That is enough, since every round but the last finds a new position
(`step_closure`).

An indexed text tells as much as the text itself (`ofString_injective`), so that asking it loses
nothing: whatever an engine can tell of texts is a `Matcher` (`exists_matcher`).
-/

namespace Polyglot

namespace Positions

variable {s t : Positions} {i j size : Nat}

/-- No position is behind the end of the text. -/
def Within (size : Nat) (s : Positions) : Prop :=
  ∀ i, s.testBit i = true → i ≤ size

theorem Within.union (first : Within size s) (second : Within size t) : Within size (s ||| t) := by
  intro i member
  rw [Nat.testBit_or, Bool.or_eq_true] at member
  exact member.elim (first i) (second i)

theorem testBit_upTo : (upTo size).testBit i = true ↔ i ≤ size := by
  show (2 ^ (size + 1) - 1).testBit i = true ↔ _
  rw [Nat.testBit_two_pow_sub_one, decide_eq_true_eq, Nat.lt_succ_iff]

theorem testBit_one : (1 : Positions).testBit i = true ↔ i = 0 := by
  cases i with
  | zero => simp
  | succ i => simp [Nat.testBit_succ]

theorem testBit_next : s.next.testBit j = true ↔ ∃ i, j = i + 1 ∧ s.testBit i = true := by
  rw [next, Nat.testBit_shiftLeft, Bool.and_eq_true, decide_eq_true_eq]
  constructor
  · rintro ⟨positive, member⟩
    exact ⟨j - 1, by omega, member⟩
  · rintro ⟨i, rfl, member⟩
    exact ⟨by omega, member⟩

theorem ne_zero_iff : (s != 0) = true ↔ ∃ i, s.testBit i = true := by
  rw [bne_iff_ne]
  constructor
  · exact Nat.exists_testBit_of_ne_zero
  · rintro ⟨i, member⟩ rfl
    simp at member

theorem testBit_ofChar {c : Char} {cs : List Char} :
    (ofChar c cs).testBit i = true ↔ cs[i]? = some c := by
  induction cs generalizing i with
  | nil => simp [ofChar]
  | cons d cs ih =>
    cases i with
    | zero => by_cases same : d = c <;> simp [ofChar, same, Nat.testBit_zero, Nat.add_mod]
    | succ i =>
      have half (n : Nat) : ((if d = c then 1 else 0) + 2 * n) / 2 = n := by
        split <;> omega
      rw [ofChar, Nat.testBit_succ, half, ih, List.getElem?_cons_succ]

/-! ## Rounds -/

variable {step : Positions → Positions}

/-- A step that finds nothing new never will. -/
theorem closure_of_fixed (fixed : s ||| step s = s) (rounds : Nat) : closure step rounds s = s := by
  cases rounds with
  | zero => rfl
  | succ rounds => rw [closure, if_pos fixed]

/-- A round is always carried out, as far as the result can tell. -/
theorem closure_succ (rounds : Nat) :
    closure step (rounds + 1) s = closure step rounds (s ||| step s) := by
  rw [closure]
  split
  · next fixed => rw [fixed, closure_of_fixed fixed]
  · rfl

theorem iterate_of_fixed (fixed : step s = s) (rounds : Nat) : iterate step rounds s = s := by
  cases rounds with
  | zero => rfl
  | succ rounds => rw [iterate, if_pos fixed]

theorem iterate_succ (rounds : Nat) :
    iterate step (rounds + 1) s = iterate step rounds (step s) := by
  rw [iterate]
  split
  · next fixed => rw [fixed, iterate_of_fixed fixed]
  · rfl

theorem subset_closure {rounds : Nat} (member : s.testBit i = true) :
    (closure step rounds s).testBit i = true := by
  induction rounds generalizing s with
  | zero => exact member
  | succ rounds ih =>
    rw [closure_succ]
    exact ih (by rw [Nat.testBit_or, member, Bool.true_or])

/-- The places of a text that are not in a set. -/
def missing (size : Nat) (s : Positions) : Finset Nat :=
  (Finset.range (size + 1)).filter fun i => s.testBit i = false

/-- With a round for every position that is not there yet, a closure is closed. -/
theorem step_closure {rounds : Nat} (stays : ∀ s, Within size s → Within size (step s))
    (within : Within size s) (enough : (missing size s).card ≤ rounds)
    (member : (step (closure step rounds s)).testBit i = true) :
    (closure step rounds s).testBit i = true := by
  induction rounds generalizing s with
  | zero =>
    have none : i ∉ missing size s := by
      rw [Finset.card_eq_zero.mp (Nat.le_zero.mp enough)]
      exact Finset.notMem_empty i
    have bound : i ≤ size := stays s within i member
    simp only [missing, Finset.mem_filter, Finset.mem_range, Nat.lt_succ_iff, not_and,
      Bool.not_eq_false] at none
    exact none bound
  | succ rounds ih =>
    rw [closure_succ] at member ⊢
    have wider : Within size (s ||| step s) := within.union (stays s within)
    by_cases fixed : s ||| step s = s
    · -- nothing new is found, so the step stays in the set
      rw [fixed, closure_of_fixed fixed] at member ⊢
      rw [← fixed, Nat.testBit_or, member, Bool.or_true]
    · refine ih wider ?_ member
      obtain ⟨k, differs⟩ : ∃ k, (s ||| step s).testBit k ≠ s.testBit k := by
        by_contra none
        exact fixed (Nat.eq_of_testBit_eq fun k => not_not.mp fun other => none ⟨k, other⟩)
      have added : (s ||| step s).testBit k = true ∧ s.testBit k = false := by
        rw [Nat.testBit_or] at differs ⊢
        cases there : s.testBit k <;> simp_all
      have fewer : missing size (s ||| step s) ⊂ missing size s := by
        rw [Finset.ssubset_iff_of_subset]
        · refine ⟨k, ?_, ?_⟩
          · simp only [missing, Finset.mem_filter, Finset.mem_range, Nat.lt_succ_iff]
            exact ⟨wider k added.1, added.2⟩
          · simp only [missing, Finset.mem_filter, added.1, Bool.true_eq_false, and_false,
              not_false_eq_true]
        · intro k
          simp only [missing, Finset.mem_filter, Nat.testBit_or, Bool.or_eq_false_iff]
          exact fun ⟨listed, absent, _⟩ => ⟨listed, absent⟩
      have := Finset.card_lt_card fewer
      omega

/-- If there is some position to begin with, there are no more others than characters. -/
theorem card_missing_le (within : i ≤ size) (member : s.testBit i = true) :
    (missing size s).card ≤ size := by
  have fewer : missing size s ⊂ Finset.range (size + 1) := by
    refine (Finset.ssubset_iff_of_subset (Finset.filter_subset _ _)).mpr ⟨i, ?_, ?_⟩
    · rwa [Finset.mem_range, Nat.lt_succ_iff]
    · simp [member]
  have := Finset.card_lt_card fewer
  rw [Finset.card_range] at this
  omega

end Positions

open Positions

/-! ## Indexed texts -/

namespace IndexedText

variable {cs : List Char} {i : Nat}

theorem testBit_foldl {set : CharSet} {places : List (Char × Positions)} {s : Positions} :
    (places.foldl (fun s (c, places) => if set.contains c then s ||| places else s) s).testBit i =
        true ↔
      s.testBit i = true ∨
        ∃ entry ∈ places, set.contains entry.1 = true ∧ entry.2.testBit i = true := by
  induction places generalizing s with
  | nil => simp
  | cons entry places ih =>
    rw [List.foldl_cons, ih]
    simp only [List.exists_mem_cons_iff]
    by_cases member : set.contains entry.1 = true
    · simp [member, or_assoc]
    · simp [member]

/-- The positions of a set are those with one of its characters. -/
theorem testBit_positionsOf {set : CharSet} :
    ((ofList cs).positionsOf set).testBit i = true ↔
      ∃ c, cs[i]? = some c ∧ set.contains c = true := by
  rw [positionsOf, testBit_foldl, Nat.zero_testBit]
  simp only [Bool.false_eq_true, false_or, ofList, List.mem_map, List.mem_eraseDups]
  constructor
  · rintro ⟨-, ⟨c, -, rfl⟩, member, there⟩
    exact ⟨c, testBit_ofChar.mp there, member⟩
  · rintro ⟨c, there, member⟩
    exact ⟨_, ⟨c, List.mem_of_getElem? there, rfl⟩, member, testBit_ofChar.mpr there⟩

theorem testBit_positionsOf_single {c : Char} :
    ((ofList cs).positionsOf (.single c)).testBit i = true ↔ cs[i]? = some c := by
  rw [testBit_positionsOf]
  simp

/-- The positions of its characters make up a text. -/
theorem ofString_injective : Function.Injective ofString := by
  intro s t same
  refine String.toList_injective (List.ext_getElem? fun i => Option.ext fun c => ?_)
  rw [← testBit_positionsOf_single, ← testBit_positionsOf_single]
  exact (congrArg (fun text => (text.positionsOf (.single c)).testBit i = true) same).to_iff

/-- So a matcher may be any test of texts. -/
theorem exists_matcher (f : String → Bool) : ∃ matcher : Matcher, ∀ s, matcher (ofString s) = f s :=
  ⟨Function.extend ofString f fun _ => false, ofString_injective.extend_apply f _⟩

theorem testBit_words : ((ofList cs).positionsOf .word).testBit i = Anchor.wordAt cs[i]? := by
  rw [Bool.eq_iff_iff, testBit_positionsOf]
  cases cs[i]? with
  | none => simp [Anchor.wordAt]
  | some c => simp [Anchor.wordAt, CharSet.contains]

theorem testBit_next_words :
    ((ofList cs).positionsOf .word).next.testBit i = Anchor.wordAt (charBefore cs i) := by
  cases i with
  | zero => simp [Positions.next, charBefore, Anchor.wordAt]
  | succ i =>
    rw [charBefore, ← testBit_words, Positions.next, Nat.testBit_shiftLeft]
    simp

/-- At every place of the text an anchor holds if the characters on its two sides satisfy it. -/
theorem testBit_anchored {a : Anchor} (within : i ≤ cs.length) :
    ((ofList cs).anchored a).testBit i = true ↔ a.holds (charBefore cs i) cs[i]? = true := by
  -- the last place has no character behind it, and the first has none in front
  have ended : i = cs.length ↔ cs[i]? = none := by
    rw [List.getElem?_eq_none_iff]
    omega
  have atEnd : (1 <<< cs.length : Nat).testBit i = true ↔ cs[i]? = none := by
    rw [← ended, Nat.shiftLeft_eq, Nat.one_mul, Nat.testBit_two_pow, decide_eq_true_eq, eq_comm]
  have begun : i = 0 ↔ charBefore cs i = none := by
    cases i with
    | zero => simp [charBefore]
    | succ i =>
      rw [charBefore, List.getElem?_eq_none_iff]
      omega
  cases a with
  | textStart => rw [anchored, testBit_one, begun, Anchor.holds, Option.isNone_iff_eq_none]
  | textEnd => rw [anchored, ofList, atEnd, Anchor.holds, Option.isNone_iff_eq_none]
  | lineStart =>
    have behind : ((ofList cs).positionsOf (.single '\n')).next.testBit i = true ↔
        charBefore cs i = some '\n' := by
      rw [testBit_next]
      cases i with
      | zero => simp [charBefore]
      | succ i => simp [testBit_positionsOf_single, charBefore]
    rw [anchored, Nat.testBit_or, Bool.or_eq_true, testBit_one, begun, behind, Anchor.holds,
      Bool.or_eq_true, Option.isNone_iff_eq_none, beq_iff_eq]
  | lineEnd =>
    rw [anchored, Nat.testBit_or, Bool.or_eq_true, testBit_positionsOf_single, Anchor.holds,
      Bool.or_eq_true, Option.isNone_iff_eq_none, beq_iff_eq, or_comm, ← atEnd]
    rfl
  | wordEdge =>
    rw [anchored, Nat.testBit_xor, testBit_words, testBit_next_words, Anchor.holds, Bool.xor_comm]
  | noWordEdge =>
    have whole : (upTo cs.length).testBit i = true := testBit_upTo.mpr within
    rw [anchored, Nat.testBit_xor, Nat.testBit_xor, testBit_words, testBit_next_words,
      Anchor.holds, show (ofList cs).size = cs.length from rfl, whole]
    cases Anchor.wordAt cs[i]? <;> cases Anchor.wordAt (charBefore cs i) <;> rfl

end IndexedText

/-! ## Plans -/

namespace Pattern

variable {p q : Pattern} {cs : List Char} {s : Positions} {j : Nat}

/-- A step arrives where single matches end, whatever positions it sets out from. -/
def Follows (cs : List Char) (p : Pattern) (step : Positions → Positions) : Prop :=
  ∀ s, Within cs.length s → ∀ j,
    (step s).testBit j = true ↔ ∃ i, s.testBit i = true ∧ p.Spans cs i j

variable {step step' : Positions → Positions}

theorem Follows.within (follows : Follows cs p step) (within : Within cs.length s) :
    Within cs.length (step s) := by
  intro j arrived
  obtain ⟨i, member, spans⟩ := (follows s within j).mp arrived
  exact spans.le_length (within i member)

/-- From nowhere a step leads nowhere. -/
theorem Follows.zero (follows : Follows cs p step) : step 0 = 0 := by
  refine Nat.eq_of_testBit_eq fun j => ?_
  rw [Nat.zero_testBit, ← Bool.not_eq_true, follows 0 (by simp [Within])]
  simp

/-- For what spans nothing but the empty part no step is taken. -/
theorem follows_id (still : ∀ i j, p.Spans cs i j ↔ i = j) : Follows cs p id := by
  intro s _ j
  simp only [still, exists_eq_right, id]

theorem follows_char (set : CharSet) :
    Follows cs (char set) fun s => (s &&& (IndexedText.ofList cs).positionsOf set).next := by
  intro s _ j
  simp only [testBit_next, Nat.testBit_and, Bool.and_eq_true, IndexedText.testBit_positionsOf]
  constructor
  · rintro ⟨i, rfl, member, c, there, contained⟩
    exact ⟨i, member, .char there contained⟩
  · rintro ⟨i, member, spans⟩
    cases spans with
    | char there contained => exact ⟨i, rfl, member, _, there, contained⟩

theorem follows_anchor (a : Anchor) :
    Follows cs (anchor a) fun s => s &&& (IndexedText.ofList cs).anchored a := by
  intro s within j
  simp only [Nat.testBit_and, Bool.and_eq_true]
  constructor
  · rintro ⟨member, holds⟩
    exact ⟨j, member, .anchor ((IndexedText.testBit_anchored (within j member)).mp holds)⟩
  · rintro ⟨i, member, spans⟩
    cases spans with
    | anchor holds => exact ⟨member, (IndexedText.testBit_anchored (within _ member)).mpr holds⟩

theorem Follows.seq (first : Follows cs p step) (second : Follows cs q step') :
    Follows cs (seq p q) fun s => step' (step s) := by
  intro s within j
  simp only [second _ (first.within within)]
  constructor
  · rintro ⟨k, arrived, behind⟩
    obtain ⟨i, member, front⟩ := (first s within k).mp arrived
    exact ⟨i, member, .seq front behind⟩
  · rintro ⟨i, member, spans⟩
    cases spans with
    | seq front behind => exact ⟨_, (first s within _).mpr ⟨i, member, front⟩, behind⟩

theorem Follows.alt (left : Follows cs p step) (right : Follows cs q step') :
    Follows cs (alt p q) fun s => step s ||| step' s := by
  intro s within j
  simp only [Nat.testBit_or, Bool.or_eq_true, left s within, right s within]
  constructor
  · rintro (⟨i, member, first⟩ | ⟨i, member, second⟩)
    · exact ⟨i, member, .left first⟩
    · exact ⟨i, member, .right second⟩
  · rintro ⟨i, member, spans⟩
    cases spans with
    | left first => exact .inl ⟨i, member, first⟩
    | right second => exact .inr ⟨i, member, second⟩

theorem Follows.group (follows : Follows cs p step) (index : Nat) :
    Follows cs (group index p) step := by
  intro s within j
  rw [follows s within]
  constructor
  · rintro ⟨i, member, inside⟩
    exact ⟨i, member, .group inside⟩
  · rintro ⟨i, member, spans⟩
    cases spans with
    | group inside => exact ⟨i, member, inside⟩

theorem Follows.times (follows : Follows cs p step) (count : Nat) :
    Follows cs (times count p) (iterate step count) := by
  induction count with
  | zero => exact follows_id fun i j => ⟨fun | .noTimes => rfl, fun | rfl => .noTimes⟩
  | succ count ih =>
    intro s within j
    rw [iterate_succ, ih _ (follows.within within)]
    constructor
    · rintro ⟨k, arrived, more⟩
      obtain ⟨i, member, once⟩ := (follows s within k).mp arrived
      exact ⟨i, member, .oneTime once more⟩
    · rintro ⟨i, member, spans⟩
      cases spans with
      | oneTime once more => exact ⟨_, (follows s within _).mpr ⟨i, member, once⟩, more⟩

theorem Follows.upTo (follows : Follows cs p step) (eager : Bool) (count : Nat) :
    Follows cs (upTo eager count p) (closure step count) := by
  induction count with
  | zero => exact follows_id fun i j => ⟨fun | .enough => rfl, fun | rfl => .enough⟩
  | succ count ih =>
    intro s within j
    rw [closure_succ, ih _ (within.union (follows.within within))]
    simp only [Nat.testBit_or, Bool.or_eq_true]
    constructor
    · rintro ⟨k, member | arrived, more⟩
      · exact ⟨k, member, more.upTo_succ⟩
      · obtain ⟨i, member, once⟩ := (follows s within k).mp arrived
        exact ⟨i, member, .oneMore once more⟩
    · rintro ⟨i, member, spans⟩
      cases spans with
      | enough => exact ⟨j, .inl member, .enough⟩
      | oneMore once more => exact ⟨_, .inr ((follows s within _).mpr ⟨i, member, once⟩), more⟩

/-- Whatever a closure finds, some number of rounds spans. -/
theorem Follows.spans_loop (follows : Follows cs p step) (eager : Bool) {rounds : Nat}
    (within : Within cs.length s) (arrived : (closure step rounds s).testBit j = true) :
    ∃ i, s.testBit i = true ∧ (Pattern.loop eager p).Spans cs i j := by
  induction rounds generalizing s with
  | zero => exact ⟨j, arrived, .stop⟩
  | succ rounds ih =>
    rw [closure_succ] at arrived
    obtain ⟨k, member, more⟩ := ih (within.union (follows.within within)) arrived
    rw [Nat.testBit_or, Bool.or_eq_true] at member
    rcases member with member | arrived
    · exact ⟨k, member, more⟩
    · obtain ⟨i, member, once⟩ := (follows s within k).mp arrived
      exact ⟨i, member, .round once more⟩

/-- A closed set is not left by any number of rounds. -/
theorem Spans.mem_of_closed {eager : Bool} {i : Nat} (spans : (loop eager p).Spans cs i j)
    (closed : ∀ i k, s.testBit i = true → p.Spans cs i k → s.testBit k = true)
    (member : s.testBit i = true) : s.testBit j = true := by
  generalize whole : loop eager p = q at spans
  induction spans with
  | stop => exact member
  | round once _ _ ih =>
    cases whole
    exact ih (closed _ _ member once) rfl
  | _ => cases whole

theorem Follows.loop (follows : Follows cs p step) (eager : Bool) :
    Follows cs (loop eager p) (closure step cs.length) := by
  intro s within j
  refine ⟨follows.spans_loop eager within, ?_⟩
  rintro ⟨i, member, spans⟩
  have bounded : Within cs.length (closure step cs.length s) := by
    intro k arrived
    obtain ⟨i, member, more⟩ := follows.spans_loop eager within arrived
    exact more.le_length (within i member)
  refine spans.mem_of_closed (fun i' k member' once => ?_) (subset_closure member)
  have enough := card_missing_le (within i member) member
  exact step_closure (fun _ => follows.within) within enough
    ((follows _ bounded k).mpr ⟨i', member', once⟩)

/-- The plan of a pattern goes by the pattern. -/
theorem follows_reach (p : Pattern) (cs : List Char) :
    Follows cs p ((p.plan (.ofList cs)).reach cs.length) := by
  induction p with
  | empty => exact follows_id fun i j => ⟨fun | .empty => rfl, fun | rfl => .empty⟩
  | char set => exact follows_char set
  | anchor a => exact follows_anchor a
  | seq p q ihp ihq =>
    have both : ((seq p q).plan (.ofList cs)).reach cs.length = fun s =>
        (q.plan (.ofList cs)).reach cs.length ((p.plan (.ofList cs)).reach cs.length s) := by
      funext s
      rw [plan, Plan.reach]
      split
      · next nothing => rw [nothing, ihq.zero]
      · rfl
    rw [both]
    exact ihp.seq ihq
  | alt p q ihp ihq => exact ihp.alt ihq
  | loop eager p ih => exact ih.loop eager
  | times count p ih => exact ih.times count
  | upTo eager count p ih => exact ih.upTo eager count
  | group index p ih => exact ih.group index

/-- A pattern is found in a text just if it spans a part of it. -/
theorem matchesIn_iff :
    p.matchesIn (.ofList cs) = true ↔ ∃ i j, i ≤ cs.length ∧ p.Spans cs i j := by
  have everywhere : Within cs.length (Positions.upTo cs.length) := fun i => testBit_upTo.mp
  rw [matchesIn, show (IndexedText.ofList cs).size = cs.length from rfl, ne_zero_iff]
  simp only [follows_reach p cs _ everywhere, testBit_upTo]
  exact exists_comm

/-- What a pattern is found in, it is found in again wherever its tests are passed again. -/
theorem matchesIn_of_carries {ds : List Char} {shift : Nat}
    (carries : Carries p.sets p.anchors cs ds shift) (longer : cs.length + shift ≤ ds.length)
    (found : p.matchesIn (.ofList cs) = true) : p.matchesIn (.ofList ds) = true := by
  obtain ⟨i, j, within, spans⟩ := matchesIn_iff.mp found
  exact matchesIn_iff.mpr ⟨shift + i, shift + j, by omega, spans.carry within carries⟩

end Pattern

end Polyglot
