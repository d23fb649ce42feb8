import Polyglot.Proofs.Conversion.Printing

/-!
# Brackets across lines

A script is read character by character (`Reading.step`): which brackets are unclosed, and whether
the place is in a comment or in a string literal. `situate` gives each line the reading in front of
it. Lines are prepared one by one, so that nothing keeps a line of an expression that spans lines
from being printed by itself. `Risky` lists the lines where this can happen: those that begin inside
a bracket, those at the outside that do not close what they open and nothing else, and those in a
long literal that open or close brackets. A script is never cut just where all of these stay
(**`never_cuts_iff`**); a call over three lines is cut (`call_over_lines_is_cut`).
-/

namespace Polyglot.PythonScript

/-! ## Reading a script -/

/-- The two quotation marks. -/
inductive Quote where
  | single
  | double
deriving DecidableEq, Repr

def Quote.mark : Quote → Char
  | single => '\x27'
  | double => '\x22'

/-- Where in a script a place is. -/
inductive Place where
  | code
  | comment
  /-- Behind one quotation mark, or behind two: an empty literal, or the beginning of a long one. -/
  | opened (quote : Quote) (twice : Bool)
  | short (quote : Quote)
  /-- Three quotation marks end a long literal; some of them may stand here. -/
  | long (quote : Quote) (marks : Nat)
  /-- Behind a backslash in a literal. -/
  | escape (quote : Quote) (inLong : Bool)
deriving DecidableEq, Repr

def Place.isLiteral : Place → Bool
  | short _ | long _ _ => true
  | _ => false

/-- What is known after reading a part of a script. -/
structure Reading where
  place : Place := .code
  /-- Brackets without partner, the last one first. -/
  unclosed : List Char := []
deriving DecidableEq, Repr

def pairs : List (Char × Char) :=
  [('(', ')'), ('[', ']'), ('{', '}')]

def openers : List Char :=
  pairs.map Prod.fst

def closers : List Char :=
  pairs.map Prod.snd

/-- The brackets without partner behind one more character. A closing bracket goes with the last
one if that is its partner. -/
def nest (unclosed : List Char) (c : Char) : List Char :=
  if c ∈ openers then c :: unclosed
  else if c ∈ closers then
    match unclosed with
    | [] => [c]
    | last :: others => if (last, c) ∈ pairs then others else c :: last :: others
  else unclosed

namespace Reading

def stepCode (reading : Reading) (c : Char) : Reading :=
  if c = '#' then { reading with place := .comment }
  else if c = Quote.single.mark then { reading with place := .opened .single false }
  else if c = Quote.double.mark then { reading with place := .opened .double false }
  else { place := .code, unclosed := nest reading.unclosed c }

/-- A short literal ends with its line, if not before. -/
def placeInShort (quote : Quote) (c : Char) : Place :=
  if c = quote.mark ∨ c = '\n' then .code
  else if c = '\\' then .escape quote false
  else .short quote

def placeInLong (quote : Quote) (marks : Nat) (c : Char) : Place :=
  if c = quote.mark then if marks = 2 then .code else .long quote (marks + 1)
  else if c = '\\' then .escape quote true
  else .long quote 0

def step (reading : Reading) (c : Char) : Reading :=
  match reading.place with
  | .code => reading.stepCode c
  | .comment => if c = '\n' then { reading with place := .code } else reading
  | .opened quote false =>
    { reading with place := if c = quote.mark then .opened quote true else placeInShort quote c }
  | .opened quote true =>
    if c = quote.mark then { reading with place := .long quote 0 } else reading.stepCode c
  | .short quote => { reading with place := placeInShort quote c }
  | .long quote marks => { reading with place := placeInLong quote marks c }
  | .escape quote inLong =>
    { reading with place := if inLong then .long quote 0 else .short quote }

def read (reading : Reading) (text : List Char) : Reading :=
  text.foldl step reading

/-- Is the place inside a bracket? -/
def Inside (reading : Reading) : Prop :=
  ∃ c ∈ reading.unclosed, c ∈ openers

instance : DecidablePred Inside :=
  fun reading => List.decidableBEx (· ∈ openers) reading.unclosed

end Reading

/-- A line that closes every bracket it opens and no other. -/
def Complete (line : List Char) : Prop :=
  (Reading.read {} line).unclosed = []

instance : DecidablePred Complete :=
  fun line => inferInstanceAs (Decidable ((Reading.read {} line).unclosed = []))

/-- A line where it stands. -/
structure Situated where
  front : Reading
  line : List Char
deriving DecidableEq, Repr

namespace Situated

def behind (place : Situated) : Reading :=
  place.front.read place.line

/-- Is there a bracket that the line shares with another line? -/
def Spans (place : Situated) : Prop :=
  place.front.Inside ∨ place.behind.Inside

instance : DecidablePred Spans :=
  fun place => inferInstanceAs (Decidable (place.front.Inside ∨ place.behind.Inside))

end Situated

/-- Lines with the readings in front of them. -/
def situate (front : Reading) : List (List Char) → List Situated
  | [] => []
  | line :: lines => ⟨front, line⟩ :: situate ((front.read line).step '\n') lines

/-- The lines of a script where they stand. -/
def situatedLines (code : String) : List Situated :=
  situate {} (Text.lines (Text.trimmed code.toList))

/-- Only complete lines are printed, and all lines that share brackets stay. -/
structure NeverCuts (code : String) : Prop where
  complete : ∀ place ∈ situatedLines code, prepareLine place.line ≠ place.line → Complete place.line
  spanning : ∀ place ∈ situatedLines code, place.Spans → prepareLine place.line = place.line

/-! ## Readings without an open bracket -/

/-- Closing brackets without partner are never found a partner later. -/
theorem nest_append {others : List Char} (outside : ∀ c ∈ others, c ∉ openers)
    (unclosed : List Char) (c : Char) :
    nest (unclosed ++ others) c = nest unclosed c ++ others := by
  have partner : ∀ pair ∈ pairs, pair.1 ∈ openers := by decide
  unfold nest
  split
  · rfl
  split
  · cases unclosed with
    | cons last unclosed =>
      simp only [List.cons_append]
      split <;> rfl
    | nil =>
      cases others with
      | nil => rfl
      | cons last others =>
        have alone : (last, c) ∉ pairs :=
          fun paired => outside last List.mem_cons_self (partner _ paired)
        simp only [List.nil_append, if_neg alone, List.cons_append]
  · rfl

namespace Reading

/-- The reading with some more brackets before those that it has. -/
def within (reading : Reading) (others : List Char) : Reading :=
  { reading with unclosed := reading.unclosed ++ others }

variable {others : List Char}

theorem stepCode_within (outside : ∀ c ∈ others, c ∉ openers) (reading : Reading) (c : Char) :
    (reading.within others).stepCode c = (reading.stepCode c).within others := by
  unfold stepCode
  split
  · rfl
  split
  · rfl
  split
  · rfl
  · simp only [within, nest_append outside]

theorem step_within (outside : ∀ c ∈ others, c ∉ openers) (reading : Reading) (c : Char) :
    (reading.within others).step c = (reading.step c).within others := by
  obtain ⟨place, unclosed⟩ := reading
  cases place with
  | code => exact stepCode_within outside _ c
  | comment =>
    simp only [step, within]
    split <;> rfl
  | opened quote twice =>
    cases twice with
    | false => rfl
    | true =>
      have code := stepCode_within outside ⟨.opened quote true, unclosed⟩ c
      simp only [step, within] at code ⊢
      split
      · rfl
      · exact code
  | short quote => rfl
  | long quote marks => rfl
  | escape quote inLong => rfl

/-- Closing brackets without partner make no difference to what is read behind them. -/
theorem read_within (outside : ∀ c ∈ others, c ∉ openers) (reading : Reading)
    (text : List Char) : (reading.within others).read text = (reading.read text).within others := by
  induction text generalizing reading with
  | nil => rfl
  | cons c text ih =>
    change ((reading.within others).step c).read text = _
    rw [step_within outside, ih]
    rfl

/-- Outside brackets, literals and comments a line is complete just if reading it changes nothing
about the brackets. -/
theorem complete_iff_of_outside {front : Reading} (code : front.place = .code)
    (outside : ¬ front.Inside) (line : List Char) :
    Complete line ↔ (front.read line).unclosed = front.unclosed := by
  have fresh : front = within {} front.unclosed := by
    obtain ⟨place, unclosed⟩ := front
    obtain rfl : place = .code := code
    rfl
  -- nothing in the line can close what is unclosed in front of it
  have others : ∀ c ∈ front.unclosed, c ∉ openers := fun c mem opener => outside ⟨c, mem, opener⟩
  have unclosed : (front.read line).unclosed = (read {} line).unclosed ++ front.unclosed := by
    conv_lhs => rw [fresh, read_within others]
    rfl
  rw [unclosed, List.append_left_eq_self]
  exact Iff.rfl

/-- A line begins in code or in a literal. -/
theorem place_step_lineFeed (reading : Reading) :
    (reading.step '\n').place = .code ∨ (reading.step '\n').place.isLiteral = true := by
  obtain ⟨place, unclosed⟩ := reading
  cases place with
  | code => exact .inl rfl
  | comment => exact .inl rfl
  | opened quote twice => cases quote <;> cases twice <;> exact .inl rfl
  | short quote => cases quote <;> exact .inl rfl
  | long quote marks => cases quote <;> exact .inr rfl
  | escape quote inLong => cases inLong <;> exact .inr rfl

end Reading

theorem place_of_mem_situate {front : Reading} {lines : List (List Char)} {place : Situated}
    (start : front.place = .code ∨ front.place.isLiteral = true)
    (listed : place ∈ situate front lines) :
    place.front.place = .code ∨ place.front.place.isLiteral = true := by
  induction lines generalizing front with
  | nil => cases listed
  | cons line lines ih =>
    rcases List.mem_cons.mp listed with rfl | later
    · exact start
    · exact ih (Reading.place_step_lineFeed _) later

/-! ## Lines at risk -/

/-- Lines that must not be printed. -/
inductive Risky (place : Situated) : Prop
  | inside (inside : place.front.Inside)
  /-- Reading the line changes which brackets are unclosed. -/
  | uneven (code : place.front.place = .code)
      (changed : place.behind.unclosed ≠ place.front.unclosed)
  /-- What the line is by itself has nothing to do with what it is in the literal. -/
  | literal (literal : place.front.place.isLiteral = true)
      (uneven : place.behind.Inside ∨ ¬ Complete place.line)

/-- A script whose continued lines are indented, and whose lines that open brackets for other lines,
or close them, stay for themselves. -/
structure WellLaid (code : String) : Prop where
  indented : ∀ place ∈ situatedLines code,
    place.front.Inside ∨ place.front.place.isLiteral = true →
      place.line = [] ∨ isIndented place.line = true
  stays : ∀ place ∈ situatedLines code, place.front.place = .code →
    place.behind.unclosed ≠ place.front.unclosed → Stays place.line

theorem never_cuts_of_risky {code : String}
    (kept : ∀ place ∈ situatedLines code, Risky place → Stays place.line) : NeverCuts code := by
  constructor
  · intro place listed printed
    have safe : ¬ Risky place := fun risky =>
      printed (prepareLine_eq_self_iff.mpr (kept place listed risky))
    -- only of a line that begins in code the reading says what it is by itself
    rcases place_of_mem_situate (.inl rfl) listed with code | literal
    · have outside : ¬ place.front.Inside := fun inside => safe (.inside inside)
      rw [Reading.complete_iff_of_outside code outside]
      by_contra changed
      exact safe (.uneven code changed)
    · by_contra uneven
      exact safe (.literal literal (.inr uneven))
  · intro place listed spans
    refine prepareLine_eq_self_iff.mpr (kept place listed ?_)
    rcases spans with inside | behind
    · exact .inside inside
    rcases place_of_mem_situate (.inl rfl) listed with code | literal
    · by_cases inside : place.front.Inside
      · exact .inside inside
      · refine .uneven code fun same => ?_
        obtain ⟨c, mem, opener⟩ := behind
        exact inside ⟨c, same ▸ mem, opener⟩
    · exact .literal literal (.inl behind)

theorem NeverCuts.stays {code : String} (sound : NeverCuts code) {place : Situated}
    (listed : place ∈ situatedLines code) (risky : Risky place) : Stays place.line := by
  have spanning (spans : place.Spans) : Stays place.line :=
    prepareLine_eq_self_iff.mp (sound.spanning place listed spans)
  have incomplete (uneven : ¬ Complete place.line) : Stays place.line := by
    by_contra bare
    exact uneven (sound.complete place listed (mt prepareLine_eq_self_iff.mp bare))
  cases risky with
  | inside inside => exact spanning (.inl inside)
  | uneven code changed =>
    by_cases inside : place.front.Inside
    · exact spanning (.inl inside)
    · exact incomplete (mt (Reading.complete_iff_of_outside code inside _).mp changed)
  | literal literal uneven =>
    rcases uneven with behind | uneven
    · exact spanning (.inr behind)
    · exact incomplete uneven

/-- A script is cut nowhere just if every line at risk is one of those that stay. So it is where
continued lines are indented, and where the lines that open and close brackets for them stay. -/
theorem never_cuts_iff (code : String) :
    (NeverCuts code ↔ ∀ place ∈ situatedLines code, Risky place → Stays place.line) ∧
      (WellLaid code → NeverCuts code) := by
  refine ⟨⟨fun sound place => sound.stays, never_cuts_of_risky⟩, fun laid => ?_⟩
  refine never_cuts_of_risky fun place listed risky => ?_
  have continued (inner : place.front.Inside ∨ place.front.place.isLiteral = true) :
      Stays place.line := by
    rcases laid.indented place listed inner with nothing | indented
    · exact .blank (by simp [nothing])
    · cases line : place.line with
      | nil => exact .blank (by simp)
      | cons c rest =>
        rw [line] at indented
        exact .indented rest indented
  cases risky with
  | inside inside => exact continued (.inl inside)
  | uneven code changed => exact laid.stays place listed code changed
  | literal literal uneven => exact continued (.inr literal)

/-- An assignment over three lines with a bracket in a comment, a literal over two, and a call with
brackets in literals. -/
theorem never_cuts_indented :
    let code := "total = add(\n    1,  # :)\n    [2])\nname = \"\"\"(\n  )\"\"\"\nadd(\"(\", \")\")"
    NeverCuts code ∧ ∃ place ∈ situatedLines code, place.Spans := by
  intro code
  have laid : WellLaid code := by
    constructor
    · decide
    · decide
  exact ⟨(never_cuts_iff code).2 laid, by decide⟩

/-- The first line and the last one of the call are printed by themselves. -/
theorem call_over_lines_is_cut :
    let code := "foo(\n    1,\n)"
    ¬ NeverCuts code ∧ preparePython code = "print(foo()\n    1,\nprint())\n" := by
  intro code
  refine ⟨fun sound => ?_, by decide⟩
  have first : ⟨{}, "foo(".toList⟩ ∈ situatedLines code := by decide
  have kept := sound.spanning _ first (by decide)
  revert kept
  decide

end Polyglot.PythonScript
