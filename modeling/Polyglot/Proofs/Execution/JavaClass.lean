import Polyglot.Proofs.Execution.FirstFailure
import Polyglot.Proofs.Pattern.Preference

/-!
# The files of Java code

Java code has to be saved under the name of its public class, and that name comes out of the code.
It is found by a search for a pattern, and here by a scanner that goes from place to place and reads
the declaration there without going back (`JavaClass.scan?`). A place where something is declared
(`JavaClass.Declares`) is one where the pattern matches, and the match that is preferred has the
whole name for its group (`JavaClass.exists_prefers`), so the search and the scanner agree
(`JavaClass.search_eq_scan?`) and find the declaration that comes first.

Names are made of word characters, and none of these takes a path out of its directory. So the files
of Java code are entries of the scratch directory, and a workshop that has no other files does as
well (`Toolchain.run_confined`). All this is **`Toolchain.first_declaration_names_files`**.
-/

namespace Polyglot

/-! ## Declarations -/

namespace JavaClass

/-- One or more characters, all of which pass the test. -/
def OneOrMore (test : Char → Bool) (run : List Char) : Prop :=
  run ≠ [] ∧ ∀ c ∈ run, test c = true

/-- The text begins with `public`, blanks, `class`, blanks and the name, and no further word
character belongs to the name. -/
def Declares (cs name : List Char) : Prop :=
  ∃ gap gap' rest,
    cs = "public".toList ++ (gap ++ ("class".toList ++ (gap' ++ (name ++ rest)))) ∧
    OneOrMore Text.isBlank gap ∧ OneOrMore Text.isBlank gap' ∧ OneOrMore Text.isWord name ∧
    ∀ c, rest.head? = some c → Text.isWord c = false

/-- The text behind one or more blanks. -/
def behindBlanks? (cs : List Char) : Option (List Char) :=
  if (cs.takeWhile Text.isBlank).isEmpty then none else some (cs.dropWhile Text.isBlank)

/-- The name that is declared where the text begins. -/
def nameAt? (cs : List Char) : Option (List Char) := do
  let behindPublic ← cs.dropPrefix? "public".toList
  let behindGap ← behindBlanks? behindPublic
  let behindClass ← behindGap.dropPrefix? "class".toList
  let behindGap ← behindBlanks? behindClass
  let name := behindGap.takeWhile Text.isWord
  if name.isEmpty then none else some name

/-- The name that is declared first. -/
def scan? : List Char → Option (List Char)
  | [] => none
  | c :: cs => (nameAt? (c :: cs)).or (scan? cs)

variable {cs name other rest : List Char} {test : Char → Bool} {before : Option Char}

/-! ### Runs of characters -/

/-- The longest run at the beginning of a text, if there is one. -/
theorem oneOrMore_takeWhile (some_run : ¬ (cs.takeWhile test).isEmpty = true) :
    OneOrMore test (cs.takeWhile test) := by
  refine ⟨fun none => some_run (List.isEmpty_iff.mpr none), ?_⟩
  intro c listed
  exact List.mem_takeWhile_imp listed

/-! ### What stands behind what -/

theorem not_isWord_of_isBlank {c : Char} (blank : Text.isBlank c = true) :
    Text.isWord c = false := by
  refine Text.of_isBlank (P := fun c => Text.isWord c = false) ?_ blank
  decide +kernel

theorem not_isBlank_class (rest : List Char) :
    ∀ c, ("class".toList ++ rest).head? = some c → Text.isBlank c = false := by
  intro c next
  obtain rfl : 'c' = c := Option.some.inj next
  decide

/-- A word does not begin with a blank. -/
theorem not_isBlank_word (word : OneOrMore Text.isWord name) (rest : List Char) :
    ∀ c, (name ++ rest).head? = some c → Text.isBlank c = false := by
  intro c next
  obtain ⟨some_char, inside⟩ := word
  cases name with
  | nil => exact absurd rfl some_char
  | cons d name =>
    obtain rfl : d = c := Option.some.inj next
    have here : Text.isWord d = true := inside d List.mem_cons_self
    by_contra blank
    rw [Bool.not_eq_false] at blank
    rw [not_isWord_of_isBlank blank] at here
    cases here

/-! ### The scanner -/

theorem dropPrefix?_eq_some_iff {literal : List Char} :
    cs.dropPrefix? literal = some rest ↔ cs = literal ++ rest := by
  rw [List.dropPrefix?_eq_some_iff]
  simp

theorem behindBlanks?_run {gap : List Char} (blank : OneOrMore Text.isBlank gap)
    (ink : ∀ c, rest.head? = some c → Text.isBlank c = false) :
    behindBlanks? (gap ++ rest) = some rest := by
  rw [behindBlanks?, Text.takeWhile_run blank.2 ink, Text.dropWhile_run blank.2 ink]
  simp [blank.1]

theorem exists_gap (found : behindBlanks? cs = some rest) :
    ∃ gap, OneOrMore Text.isBlank gap ∧ cs = gap ++ rest := by
  unfold behindBlanks? at found
  split at found
  · cases found
  · next some_blank =>
    cases found
    exact ⟨_, oneOrMore_takeWhile some_blank, List.takeWhile_append_dropWhile.symm⟩

theorem nameAt?_eq_some_iff : nameAt? cs = some name ↔ Declares cs name := by
  constructor
  · intro found
    -- each part that was read stands at the beginning of what the part before it left
    simp only [nameAt?, Option.bind_eq_bind, Option.bind_eq_some_iff] at found
    obtain ⟨behindPublic, first, behindGap, second, behindClass, third, left, fourth, named⟩ :=
      found
    obtain rfl := dropPrefix?_eq_some_iff.mp first
    obtain ⟨gap, blank, rfl⟩ := exists_gap second
    obtain rfl := dropPrefix?_eq_some_iff.mp third
    obtain ⟨gap', blank', rfl⟩ := exists_gap fourth
    split at named
    · cases named
    · next some_word =>
      cases named
      refine ⟨gap, gap', left.dropWhile Text.isWord, ?_, blank, blank',
        oneOrMore_takeWhile some_word, fun c => Text.head?_dropWhile⟩
      rw [List.takeWhile_append_dropWhile]
  · rintro ⟨gap, gap', rest, rfl, blank, blank', word, ends⟩
    simp only [nameAt?, Option.bind_eq_bind]
    rw [dropPrefix?_eq_some_iff.mpr rfl, Option.bind_some,
      behindBlanks?_run blank (not_isBlank_class _), Option.bind_some,
      dropPrefix?_eq_some_iff.mpr rfl, Option.bind_some,
      behindBlanks?_run blank' (not_isBlank_word word rest), Option.bind_some,
      Text.takeWhile_run word.2 ends]
    simp [word.1]

/-- One name is declared at a place. -/
theorem Declares.unique (declares : Declares cs name) (again : Declares cs other) :
    name = other := by
  rw [← nameAt?_eq_some_iff] at declares again
  exact Option.some.inj (declares.symm.trans again)

theorem not_declares_nil : ¬ Declares [] name := by
  rintro ⟨gap, gap', rest, text, -⟩
  cases text

/-- The scanner finds nothing if nothing is declared anywhere. -/
theorem scan?_eq_none_iff :
    scan? cs = none ↔ ∀ place name, ¬ Declares (cs.drop place) name := by
  induction cs with
  | nil => simp [scan?, not_declares_nil]
  | cons c cs ih =>
    rw [scan?, Option.or_eq_none_iff, ih]
    constructor
    · rintro ⟨here, later⟩ place name declares
      cases place with
      | zero =>
        rw [List.drop_zero, ← nameAt?_eq_some_iff, here] at declares
        cases declares
      | succ place => exact later place name declares
    · intro nowhere
      refine ⟨?_, fun place => nowhere (place + 1)⟩
      by_contra found
      obtain ⟨name, found⟩ := Option.ne_none_iff_exists'.mp found
      exact nowhere 0 name (nameAt?_eq_some_iff.mp found)

/-- The scanner finds what is declared at the first place where anything is. -/
theorem scan?_eq_some_iff :
    scan? cs = some name ↔
      ∃ place, Declares (cs.drop place) name ∧
        ∀ earlier < place, ∀ other, ¬ Declares (cs.drop earlier) other := by
  induction cs with
  | nil => simp [scan?, not_declares_nil]
  | cons c cs ih =>
    rw [scan?]
    -- what is declared here comes first, and else the places are those of the rest, one further on
    cases here : nameAt? (c :: cs) with
    | some found =>
      rw [Option.some_or, Option.some.injEq]
      have declared : Declares (c :: cs) found := nameAt?_eq_some_iff.mp here
      constructor
      · rintro rfl
        exact ⟨0, declared, fun earlier before => absurd before (Nat.not_lt_zero _)⟩
      · rintro ⟨place, declares, first⟩
        cases place with
        | zero => exact declared.unique declares
        | succ place => exact absurd declared (first 0 (Nat.succ_pos _) found)
    | none =>
      rw [Option.none_or, ih]
      have nothing : ∀ other, ¬ Declares (c :: cs) other := by
        intro other declares
        rw [← nameAt?_eq_some_iff, here] at declares
        cases declares
      constructor
      · rintro ⟨place, declares, first⟩
        refine ⟨place + 1, declares, fun earlier before other => ?_⟩
        cases earlier with
        | zero => exact nothing other
        | succ earlier => exact first earlier (Nat.lt_of_succ_lt_succ before) other
      · rintro ⟨place, declares, first⟩
        cases place with
        | zero => exact absurd declares (nothing name)
        | succ place =>
          exact ⟨place, declares, fun earlier before =>
            first (earlier + 1) (Nat.succ_lt_succ before)⟩

/-! ### The search -/

/-- Where a name is declared, the pattern matches, and what is preferred is the whole name. -/
theorem exists_prefers (declares : Declares cs name) (before : Option Char) :
    ∃ stop, declaration.Prefers ⟨before, cs, []⟩ stop ∧ stop.group? 1 = some name := by
  obtain ⟨gap, gap', rest, rfl, blank, blank', word, ends⟩ := declares
  have blanks {before : Option Char} {gap rest : List Char} (blank : OneOrMore Text.isBlank gap)
      (ink : ∀ c, rest.head? = some c → Text.isBlank c = false) :
      (Pattern.oneOrMore true (.char .blank)).Prefers ⟨before, gap ++ rest, []⟩
        ⟨gap.getLast?.or before, rest, []⟩ :=
    Pattern.prefers_oneOrMore blank.1 blank.2 ink
  have named {before : Option Char} : (Pattern.oneOrMore true (.char .word)).Prefers
      ⟨before, name ++ rest, []⟩ ⟨name.getLast?.or before, rest, []⟩ :=
    Pattern.prefers_oneOrMore word.1 word.2 ends
  refine ⟨_, (Pattern.prefers_literal _).seq ((blanks blank (not_isBlank_class _)).seq
    ((Pattern.prefers_literal _).seq ((blanks blank' (not_isBlank_word word rest)).seq
      (named.group 1)))), ?_⟩
  -- the group has the text between the ends of its match
  show some (List.take ((name ++ rest).length - rest.length) (name ++ rest)) = some name
  simp

/-- Where the pattern matches, a name is declared; the match may have taken a part of it only. -/
theorem exists_declares {stop : Spot} {groups : List (Nat × List Char)}
    (found : stop ∈ declaration.ends ⟨before, cs, groups⟩) : ∃ name, Declares cs name := by
  obtain ⟨behindPublic, first, found⟩ := List.mem_flatMap.mp found
  obtain ⟨behindGap, second, found⟩ := List.mem_flatMap.mp found
  obtain ⟨behindClass, third, found⟩ := List.mem_flatMap.mp found
  obtain ⟨behindGap', fourth, found⟩ := List.mem_flatMap.mp found
  obtain ⟨inner, fifth, -⟩ := List.mem_map.mp found
  have text := Pattern.rest_of_mem_ends_literal first
  obtain ⟨gap, some_blank, blank, text'⟩ := Pattern.run_of_mem_ends_oneOrMore second
  have text'' := Pattern.rest_of_mem_ends_literal third
  obtain ⟨gap', some_blank', blank', text'''⟩ := Pattern.run_of_mem_ends_oneOrMore fourth
  obtain ⟨part, some_word, word, taken⟩ := Pattern.run_of_mem_ends_oneOrMore fifth
  -- the name goes on as far as there are word characters
  refine ⟨part ++ inner.rest.takeWhile Text.isWord, gap, gap', inner.rest.dropWhile Text.isWord, ?_,
    ⟨some_blank, blank⟩, ⟨some_blank', blank'⟩, ⟨?_, ?_⟩,
    fun c => Text.head?_dropWhile⟩
  · rw [List.append_assoc, List.takeWhile_append_dropWhile, ← taken, ← text''', ← text'', ← text']
    exact text
  · simp [some_word]
  · intro c listed
    rcases List.mem_append.mp listed with listed | listed
    · exact word c listed
    · exact List.mem_takeWhile_imp listed

/-- The search and the scanner go from place to place together. -/
theorem firstFrom_eq_scan? (before : Option Char) (cs : List Char) :
    (declaration.firstFrom before cs).bind (·.group? 1) = scan? cs := by
  -- where the scanner reads nothing the pattern does not match
  have nothing {before : Option Char} {cs : List Char} (none_here : nameAt? cs = none) :
      declaration.ends ⟨before, cs, []⟩ = [] := by
    apply List.eq_nil_iff_forall_not_mem.mpr
    intro stop found
    obtain ⟨name, declares⟩ := exists_declares found
    rw [← nameAt?_eq_some_iff, none_here] at declares
    cases declares
  induction cs generalizing before with
  | nil =>
    rw [Pattern.firstFrom, nothing rfl]
    rfl
  | cons c cs ih =>
    rw [scan?]
    cases here : nameAt? (c :: cs) with
    | none =>
      rw [Pattern.firstFrom_cons_of_ends_eq_nil (nothing here), Option.none_or]
      exact ih (some c)
    | some name =>
      obtain ⟨stop, preferred, grouped⟩ := exists_prefers (nameAt?_eq_some_iff.mp here) before
      rw [Pattern.firstFrom_of_prefers preferred, Option.bind_some, grouped]
      rfl

theorem search_eq_scan? (code : String) :
    javaClassName? code = (scan? code.toList).map String.ofList := by
  rw [javaClassName?, Pattern.firstGroup?, firstFrom_eq_scan?]

end JavaClass

/-! ## Entries of a directory -/

/-- The name of something in a directory: it has no separator in it, and is not empty nor one of the
names that stand for the directory itself and for the one above it. -/
def IsEntry (name : String) : Prop :=
  name ≠ "" ∧ name ≠ "." ∧ name ≠ ".." ∧ '/' ∉ name.toList ∧ '\\' ∉ name.toList

instance : DecidablePred IsEntry := fun name =>
  inferInstanceAs (Decidable (name ≠ "" ∧ name ≠ "." ∧ name ≠ ".." ∧ '/' ∉ name.toList ∧
    '\\' ∉ name.toList))

/-- No word character has a part in the structure of paths. -/
theorem ne_of_isWord {c : Char} (word : Text.isWord c = true) :
    c ≠ '/' ∧ c ≠ '\\' ∧ c ≠ '.' ∧ Text.isBlank c = false := by
  refine ⟨?_, ?_, ?_, ?_⟩
  · rintro rfl
    exact absurd word (by decide)
  · rintro rfl
    exact absurd word (by decide)
  · rintro rfl
    exact absurd word (by decide)
  · by_contra blank
    rw [Bool.not_eq_false] at blank
    rw [JavaClass.not_isWord_of_isBlank blank] at word
    cases word

/-- A word is the name of an entry, whatever is put behind it without separators. -/
theorem isEntry_append {word extension : String} (some_char : word ≠ "")
    (inside : ∀ c ∈ word.toList, Text.isWord c = true)
    (plain : '/' ∉ extension.toList ∧ '\\' ∉ extension.toList) : IsEntry (word ++ extension) := by
  obtain ⟨first, others, text⟩ : ∃ first others, word.toList = first :: others := by
    apply List.exists_cons_of_ne_nil
    intro nothing
    exact some_char (String.toList_eq_nil_iff.mp nothing)
  have start : (word ++ extension).toList = first :: (others ++ extension.toList) := by
    rw [String.toList_append, text, List.cons_append]
  -- a name that begins with a word character is neither empty nor one or two dots
  obtain ⟨-, -, dotless, -⟩ := ne_of_isWord (inside first (text ▸ List.mem_cons_self))
  refine ⟨?_, ?_, ?_, ?_, ?_⟩
  · intro same
    rw [same] at start
    cases start
  · intro same
    rw [same] at start
    exact dotless (List.cons.inj start).1.symm
  · intro same
    rw [same] at start
    exact dotless (List.cons.inj start).1.symm
  · rw [String.toList_append, List.mem_append, not_or]
    exact ⟨fun listed => (ne_of_isWord (inside _ listed)).1 rfl, plain.1⟩
  · rw [String.toList_append, List.mem_append, not_or]
    exact ⟨fun listed => (ne_of_isWord (inside _ listed)).2.1 rfl, plain.2⟩

/-- The path of an entry has its name for the last part, and else the parts of the directory. -/
theorem splitOn_path {σ : Type} (workshop : Workshop σ) {name : String} (entry : IsEntry name) :
    (workshop.path name).toList.splitOn '/' =
      workshop.directory.toList.splitOn '/' ++ [name.toList] := by
  obtain ⟨-, -, -, whole, -⟩ := entry
  have text : (workshop.path name).toList = workshop.directory.toList ++ '/' :: name.toList := by
    simp [Workshop.path]
  rw [text, List.splitOn_append_cons_self, List.splitOn_eq_singleton whole]

variable {σ : Type}

/-- The file that a step writes or reads. -/
def RecipeStep.file? : RecipeStep → Option String
  | save name _ => some name
  | collect name => some name
  | _ => none

/-- The workshop without any files but the entries of its directory. -/
def Workshop.confined (workshop : Workshop σ) : Workshop σ where
  directory := workshop.directory
  save name content state :=
    if IsEntry name then workshop.save name content state else (.error .noSuchFile, state)
  load name state := if IsEntry name then workshop.load name state else .error .noSuchFile
  start := workshop.start
  clock := workshop.clock

/-- A step that keeps to entries is taken there as well. -/
theorem RecipeStep.take_confined (workshop : Workshop σ) (limit : Duration) (product : Product)
    (state : σ) {step : RecipeStep} (entries : ∀ file, step.file? = some file → IsEntry file) :
    step.take workshop.confined limit product state = step.take workshop limit product state := by
  cases step with
  | save name content =>
    have entry : IsEntry name := entries name rfl
    simp only [take, Workshop.confined, if_pos entry]
  | build command => rfl
  | launch command => rfl
  | collect name =>
    have entry : IsEntry name := entries name rfl
    simp only [take, Workshop.confined, if_pos entry]
    rfl

/-- So is a recipe. -/
theorem Recipe.carryOut_confined {workshop : Workshop σ} {limit deadline : Duration}
    {product : Product} {state : σ} {steps : Recipe}
    (entries : ∀ step ∈ steps, ∀ file, step.file? = some file → IsEntry file) :
    carryOut workshop.confined limit deadline product state steps =
      carryOut workshop limit deadline product state steps := by
  induction steps generalizing product state with
  | nil => rfl
  | cons step steps ih =>
    obtain ⟨here, later⟩ := List.forall_mem_cons.mp entries
    have taken := step.take_confined workshop limit product state here
    simp only [carryOut, taken, ih later]
    rfl

/-! ## Java code -/

/-- The name of a class is a word. -/
theorem JavaClass.word_of_found {code name : String} (found : javaClassName? code = some name) :
    name ≠ "" ∧ ∀ c ∈ name.toList, Text.isWord c = true := by
  rw [search_eq_scan?, Option.map_eq_some_iff] at found
  obtain ⟨chars, scanned, rfl⟩ := found
  obtain ⟨place, ⟨gap, gap', rest, -, -, -, word, -⟩, -⟩ := scan?_eq_some_iff.mp scanned
  rw [String.toList_ofList]
  refine ⟨?_, word.2⟩
  intro empty
  apply word.1
  simpa using congrArg String.toList empty

namespace Toolchain

variable {compiler runtime code name : String} {path : String → String} {steps : Recipe}

/-- Java code is saved under the name of its class, and what the compiler makes of it is looked for
under that name; there are no other files. -/
theorem files_java (planned : (java compiler runtime).recipe path code = .ok steps) :
    ∃ name, javaClassName? code = some name ∧
      steps.filterMap RecipeStep.file? = [name ++ ".java", name ++ ".class"] := by
  obtain ⟨name, found, rfl⟩ := recipe_java planned
  exact ⟨name, found, rfl⟩

theorem isEntry_java (found : javaClassName? code = some name) :
    ∀ file ∈ [name ++ ".java", name ++ ".class"], IsEntry file := by
  obtain ⟨some_char, inside⟩ := JavaClass.word_of_found found
  intro file listed
  simp only [List.mem_cons, List.not_mem_nil, or_false] at listed
  rcases listed with rfl | rfl
  · exact isEntry_append some_char inside (by decide)
  · exact isEntry_append some_char inside (by decide)

/-- Running Java code keeps to the entries of the scratch directory. -/
theorem run_confined (compiler runtime : String) (workshop : Workshop σ) (limit : Duration)
    (code : String) (state : σ) :
    (java compiler runtime).run workshop.confined limit code state =
      (java compiler runtime).run workshop limit code state := by
  have same : workshop.confined.path = workshop.path := rfl
  unfold run
  rw [same]
  cases planned : (java compiler runtime).recipe workshop.path code with
  | error error => rfl
  | ok steps =>
    obtain ⟨name, found, files⟩ := files_java planned
    apply Recipe.carryOut_confined
    intro step listed file used
    apply isEntry_java found
    rw [← files]
    exact List.mem_filterMap.mpr ⟨step, listed, used⟩

/-- The class of Java code is the one that is declared first: the search finds what a scanner finds
that goes from place to place, and nothing if nothing is declared anywhere. Its name has no
separators, dots or blanks in it, so the files that are named after it are entries of the scratch
directory, and a run that can reach no other files is the same run. -/
theorem first_declaration_names_files (compiler runtime : String) (workshop : Workshop σ)
    (limit : Duration) (code : String) (state : σ) :
    javaClassName? code = (JavaClass.scan? code.toList).map String.ofList ∧
    (∀ name, javaClassName? code = some name ↔
      ∃ place, JavaClass.Declares (code.toList.drop place) name.toList ∧
        ∀ earlier < place, ∀ other, ¬ JavaClass.Declares (code.toList.drop earlier) other) ∧
    (javaClassName? code = none ↔
      ∀ place name, ¬ JavaClass.Declares (code.toList.drop place) name) ∧
    (∀ name, javaClassName? code = some name →
      name ≠ "" ∧ ∀ c ∈ name.toList, c ≠ '/' ∧ c ≠ '\\' ∧ c ≠ '.' ∧ Text.isBlank c = false) ∧
    (∀ name, javaClassName? code = some name →
      ∃ steps, (java compiler runtime).recipe workshop.path code = .ok steps ∧
        steps.filterMap RecipeStep.file? = [name ++ ".java", name ++ ".class"] ∧
        ∀ file ∈ [name ++ ".java", name ++ ".class"], IsEntry file ∧
          (workshop.path file).toList.splitOn '/' =
            workshop.directory.toList.splitOn '/' ++ [file.toList]) ∧
    (java compiler runtime).run workshop.confined limit code state =
      (java compiler runtime).run workshop limit code state := by
  have scanned := JavaClass.search_eq_scan? code
  refine ⟨scanned, ?_, ?_, ?_, ?_, run_confined compiler runtime workshop limit code state⟩
  · intro name
    rw [← JavaClass.scan?_eq_some_iff, scanned, Option.map_eq_some_iff]
    constructor
    · rintro ⟨chars, found, rfl⟩
      rw [found, String.toList_ofList]
    · intro found
      exact ⟨name.toList, found, String.ofList_toList⟩
  · rw [← JavaClass.scan?_eq_none_iff, scanned, Option.map_eq_none_iff]
  · intro name found
    obtain ⟨some_char, inside⟩ := JavaClass.word_of_found found
    exact ⟨some_char, fun c listed => ne_of_isWord (inside c listed)⟩
  · intro name found
    -- code with a class is not refused
    have accepted : ¬ (java compiler runtime).Refuses code := by
      rintro ⟨-, -, -, nameless⟩
      rw [found] at nameless
      cases nameless
    obtain ⟨steps, planned⟩ :
        ∃ steps, (java compiler runtime).recipe workshop.path code = .ok steps :=
      exists_recipe accepted
    obtain ⟨name', found', files⟩ := files_java planned
    obtain rfl : name = name' := Option.some.inj (found.symm.trans found')
    refine ⟨steps, planned, files, fun file listed => ?_⟩
    have entry := isEntry_java found file listed
    exact ⟨entry, splitOn_path workshop entry⟩

/-- Before the declaration stand others that lack a blank or have a word between the keywords; its
blanks are not all of ASCII, nor is its name, behind which a dot stands. -/
def nearMisses : String :=
  "publicclass A\npublic static class B\npublic\u3000class\n\tGröße_1.x public class C"

theorem first_declaration_behind_near_misses :
    javaClassName? nearMisses = some "Größe_1" ∧
      (∃ place, JavaClass.Declares (nearMisses.toList.drop place) "Größe_1".toList) ∧
      (∃ steps, (java "javac" "java").recipe (Workshop.scripted fun _ => .endless).path nearMisses =
          .ok steps ∧
        steps.filterMap RecipeStep.file? = ["Größe_1.java", "Größe_1.class"]) ∧
      IsEntry "Größe_1.java" := by
  obtain ⟨scanned, declared, -, -, filed, -⟩ := first_declaration_names_files "javac" "java"
    (.scripted fun _ => .endless) .zero nearMisses []
  have found : javaClassName? nearMisses = some "Größe_1" := by
    rw [scanned]
    decide +kernel
  obtain ⟨place, declares, -⟩ := (declared _).mp found
  obtain ⟨steps, planned, files, entries⟩ := filed _ found
  exact ⟨found, ⟨place, declares⟩, ⟨steps, planned, files⟩, (entries _ List.mem_cons_self).1⟩

end Toolchain

end Polyglot
