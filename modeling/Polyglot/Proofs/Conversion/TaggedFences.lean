import Polyglot.Proofs.Conversion.Unwrapping
import Polyglot.Proofs.Language.Validity
import Polyglot.Proofs.Pattern.Transfer

/-!
# Fences with the name of a language

A fence goes with the word characters behind it. What else is in its tag stays, with the line feed
(`tagLeft`, `cleaning_of_tagged`). Most names and aliases of the catalogue are words, and in a fence
with one of these the code comes out alone; three have signs in them (`Catalogue.words_iff`), and
the signs come out in front of the code. **`convert_of_tagged`** says so of conversions.
-/

namespace Polyglot

/-! ## Tags -/

namespace Cleaning

variable {before : Option Char} {text tag : List Char}

theorem not_atLineStart_getLast? (filled : text ≠ []) (whole : '\n' ∉ text) :
    ¬ AtLineStart text.getLast? := by
  rintro (nothing | lineFeed)
  · exact filled (List.getLast?_eq_none_iff.mp nothing)
  · exact whole (List.mem_of_getLast? lineFeed)

/-- Nothing without backticks is taken out of a line that has begun. -/
theorem scan_midline (inside : ¬ AtLineStart before) (whole : '\n' ∉ text) (unmarked : mark ∉ text)
    (rest : List Char) :
    scan before (text ++ '\n' :: rest) = text ++ '\n' :: scan (some '\n') rest := by
  have stays {before : Option Char} {c : Char} (behind : List Char) (inside : ¬ AtLineStart before)
      (other : mark ≠ c) : Front before (c :: behind) (.kept c) :=
    .kept (fun fenced => other (List.cons_prefix_cons.mp fenced).1)
      (fun start => absurd start inside)
  induction text generalizing before with
  | nil => exact scan_of_front (stays rest inside (by decide)) rfl
  | cons c text ih =>
    rw [List.mem_cons, not_or] at whole unmarked
    have here := stays (text ++ '\n' :: rest) inside unmarked.1
    have inside' : ¬ AtLineStart (some c) := by
      rintro (nothing | lineFeed)
      · cases nothing
      · exact whole.1 (Option.some.inj lineFeed).symm
    rw [List.cons_append, scan_of_front here rfl]
    exact congrArg (c :: ·) (ih inside' whole.2 unmarked.2)

/-- What stays of a fence with such a tag, and of its line feed. -/
def tagLeft (tag : List Char) : List Char :=
  let others := tag.dropWhile Text.isWord
  if others = [] then [] else others ++ ['\n']

/-- Neither blanks nor backticks are in the tag. -/
def TagLike (tag : List Char) : Prop :=
  ∀ c ∈ tag, Text.isBlank c = false ∧ c ≠ mark

theorem TagLike.lineFeed_not_mem (tagLike : TagLike tag) : '\n' ∉ tag := by
  intro mem
  exact absurd (tagLike _ mem).1 (by decide)

theorem TagLike.mark_not_mem (tagLike : TagLike tag) : mark ∉ tag :=
  fun mem => (tagLike _ mem).2 rfl

theorem scan_tagged (tagLike : TagLike tag) (rest : List Char) :
    scan before ("```".toList ++ (tag ++ '\n' :: rest)) = tagLeft tag ++ scan (some '\n') rest := by
  have word : ∀ c ∈ tag.takeWhile Text.isWord, Text.isWord c = true :=
    fun c mem => List.mem_takeWhile_imp mem
  have split : tag = tag.takeWhile Text.isWord ++ tag.dropWhile Text.isWord :=
    List.takeWhile_append_dropWhile.symm
  have first := List.head?_dropWhile_not Text.isWord tag
  unfold tagLeft
  generalize tag.takeWhile Text.isWord = run at word split
  generalize tag.dropWhile Text.isWord = others at first split
  subst split
  have whole := tagLike.lineFeed_not_mem
  have unmarked := tagLike.mark_not_mem
  rw [List.mem_append, not_or] at whole unmarked
  -- the fence takes the word in front, and the line feed only if nothing is left between
  cases others with
  | nil =>
    rw [List.append_nil]
    exact scan_fenceLine word rest
  | cons c others =>
    have other : c ≠ '\n' := fun same => whole.2 (same ▸ List.mem_cons_self)
    have front : Front before ("```".toList ++ (run ++ (c :: others ++ '\n' :: rest)))
        (.fence run false) :=
      .fence word fun d next => Option.some.inj next ▸ ⟨first, other⟩
    have begun : ¬ AtLineStart (Part.fence run false).text.getLast? := by
      refine not_atLineStart_getLast? (by simp [Part.text]) ?_
      simp [Part.text, whole.1]
    have parted : "```".toList ++ (run ++ (c :: others ++ '\n' :: rest)) =
        (Part.fence run false).text ++ (c :: others ++ '\n' :: rest) := by simp [Part.text]
    rw [List.append_assoc, scan_of_front front parted, scan_midline begun whole.2 unmarked.2,
      if_neg (List.cons_ne_nil c others), List.append_assoc]
    rfl

theorem cleaning_of_tagged {tag code : String} (blanks : String) (tagLike : TagLike tag.toList)
    (unfenced : Unfenced code.toList) (plain : Unopened code.toList)
    (blank : Text.allBlank blanks = true) :
    cleanResponse (fenced tag code blanks) =
      Text.trim (String.ofList (tagLeft tag.toList) ++ code) := by
  rw [Text.allBlank, List.all_eq_true] at blank
  have unwrapped : Text.trimmed (scan none (fenced tag code blanks).toList) =
      Text.trimmed (tagLeft tag.toList ++ code.toList) := by
    rw [toList_fenced, scan_tagged tagLike]
    exact trimmed_append_scan_code unfenced plain blank (tagLeft tag.toList)
  rw [cleanResponse_eq, Text.trim, Text.trim, String.toList_ofList, unwrapped,
    String.toList_append, String.toList_ofList]

/-- The code is alone if nothing but word characters is in the tag. -/
theorem trim_tagLeft_eq_iff {tag : List Char} (tagLike : TagLike tag) (code : String) :
    Text.trim (String.ofList (tagLeft tag) ++ code) = Text.trim code ↔
      tag.all Text.isWord = true := by
  rw [List.all_eq_true, ← List.dropWhile_eq_nil_iff, tagLeft]
  split
  · next none => simp [none]
  · next others =>
    refine iff_of_false ?_ others
    obtain ⟨c, mem⟩ := List.exists_mem_of_ne_nil _ others
    have ink := (tagLike c ((List.dropWhile_suffix _).subset mem)).1
    rw [Text.trim, Text.trim, String.ofList_inj, String.toList_append, String.toList_ofList]
    exact Text.trimmed_append_ne (List.mem_append_left _ mem) ink code.toList

/-! ## The names of the catalogue -/

/-- The characters that may be in a tag. -/
def tagChars : CharSet :=
  .inter (.compl .blank) (.compl (.single mark))

theorem tagLike_iff : TagLike tag ↔ tag.all tagChars.contains = true := by
  rw [List.all_eq_true]
  refine forall₂_congr fun c _ => ?_
  simp [tagChars, CharSet.contains, CharSet.contains_single]

end Cleaning

theorem Text.all_contains_of_equalIgnoringCase {s : CharSet} (ignores : s.ignoresCase = true)
    {t u : String} (same : equalIgnoringAsciiCase t u = true) :
    t.toList.all s.contains = u.toList.all s.contains := by
  have small (cs : List Char) : (cs.map Char.toLower).all s.contains = cs.all s.contains := by
    rw [List.all_map]
    exact congrArg _ (funext (CharSet.contains_toLower ignores))
  rw [← small, beq_iff_eq.mp same, small]

namespace Catalogue

theorem spellings_tagLike : ∀ definition ∈ all, ∀ spelling ∈ definition.name :: definition.aliases,
    spelling.toList.all Cleaning.tagChars.contains = true := by
  decide

/-- All names and aliases but three are words. -/
theorem words_iff : ∀ definition ∈ all, ∀ spelling ∈ definition.name :: definition.aliases,
    spelling.toList.all Text.isWord = true ↔ spelling ∉ ["C++", "c++17", "C#"] := by
  decide

end Catalogue

/-! ## Conversions -/

namespace Converter

variable {σ : Type} {converter : Converter} {entries : List (String × Slot)}
  {request : ConversionRequest} {name : String} {backend : Backend} {fragments : List String}

/-- Where no script is asked for, the outcome is the cleaned answer, however it was cut. -/
theorem result_of_texts (built : Built converter entries)
    (admitted : Admitted converter entries request name backend)
    (other : converter.registry.resolve request.target ≠ some ⟨"Python"⟩)
    (yields : yielded converter request backend = fragments.map .ok)
    (observer : Option (Observer σ)) (seen : σ) :
    (converter.convertObserved request observer seen).result =
      .ok (.converted (cleanResponse (String.join fragments))) := by
  rw [convertObserved_of_admitted built admitted, (ask_of_texts yields observer seen).2, finishCode,
    if_neg other]

/-- Code in a fence with a name or an alias of a language for its tag: what is no word in the tag
comes out in front of it, and nothing else. So it comes out alone unless the language is called C++
or C#, or C++ is called by its year. -/
theorem convert_of_tagged {definition : LanguageDefinition} {spelling tag code : String}
    (listed : definition ∈ Catalogue.all) (other : definition.name ≠ "Python")
    (spelled : spelling ∈ definition.name :: definition.aliases)
    (tagged : Text.equalIgnoringAsciiCase tag spelling = true) (unfenced : Unfenced code.toList)
    (plain : Cleaning.Unopened code.toList) (built : Built converter entries)
    (admitted : Admitted converter entries request name backend)
    (target : converter.registry.resolve request.target = some ⟨definition.name⟩)
    (yields : yielded converter request backend = fragments.map .ok)
    (joined : String.join fragments = Cleaning.fenced tag code "") (observer : Option (Observer σ))
    (seen : σ) :
    let result := (converter.convertObserved request observer seen).result
    let signs := String.ofList (Cleaning.tagLeft tag.toList)
    result = .ok (.converted (Text.trim (signs ++ code))) ∧
      (result = .ok (.converted (Text.trim code)) ↔ spelling ∉ ["C++", "c++17", "C#"]) := by
  intro result signs
  -- the characters of a tag do not depend on case, so they are those of the spelling
  have tagLike : Cleaning.TagLike tag.toList := by
    rw [Cleaning.tagLike_iff, Text.all_contains_of_equalIgnoringCase (by decide) tagged]
    exact Catalogue.spellings_tagLike definition listed spelling spelled
  have script : converter.registry.resolve request.target ≠ some ⟨"Python"⟩ := by
    rw [target]
    intro same
    exact other (congrArg Language.name (Option.some.inj same))
  have outcome : result = .ok (.converted (Text.trim (signs ++ code))) := by
    have cleaned := result_of_texts built admitted script yields observer seen
    rwa [joined, Cleaning.cleaning_of_tagged "" tagLike unfenced plain (by decide)] at cleaned
  refine ⟨outcome, ?_⟩
  rw [outcome, Except.ok.injEq, ConversionOutcome.converted.injEq,
    Cleaning.trim_tagLeft_eq_iff tagLike, ← Catalogue.words_iff definition listed spelling spelled]
  exact Bool.eq_iff_iff.mp (Text.all_contains_of_equalIgnoringCase (s := .word) rfl tagged)

/-- A converter with one model, which answers in these pieces. -/
def answering (registry : Registry) (fragments : List String) : Converter :=
  ({ registry, options := {} } : Converter).withBackend "GPT"
    (scripted "model" (fragments.map .ok))

variable {registry : Registry} {target : String}

theorem built_answering (registry : Registry) (fragments : List String) :
    Built (answering registry fragments)
      [("GPT", .ready (scripted "model" (fragments.map .ok)))] :=
  (Built.fresh _ _).registered "GPT" _

/-- What passes for its language is put to the model. -/
theorem admitted_answering (fragments : List String)
    (valid : registry.validate "print 1" "Basic" = .valid) (named : Text.trim target ≠ "") :
    Admitted (answering registry fragments)
      [("GPT", .ready (scripted "model" (fragments.map .ok)))]
      ⟨"print 1", "Basic", target, "GPT", none⟩ "GPT" (scripted "model" (fragments.map .ok)) where
  complete :=
    { code := show Text.trim "print 1" ≠ "" by decide
      source := show Text.trim "Basic" ≠ "" by decide
      target := named
      model := show Text.trim "GPT" ≠ "" by decide }
  valid
  ready := by
    have key : Text.lowercase (Text.trim "GPT") = Text.lowercase "GPT" := by decide
    rw [key]
    exact (latest?_append_singleton _ [] "GPT" _).trans (if_pos rfl)

theorem result_of_answering (fragments : List String)
    (valid : registry.validate "print 1" "Basic" = .valid) (named : Text.trim target ≠ "")
    (other : registry.resolve target ≠ some ⟨"Python"⟩) :
    ((answering registry fragments).convertObserved
      ⟨"print 1", "Basic", target, "GPT", none⟩ none ()).result =
        .ok (.converted (cleanResponse (String.join fragments))) :=
  result_of_texts (built_answering registry fragments) (admitted_answering fragments valid named)
    other rfl none ()

/-- No built-in language is called so. -/
theorem builtin_validate_basic : Registry.builtin.validate "print 1" "Basic" = .valid :=
  Registry.builtin_validate_of_unlisted "print 1" (by decide)

/-- An alias with capitals in it, cut into pieces, and code with two backticks in it. -/
theorem convert_of_tagged_csharp :
    Text.equalIgnoringAsciiCase "CSharp" "csharp" = true ∧
      ((answering .builtin ["``", "`CShar", "p\n f(``);\n\n``", "`"]).convertObserved
        ⟨"print 1", "Basic", "C#", "GPT", none⟩ none ()).result =
          .ok (.converted (Text.trim " f(``);\n")) := by
  have tagged : Text.equalIgnoringAsciiCase "CSharp" "csharp" = true := by decide
  have listed : Catalogue.csharp ∈ Catalogue.all := by decide
  have joined : String.join ["``", "`CShar", "p\n f(``);\n\n``", "`"] =
      Cleaning.fenced "CSharp" " f(``);\n" "" := by decide
  have converted (registry : Registry) (valid : registry.validate "print 1" "Basic" = .valid)
      (target : registry.resolve "C#" = some ⟨"C#"⟩) :
      ((answering registry ["``", "`CShar", "p\n f(``);\n\n``", "`"]).convertObserved
        ⟨"print 1", "Basic", "C#", "GPT", none⟩ none ()).result =
          .ok (.converted (Text.trim " f(``);\n")) :=
    (convert_of_tagged listed (by decide) (by decide) tagged (by decide) (by decide)
      (built_answering registry _) (admitted_answering _ valid (by decide)) target rfl
      joined none ()).2.mpr (by decide)
  exact ⟨tagged,
    converted .builtin builtin_validate_basic (Registry.builtin_resolve_name listed rfl)⟩

/-- The signs of C++ come out in front of the code. -/
theorem convert_keeps_signs :
    Registry.builtin.resolve "C++" = some ⟨"C++"⟩ ∧
      "```C++\nint main() \x7b\x7d\n```" = Cleaning.fenced "C++" "int main() \x7b\x7d" "" ∧
      ((answering .builtin ["```C++\nint main() \x7b\x7d\n```"]).convertObserved
        ⟨"print 1", "Basic", "C++", "GPT", none⟩ none ()).result =
          .ok (.converted "++\nint main() \x7b\x7d") ∧
      Text.trim "int main() \x7b\x7d" ≠ "++\nint main() \x7b\x7d" := by
  have listed : Catalogue.cpp ∈ Catalogue.all := by decide
  have target : Registry.builtin.resolve "C++" = some ⟨"C++"⟩ :=
    Registry.builtin_resolve_name listed rfl
  have script : Registry.builtin.resolve "C++" ≠ some ⟨"Python"⟩ := by
    rw [target]
    decide
  have result := result_of_answering ["```C++\nint main() \x7b\x7d\n```"] builtin_validate_basic
    (by decide) script
  have cleaned : cleanResponse (String.join ["```C++\nint main() \x7b\x7d\n```"]) =
      "++\nint main() \x7b\x7d" := by decide +kernel
  rw [cleaned] at result
  exact ⟨target, by decide, result, by decide⟩

end Converter

end Polyglot
