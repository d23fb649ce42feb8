import Polyglot.Proofs.Conversion.Gate

/-!
# What an answer accumulates to

The fragments of an answer are joined up to the first error. `gather_texts` says what reading some
texts comes to, whatever was read before them and whatever follows: they are added to the text so
far, and the observer, if there is one, is told of each. Every stream is a list of texts that ends
there or goes on with an error (`texts_or_error`), and since an observer is told and never asked,
**`convert_accumulates`** follows: the outcome of a conversion depends on the joined text or the
first error alone, and the progress on the texts before that.
-/

namespace Polyglot.Converter

variable {σ : Type} {converter : Converter} {entries : List (String × Slot)}
  {request : ConversionRequest} {name : String} {backend : Backend}

/-! ## Observers -/

/-- What is said of texts that follow a text so far and a number of fragments so far: with each, all
the text up to it and the fraction done. -/
def announcementsFrom (text : String) (index : Nat) (texts : List String) :
    List (String × Single) :=
  (List.range texts.length).map fun i =>
    (text ++ String.join (texts.take (i + 1)), progressFraction (index + i))

/-- What is said of the texts of an answer, from its beginning. -/
def announcements (texts : List String) : List (String × Single) :=
  (List.range texts.length).map fun i =>
    (String.join (texts.take (i + 1)), progressFraction i)

/-- What the observer has after it was told, one thing after the other. -/
def told (observer : Option (Observer σ)) (seen : σ) (announced : List (String × Single)) : σ :=
  match observer with
  | some tell => announced.foldl (fun seen (text, fraction) => tell text fraction seen) seen
  | none => seen

theorem announcementsFrom_start (texts : List String) :
    announcementsFrom "" 0 texts = announcements texts := by
  simp only [announcementsFrom, announcements, String.empty_append, Nat.zero_add]

theorem announcementsFrom_cons (text : String) (index : Nat) (fragment : String)
    (texts : List String) :
    announcementsFrom text index (fragment :: texts) =
      (text ++ fragment, progressFraction index) ::
        announcementsFrom (text ++ fragment) (index + 1) texts := by
  unfold announcementsFrom
  rw [List.length_cons, List.range_succ_eq_map, List.map_cons, List.map_map]
  refine congrArg₂ List.cons ?_ (List.map_congr_left fun i _ => ?_)
  · rw [List.take_succ_cons, List.take_zero, String.join_cons, String.join_nil,
      String.append_empty, Nat.add_zero]
  · rw [Function.comp_apply, List.take_succ_cons, String.join_cons, String.append_assoc,
      Nat.succ_eq_add_one, Nat.add_assoc index 1, Nat.add_comm 1]

/-- Telling of one thing and then of the others. -/
theorem told_cons (observer : Option (Observer σ)) (seen : σ) (text : String) (fraction : Single)
    (announced : List (String × Single)) :
    told observer seen ((text, fraction) :: announced) =
      told observer (match observer with
        | some tell => tell text fraction seen
        | none => seen) announced := by
  cases observer with
  | none => rfl
  | some tell => rfl

/-- Whoever records what is told has all of it in order. -/
theorem told_record (progress announced : List (String × Single)) :
    told (some record) progress announced = progress ++ announced := by
  induction announced generalizing progress with
  | nil => exact (List.append_nil progress).symm
  | cons announcement announced ih =>
    rw [told_cons, ih]
    exact List.append_assoc progress [announcement] announced

/-! ## Streams -/

/-- A stream is made of texts and then ends, or goes on with an error. -/
theorem texts_or_error (items : List StreamItem) :
    ∃ texts : List String, items = texts.map .ok ∨
      ∃ error later, items = texts.map .ok ++ .error error :: later := by
  induction items with
  | nil => exact ⟨[], .inl rfl⟩
  | cons item items ih =>
    cases item with
    | error error => exact ⟨[], .inr ⟨error, items, rfl⟩⟩
    | ok text =>
      obtain ⟨texts, rfl | ⟨error, later, rfl⟩⟩ := ih
      · exact ⟨text :: texts, .inl rfl⟩
      · exact ⟨text :: texts, .inr ⟨error, later, rfl⟩⟩

/-- Reading texts adds them to the text so far and tells the observer of each. -/
theorem gather_texts (observer : Option (Observer σ)) (text : String) (index : Nat) (seen : σ)
    (texts : List String) (rest : List StreamItem) :
    gather observer text index seen (texts.map .ok ++ rest) =
      gather observer (text ++ String.join texts) (index + texts.length)
        (told observer seen (announcementsFrom text index texts)) rest := by
  induction texts generalizing text index seen with
  | nil =>
    rw [String.join_nil, String.append_empty]
    cases observer <;> rfl
  | cons fragment texts ih =>
    rw [announcementsFrom_cons, told_cons, String.join_cons, ← String.append_assoc,
      List.length_cons, Nat.add_comm texts.length 1, ← Nat.add_assoc]
    exact ih (text ++ fragment) (index + 1) _

/-! ## Conversions -/

/-- What a backend yields for a request. -/
def yielded (converter : Converter) (request : ConversionRequest) (backend : Backend) :
    List StreamItem :=
  (backend.answer (renderPrompt request.source request.target request.code)
    (converter.optionsFor request)).items

/-- Texts up to the end of a stream come to the code in their join. -/
theorem ask_of_texts {texts : List String}
    (yields : yielded converter request backend = texts.map .ok)
    (observer : Option (Observer σ)) (seen : σ) :
    (converter.ask request backend observer seen).seen =
        told observer seen (announcements texts) ∧
      (converter.ask request backend observer seen).result =
        .ok (.converted (finishCode converter.registry request.target (String.join texts))) := by
  have read := gather_texts observer "" 0 seen texts []
  rw [List.append_nil, ← yields, announcementsFrom_start, String.empty_append] at read
  simp only [ask]
  rw [← yielded, read]
  exact ⟨rfl, rfl⟩

/-- An error in a stream is what it comes to, whatever the stream goes on with. -/
theorem ask_of_error {texts : List String} {error : BackendError} {later : List StreamItem}
    (yields : yielded converter request backend = texts.map .ok ++ .error error :: later)
    (observer : Option (Observer σ)) (seen : σ) :
    (converter.ask request backend observer seen).seen =
        told observer seen (announcements texts) ∧
      (converter.ask request backend observer seen).result = .error (.backend error) := by
  have read := gather_texts observer "" 0 seen texts (.error error :: later)
  rw [← yields, announcementsFrom_start, String.empty_append] at read
  simp only [ask]
  rw [← yielded, read]
  exact ⟨rfl, rfl⟩

/-- An admitted request is put to the backend that it reaches. -/
theorem convertObserved_of_admitted (built : Built converter entries)
    (admitted : Admitted converter entries request name backend) (observer : Option (Observer σ))
    (seen : σ) :
    converter.convertObserved request observer seen =
      converter.ask request backend observer seen := by
  rcases convertObserved_cases built request observer seen with
    ⟨name', backend', admitted', asked⟩ | ⟨result, refused, -⟩
  · cases admitted'.ready.symm.trans admitted.ready
    exact asked
  · exact absurd admitted refused.not_admitted

/-- A conversion joins the texts of its stream up to the first error and tells the observer of each.
What comes after an error makes no difference; without one the code in the joined text comes out,
made to show its results if it is to be Python. So neither the cuts between the texts nor the
observer make a difference to the result. -/
theorem convert_accumulates (built : Built converter entries)
    (admitted : Admitted converter entries request name backend) (observer : Option (Observer σ))
    (seen : σ) :
    let conversion := converter.convertObserved request observer seen
    let codeIn := fun text =>
      if converter.registry.resolve request.target = some ⟨"Python"⟩ then
        preparePython (cleanResponse text)
      else cleanResponse text
    (∃ texts : List String, conversion.seen = told observer seen (announcements texts) ∧
      (converter.convert request).progress = announcements texts ∧
      ((yielded converter request backend = texts.map .ok ∧
          conversion.result = .ok (.converted (codeIn (String.join texts)))) ∨
        ∃ error later, yielded converter request backend = texts.map .ok ++ .error error :: later ∧
          conversion.result = .error (.backend error))) ∧
    (∀ (converter' : Converter) (entries' : List (String × Slot)) (name' : String)
      (backend' : Backend) (texts texts' : List String), Built converter' entries' →
        Admitted converter' entries' request name' backend' →
        converter'.registry = converter.registry →
        yielded converter request backend = texts.map .ok →
        yielded converter' request backend' = texts'.map .ok →
        String.join texts' = String.join texts →
        (converter'.convertObserved request observer seen).result = conversion.result) ∧
    (∀ (τ : Type) (observer' : Option (Observer τ)) (seen' : τ),
      (converter.convertObserved request observer' seen').result = conversion.result) := by
  intro conversion codeIn
  -- the model is asked alike, whether an observer is told or the fragments are recorded
  have asked : conversion = converter.ask request backend observer seen :=
    convertObserved_of_admitted built admitted observer seen
  have recorded : converter.convertObserved request (some record) [] =
      converter.ask request backend (some record) [] :=
    convertObserved_of_admitted built admitted (some record) []
  refine ⟨?_, ?_, ?_⟩
  · obtain ⟨texts, yields | ⟨error, later, yields⟩⟩ :=
      texts_or_error (yielded converter request backend)
    · refine ⟨texts, ?_, ?_, .inl ⟨yields, ?_⟩⟩
      · rw [asked, (ask_of_texts yields observer seen).1]
      · rw [convert, recorded, (ask_of_texts yields _ _).1, told_record, List.nil_append]
      · rw [asked, (ask_of_texts yields observer seen).2]
        rfl
    -- the texts before the error were told as if nothing had failed
    · refine ⟨texts, ?_, ?_, .inr ⟨error, later, yields, ?_⟩⟩
      · rw [asked, (ask_of_error yields observer seen).1]
      · rw [convert, recorded, (ask_of_error yields _ _).1, told_record, List.nil_append]
      · rw [asked, (ask_of_error yields observer seen).2]
  · intro converter' entries' name' backend' texts texts' built' admitted' same yields yields'
      joined
    rw [asked, convertObserved_of_admitted built' admitted', (ask_of_texts yields' observer seen).2,
      (ask_of_texts yields observer seen).2, same, joined]
  · intro τ observer' seen'
    rw [asked, convertObserved_of_admitted built admitted]
    obtain ⟨texts, yields | ⟨error, later, yields⟩⟩ :=
      texts_or_error (yielded converter request backend)
    · rw [(ask_of_texts yields observer' seen').2, (ask_of_texts yields observer seen).2]
    · rw [(ask_of_error yields observer' seen').2, (ask_of_error yields observer seen).2]

/-- A backend that yields the same items whatever it is asked. -/
def scripted (name : String) (items : List StreamItem) : Backend where
  name
  answer _ _ := { items }

/-- Two languages, one of them called like the one whose scripts are made to show their results. -/
def scriptLanguages : List LanguageDefinition := [
  { name := "Beta", fileExtension := "b", markers := ["y"], signature := "y" },
  { name := "Python", aliases := ["py"], fileExtension := "py", markers := ["x"],
    signature := "x" }]

/-- A fence that is cut into pieces, with somebody who counts them. -/
theorem convert_accumulates_cut_fence :
    ∃ registry, Registry.ofDefinitions scriptLanguages = .ok registry ∧
      let backend := scripted "model" [.ok "`", .ok "``py\nx", .ok "\n```"]
      let converter := ({ registry, options := {} } : Converter).withBackend "GPT" backend
      let request : ConversionRequest := ⟨"y", "Beta", " PY", "gpt", none⟩
      let counted := converter.convertObserved request (some fun _ _ count => count + 1) 0
      Built converter [("GPT", .ready backend)] ∧
        Admitted converter [("GPT", .ready backend)] request "GPT" backend ∧
        counted.seen = 3 ∧ counted.result = .ok (.converted "print(x)\n") := by
  refine ⟨_, rfl, ?_⟩
  intro backend converter request counted
  have built : Built converter [("GPT", .ready backend)] :=
    (Built.fresh _ _).registered "GPT" backend
  have key : Text.lowercase (Text.trim "gpt") = Text.lowercase "GPT" := by decide +kernel
  have admitted : Admitted converter [("GPT", .ready backend)] request "GPT" backend := by
    refine ⟨⟨?_, ?_, ?_, ?_⟩, by decide +kernel, ?_⟩
    · decide +kernel
    · decide +kernel
    · decide +kernel
    · decide +kernel
    · rw [key]
      exact (latest?_append_singleton _ [] "GPT" _).trans (if_pos rfl)
  refine ⟨built, admitted, ?_⟩
  obtain ⟨⟨texts, heard, -, spoken⟩, -, -⟩ :=
    convert_accumulates built admitted (some fun _ _ count => count + 1) 0
  rcases spoken with ⟨yields, result⟩ | ⟨error, later, yields, -⟩
  · have same : texts = ["`", "``py\nx", "\n```"] :=
      (List.map_injective_iff.mpr fun _ _ => Except.ok.inj) yields.symm
    subst same
    refine ⟨heard.trans ?_, result.trans ?_⟩
    · decide +kernel
    · decide +kernel
  · have failed : .error error ∈ yielded converter request backend := by
      rw [yields]
      exact List.mem_append_right _ List.mem_cons_self
    simp [yielded, backend, scripted] at failed

end Polyglot.Converter
