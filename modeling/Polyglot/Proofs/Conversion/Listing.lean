import Mathlib.Data.List.Nodup
import Polyglot.Proofs.Conversion.Gate
import Polyglot.Proofs.Language.Validity
import Polyglot.Proofs.Text.ByteOrder

/-!
# Which models are listed, and which of them can be selected

The table of slots has each slot under the lowercase form of the slot's own name and no key twice
(`Keyed`), so a name is listed if and only if it is the name of the latest registration under its
key (`mem_models_iff`), and the list is in the order of bytes without repetitions
(`pairwise_models`). A selector is trimmed before its lowercase form is looked up, a name is not
when it is registered: **`listed_selectable_iff_trimmed`** says of every listed name that it selects
its slot if there are no blanks at its ends, and that otherwise nothing does.
-/

namespace Polyglot.Converter

variable {converter : Converter} {entries : List (String × Slot)} {request : ConversionRequest}
  {key name : String} {slot : Slot}

/-! ## The table of slots -/

/-- Each slot stands under the key of its name, and no key occurs twice. -/
structure Keyed (converter : Converter) : Prop where
  distinct : (converter.slots.map (·.1)).Nodup
  lowercase : ∀ entry ∈ converter.slots, entry.1 = Text.lowercase entry.2.1

theorem Keyed.insert (keyed : Keyed converter) (name : String) (slot : Slot) :
    Keyed (converter.insert name slot) := by
  constructor
  · simp only [Converter.insert, List.map_cons, List.nodup_cons]
    constructor
    · intro again
      obtain ⟨entry, mem, same⟩ := List.mem_map.mp again
      exact absurd same (by simpa using (List.mem_filter.mp mem).2)
    · exact keyed.distinct.sublist (List.filter_sublist.map _)
  · intro entry mem
    rcases List.mem_cons.mp mem with rfl | mem
    · rfl
    · exact keyed.lowercase entry (List.mem_filter.mp mem).1

theorem Built.keyed (built : Built converter entries) : Keyed converter := by
  have empty (registry : Registry) (options : GenerationOptions) :
      Keyed { registry, options } := ⟨List.nodup_nil, fun _ mem => absurd mem List.not_mem_nil⟩
  induction built with
  | fresh registry options => exact empty registry options
  | configured valid =>
    unfold ofConfig at valid
    split at valid
    · cases valid
    · cases valid
      exact List.foldlRecOn _ _ (empty _ _) fun _ keyed _ _ => keyed.insert _ _
  | registered built name backend ih => exact ih.insert name (.ready backend)

/-! ## The latest registration -/

theorem mem_of_latest? (latest : latest? key entries = some (name, slot)) :
    (name, slot) ∈ entries ∧ Text.lowercase name = key := by
  have same := List.find?_some latest
  exact ⟨List.mem_reverse.mp (List.mem_of_find?_eq_some latest), of_decide_eq_true same⟩

theorem latest?_eq_none_iff :
    latest? key entries = none ↔ ∀ entry ∈ entries, Text.lowercase entry.1 ≠ key := by
  simp [latest?]

/-- Where no two names share a key, every registration is the latest. -/
theorem latest?_eq_some_iff_mem (distinct : (entries.map (Text.lowercase ·.1)).Nodup) :
    latest? key entries = some (name, slot) ↔
      (name, slot) ∈ entries ∧ Text.lowercase name = key := by
  refine ⟨mem_of_latest?, fun ⟨mem, same⟩ => ?_⟩
  cases latest : latest? key entries with
  | none =>
    have other := latest?_eq_none_iff.mp latest (name, slot) mem
    exact absurd same other
  | some found =>
    obtain ⟨mem', same'⟩ := mem_of_latest? latest
    exact congrArg some (List.inj_on_of_nodup_map distinct mem' mem (same'.trans same.symm))

/-! ## The names that are listed -/

/-- The listed names are those that still stand for their key. -/
theorem mem_models_iff (built : Built converter entries) :
    name ∈ converter.models ↔
      ∃ slot, latest? (Text.lowercase name) entries = some (name, slot) := by
  -- looking up a key and going through the table is the same, since no key occurs twice
  have found (key : String) (entry : String × Slot) :
      latest? key entries = some entry ↔ (key, entry) ∈ converter.slots := by
    rw [← built.holds key, lookup_eq_some_iff_mem built.keyed.distinct]
  simp only [models, List.mem_mergeSort, List.mem_map, found]
  constructor
  · rintro ⟨⟨key, name, slot⟩, mem, rfl⟩
    have same : key = Text.lowercase name := built.keyed.lowercase _ mem
    exact ⟨slot, same ▸ mem⟩
  · rintro ⟨slot, mem⟩
    exact ⟨_, mem, rfl⟩

theorem nodup_models (built : Built converter entries) : converter.models.Nodup := by
  have keys : (converter.slots.map (·.2.1)).map Text.lowercase = converter.slots.map (·.1) := by
    rw [List.map_map]
    exact List.map_congr_left fun entry mem => (built.keyed.lowercase entry mem).symm
  have names : (converter.slots.map (·.2.1)).Nodup :=
    .of_map Text.lowercase (keys ▸ built.keyed.distinct)
  exact (List.mergeSort_perm _ _).nodup_iff.mpr names

/-- The names are listed in the order of their bytes. -/
theorem pairwise_models (built : Built converter entries) :
    converter.models.Pairwise fun a b =>
      Text.Utf8.encode a.toList < Text.Utf8.encode b.toList := by
  have sorted : converter.models.Pairwise fun a b => decide (a ≤ b) = true := by
    refine List.pairwise_mergeSort ?_ ?_ _
    · intro a b c first second
      simp only [decide_eq_true_eq] at first second ⊢
      exact String.le_trans first second
    · intro a b
      simpa using String.le_total a b
  refine (sorted.and (nodup_models built)).imp ?_
  rintro a b ⟨notAfter, other⟩
  rw [Text.Utf8.encode_lt_encode_iff, ← String.lt_iff, ← String.not_le]
  exact fun back => other (String.le_antisymm (of_decide_eq_true notAfter) back)

/-! ## Selecting a model -/

/-- The backend in a slot of the given name, or why there is none. -/
def backendIn (name : String) : Slot → Except ConvertError Backend
  | .ready backend => .ok backend
  | .missingKey keyVariable => .error (.modelUnavailable name keyVariable)

/-- The backend that a selector reaches, or why it reaches none. -/
def chosen (converter : Converter) (model : String) : Except ConvertError Backend :=
  match converter.select? model with
  | none => .error (.unsupportedModel model)
  | some (name, slot) => backendIn name slot

/-- What a request comes to when that is settled. -/
def proceed {σ : Type} (converter : Converter) (request : ConversionRequest)
    (observer : Option (Observer σ)) (seen : σ) :
    Except ConvertError Backend → ObservedConversion σ
  | .ok backend => converter.ask request backend observer seen
  | .error error => { result := .error error, seen }

/-- A request that passes the checks comes to what its selector reaches. -/
theorem convertObserved_of_valid {σ : Type} (complete : request.Complete)
    (valid : converter.registry.validate request.code request.source = .valid)
    (observer : Option (Observer σ)) (seen : σ) :
    converter.convertObserved request observer seen =
      converter.proceed request observer seen (converter.chosen request.model) := by
  have incomplete : ¬ (!request.isComplete) = true := by
    rw [ConversionRequest.isComplete_iff.mpr complete]
    decide
  rw [convertObserved, if_neg incomplete, valid, chosen]
  cases converter.select? request.model with
  | none => rfl
  | some found =>
    obtain ⟨name, slot⟩ := found
    cases slot <;> rfl

/-- Whatever is in a slot, its model is known. -/
theorem result_proceed_ne_unsupported {σ : Type} (request : ConversionRequest)
    (observer : Option (Observer σ)) (seen : σ) (name : String) (slot : Slot) (unknown : String) :
    (converter.proceed request observer seen (backendIn name slot)).result ≠
      .error (.unsupportedModel unknown) := by
  cases slot with
  | missingKey keyVariable => nofun
  | ready backend =>
    simp only [backendIn, proceed, ask]
    split <;> nofun

/-- Every listed name is that of its latest registration, and a selector reaches this registration
by the listed name if there are no blanks at the ends of the name. A name with blanks there is
listed all the same, but nothing selects its slot: the name is trimmed before it is looked up, so
that it stands for another model then or for none. -/
theorem listed_selectable_iff_trimmed (built : Built converter entries)
    (listed : name ∈ converter.models) :
    ∃ slot, (name, slot) ∈ entries ∧
      latest? (Text.lowercase name) entries = some (name, slot) ∧
      (Text.trim name = name →
        converter.select? name = some (name, slot) ∧
        ∀ (σ : Type) (request : ConversionRequest) (observer : Option (Observer σ)) (seen : σ),
          request.model = name → request.Complete →
          converter.registry.validate request.code request.source = .valid →
          converter.convertObserved request observer seen =
              converter.proceed request observer seen (backendIn name slot) ∧
            ∀ unknown, (converter.convertObserved request observer seen).result ≠
              .error (.unsupportedModel unknown)) ∧
      (Text.trim name ≠ name →
        (∀ model, converter.select? model ≠ some (name, slot)) ∧
        converter.select? name = latest? (Text.lowercase (Text.trim name)) entries ∧
        (latest? (Text.lowercase (Text.trim name)) entries = none →
          ∀ (σ : Type) (request : ConversionRequest) (observer : Option (Observer σ)) (seen : σ),
            request.model = name → request.Complete →
            converter.registry.validate request.code request.source = .valid →
            converter.convertObserved request observer seen =
              { result := .error (.unsupportedModel name), seen })) := by
  obtain ⟨slot, latest⟩ := (mem_models_iff built).mp listed
  have selected := select?_of_built built name
  refine ⟨slot, (mem_of_latest? latest).1, latest, ?_, ?_⟩
  · intro trimmed
    rw [trimmed, latest] at selected
    refine ⟨selected, ?_⟩
    rintro σ request observer seen rfl complete valid
    have answered : converter.convertObserved request observer seen =
        converter.proceed request observer seen (backendIn request.model slot) := by
      rw [convertObserved_of_valid complete valid, chosen, selected]
    refine ⟨answered, fun unknown => ?_⟩
    rw [answered]
    exact result_proceed_ne_unsupported request observer seen request.model slot unknown
  · intro padded
    -- selectors are trimmed, and the key of a padded name is that of no trimmed text
    refine ⟨?_, selected, ?_⟩
    · intro model found
      rw [select?_of_built built] at found
      exact Text.lowercase_trim_ne padded model (mem_of_latest? found).2.symm
    · rintro unknown σ request observer seen rfl complete valid
      rw [convertObserved_of_valid complete valid, chosen, selected, unknown]
      rfl

/-- A configuration of one model, whose name begins with a blank. -/
def paddedConfig : ConverterConfig where
  models := [⟨" GPT", ⟨.gemini, "http://x"⟩, "m", "X_API_KEY"⟩]

/-- It describes a converter, with the model without a key for its only registration. -/
theorem exists_ofConfig_padded (transport : Transport) :
    ∃ converter, ofConfig paddedConfig [] transport = .ok converter ∧
      Built converter [(" GPT", .missingKey "X_API_KEY")] ∧ converter.registry = .builtin := by
  have accepted : paddedConfig.validate = .ok () := by decide +kernel
  obtain ⟨converter, configured, builtin⟩ := ofConfig_of_valid accepted [] transport
  have entries : configuredEntries paddedConfig [] transport =
      [(" GPT", .missingKey "X_API_KEY")] := rfl
  have built := Built.configured configured
  rw [entries] at built
  exact ⟨converter, configured, built, builtin⟩

/-- A backend that is registered afterwards can be selected, and the model before it cannot. -/
theorem listed_selectable_after_padded :
    ∃ converter, Built converter
        [(" GPT", .missingKey "X_API_KEY"), ("Echo", .ready (echo "parrot"))] ∧
      "Echo" ∈ converter.models ∧
      (∃ backend, converter.select? "Echo" = some ("Echo", .ready backend)) ∧
      " GPT" ∈ converter.models ∧
      ∀ model, converter.select? model ≠ some (" GPT", .missingKey "X_API_KEY") := by
  obtain ⟨converter, -, built, -⟩ := exists_ofConfig_padded fun _ _ => none
  have built := built.registered "Echo" (echo "parrot")
  have distinct : ([(" GPT", .missingKey "X_API_KEY"), ("Echo", .ready (echo "parrot"))].map
      fun entry : String × Slot => Text.lowercase entry.1).Nodup :=
    (by decide : [Text.lowercase " GPT", Text.lowercase "Echo"].Nodup)
  have echoed : "Echo" ∈ (converter.withBackend "Echo" (echo "parrot")).models :=
    (mem_models_iff built).mpr ⟨_, (latest?_eq_some_iff_mem distinct).mpr
      ⟨List.mem_cons_of_mem _ List.mem_cons_self, rfl⟩⟩
  have padded : " GPT" ∈ (converter.withBackend "Echo" (echo "parrot")).models :=
    (mem_models_iff built).mpr ⟨_, (latest?_eq_some_iff_mem distinct).mpr
      ⟨List.mem_cons_self, rfl⟩⟩
  refine ⟨_, built, echoed, ?_, padded, ?_⟩
  · obtain ⟨slot, mem, -, selectable, -⟩ := listed_selectable_iff_trimmed built echoed
    have ready : slot = .ready (echo "parrot") := by simpa using mem
    exact ⟨echo "parrot", ready ▸ (selectable (by decide)).1⟩
  · obtain ⟨slot, mem, -, -, lost⟩ := listed_selectable_iff_trimmed built padded
    have keyless : slot = .missingKey "X_API_KEY" := by simpa using mem
    exact keyless ▸ (lost (by decide)).1

/-- The model is listed, and its name is that of no model. -/
theorem listed_unsupported :
    ∃ converter, ofConfig paddedConfig [] (fun _ _ => none) = .ok converter ∧
      " GPT" ∈ converter.models ∧
      let request : ConversionRequest := ⟨"print 1", "Basic", "Python", " GPT", none⟩
      request.Complete ∧
        converter.registry.validate request.code request.source = .valid ∧
        (converter.convert request).result = .error (.unsupportedModel " GPT") := by
  obtain ⟨converter, configured, built, builtin⟩ := exists_ofConfig_padded fun _ _ => none
  have listed : " GPT" ∈ converter.models :=
    (mem_models_iff built).mpr ⟨_, (latest?_append_singleton _ [] _ _).trans (if_pos rfl)⟩
  have other : Text.lowercase " GPT" ≠ Text.lowercase (Text.trim " GPT") := by decide
  have unknown : converter.select? " GPT" = none := by
    rw [select?_of_built built]
    exact (latest?_append_singleton _ [] _ _).trans (if_neg other)
  have unlisted : (SpellingIndex.addAll [] 0 Catalogue.all).lookup
      (Text.lowercase (Text.trim "Basic")) = none := by decide
  have valid : converter.registry.validate "print 1" "Basic" = .valid := by
    rw [builtin, Registry.builtin_validate_of_unlisted _ unlisted]
  have complete :
      (⟨"print 1", "Basic", "Python", " GPT", none⟩ : ConversionRequest).Complete := by
    rw [← ConversionRequest.isComplete_iff]
    decide
  refine ⟨converter, configured, listed, complete, valid, ?_⟩
  rw [convert, convertObserved_of_valid complete valid, chosen, unknown]
  rfl

end Polyglot.Converter
