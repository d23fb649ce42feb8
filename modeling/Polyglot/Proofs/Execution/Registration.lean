import Polyglot.Execution.Dispatcher
import Polyglot.Proofs.Language.Ranking
import Polyglot.Proofs.Language.Validity
import Polyglot.Proofs.Lookup

/-!
# Which toolchain a language has

A dispatcher starts out with the stock toolchains of a registry, and others are registered by name
afterwards. `Equipped` records the calls that do so, in order, and **`toolchain?_of_equipped`** says
what the dispatcher makes of them: a language has the toolchain that was last registered for it,
under whichever of its names, or else its stock toolchain.

Toolchains only ever come in by being put in, so what one insertion keeps is kept by all of them
(`ofRegistry_induction`, `registerAll_induction`): the limit, and that no language has two
toolchains (`Distinct`). **`last_registration_counts`** says what that makes of a sequence of
registrations with the stock dispatcher, for running code and for the list of languages.
-/

namespace Polyglot.Dispatcher

/-! ## Histories -/

/-- A dispatcher over the languages of a registry, and the toolchains that it was given with the
names that they were given for, from the first to the last. -/
inductive Equipped (registry : Registry) : Dispatcher → List (String × Toolchain) → Prop
  | stock (timeout : Duration) : Equipped registry (ofRegistry registry timeout) []
  | registered {dispatcher : Dispatcher} {calls : List (String × Toolchain)}
      (equipped : Equipped registry dispatcher calls) (name : String) (toolchain : Toolchain) :
      Equipped registry (dispatcher.withToolchain name toolchain) (calls ++ [(name, toolchain)])
  | limited {dispatcher : Dispatcher} {calls : List (String × Toolchain)}
      (equipped : Equipped registry dispatcher calls) (timeout : Duration) :
      Equipped registry (dispatcher.withTimeout timeout) calls

variable {registry : Registry} {dispatcher : Dispatcher} {calls : List (String × Toolchain)}
  {entries : List (Language × Toolchain)}

/-- The stock toolchains of the registry's languages. -/
def stockEntries (registry : Registry) : List (Language × Toolchain) :=
  registry.profiles.filterMap fun profile =>
    (Toolchain.ofProfile? profile).map (profile.language, ·)

/-- What calls register; a name of no language registers nothing. -/
def calledEntries (registry : Registry) (calls : List (String × Toolchain)) :
    List (Language × Toolchain) :=
  calls.filterMap fun (name, toolchain) => (registry.resolve name).map (·, toolchain)

theorem calledEntries_singleton (registry : Registry) (name : String) (toolchain : Toolchain) :
    calledEntries registry [(name, toolchain)] =
      ((registry.resolve name).map (·, toolchain)).toList := by
  rw [calledEntries, List.filterMap_cons]
  dsimp only
  cases registry.resolve name with
  | none => rfl
  | some language => rfl

theorem calledEntries_append (registry : Registry) (calls others : List (String × Toolchain)) :
    calledEntries registry (calls ++ others) =
      calledEntries registry calls ++ calledEntries registry others :=
  List.filterMap_append

/-- The toolchain that was registered last for a language. -/
def registered? (registry : Registry) (calls : List (String × Toolchain)) (language : Language) :
    Option Toolchain :=
  (stockEntries registry ++ calledEntries registry calls).reverse.lookup language

/-! ## The table of toolchains -/

/-- The dispatcher has the last registration for every language of the registry. -/
structure Holds (registry : Registry) (dispatcher : Dispatcher)
    (entries : List (Language × Toolchain)) : Prop where
  registry_eq : dispatcher.registry = registry
  toolchain? : ∀ language, dispatcher.toolchain? language = entries.reverse.lookup language

theorem Holds.insert (holds : Holds registry dispatcher entries) (language : Language)
    (toolchain : Toolchain) :
    Holds registry (dispatcher.insert language toolchain) (entries ++ [(language, toolchain)]) where
  registry_eq := holds.registry_eq
  toolchain? other := by
    rw [Dispatcher.toolchain?, Dispatcher.insert, lookup_replace, List.reverse_append,
      List.reverse_singleton, List.singleton_append, List.lookup_cons, List.lookup_cons,
      ← holds.toolchain? other]
    rfl

/-- Registration by name. -/
theorem Holds.withToolchain (holds : Holds registry dispatcher entries) (name : String)
    (toolchain : Toolchain) :
    Holds registry (dispatcher.withToolchain name toolchain)
      (entries ++ calledEntries registry [(name, toolchain)]) := by
  unfold Dispatcher.withToolchain
  rw [calledEntries_singleton, holds.registry_eq]
  cases registry.resolve name with
  | none =>
    rw [Option.map_none, Option.toList_none, List.append_nil]
    exact holds
  | some language => exact holds.insert language toolchain

/-- The stock toolchains are put in one after another. -/
theorem holds_ofRegistry (registry : Registry) (timeout : Duration) :
    Holds registry (ofRegistry registry timeout) (stockEntries registry) := by
  unfold ofRegistry stockEntries
  have start : Holds registry { registry, timeout } [] := ⟨rfl, fun _ => rfl⟩
  rw [← List.nil_append (List.filterMap _ _)]
  -- the induction goes over any dispatcher that the profiles are added to
  generalize ({ registry, timeout } : Dispatcher) = dispatcher at start ⊢
  generalize [] = entries at start ⊢
  generalize registry.profiles = profiles
  induction profiles generalizing dispatcher entries with
  | nil =>
    rw [List.filterMap_nil, List.append_nil]
    exact start
  | cons profile profiles ih =>
    rw [List.foldl_cons, List.filterMap_cons]
    cases Toolchain.ofProfile? profile with
    | none => exact ih dispatcher entries start
    | some toolchain =>
      have inserted := ih _ _ (start.insert profile.language toolchain)
      rw [List.append_assoc] at inserted
      exact inserted

theorem Equipped.holds (equipped : Equipped registry dispatcher calls) :
    Holds registry dispatcher (stockEntries registry ++ calledEntries registry calls) := by
  induction equipped with
  | stock timeout =>
    rw [calledEntries, List.filterMap_nil, List.append_nil]
    exact holds_ofRegistry registry timeout
  | @registered dispatcher calls equipped name toolchain ih =>
    rw [calledEntries_append, ← List.append_assoc]
    exact ih.withToolchain name toolchain
  | limited equipped timeout ih => exact ⟨ih.registry_eq, ih.toolchain?⟩

/-- A language has the toolchain that was registered last for it. -/
theorem toolchain?_of_equipped (equipped : Equipped registry dispatcher calls)
    (language : Language) :
    dispatcher.toolchain? language = registered? registry calls language :=
  equipped.holds.toolchain? language

/-! ## Registrations one after another -/

/-- Toolchains registered by name, from the first to the last. -/
def registerAll (dispatcher : Dispatcher) (calls : List (String × Toolchain)) : Dispatcher :=
  calls.foldl (fun dispatcher call => dispatcher.withToolchain call.1 call.2) dispatcher

theorem registerAll_concat (dispatcher : Dispatcher) (calls : List (String × Toolchain))
    (name : String) (toolchain : Toolchain) :
    dispatcher.registerAll (calls ++ [(name, toolchain)]) =
      (dispatcher.registerAll calls).withToolchain name toolchain := by
  simp [registerAll]

theorem Equipped.registerAll (equipped : Equipped registry dispatcher calls)
    (others : List (String × Toolchain)) :
    Equipped registry (dispatcher.registerAll others) (calls ++ others) := by
  induction others using List.reverseRecOn with
  | nil =>
    rw [List.append_nil]
    exact equipped
  | append_singleton others call ih =>
    obtain ⟨name, toolchain⟩ := call
    rw [registerAll_concat, ← List.append_assoc]
    exact ih.registered name toolchain

theorem registry_withToolchain (dispatcher : Dispatcher) (name : String) (toolchain : Toolchain) :
    (dispatcher.withToolchain name toolchain).registry = dispatcher.registry := by
  unfold Dispatcher.withToolchain
  split <;> rfl

theorem withToolchain_of_unknown {name : String} (unknown : dispatcher.registry.resolve name = none)
    (toolchain : Toolchain) : dispatcher.withToolchain name toolchain = dispatcher := by
  simp only [Dispatcher.withToolchain, unknown]

/-- Names of no language change nothing, wherever they stand among the others. -/
theorem registerAll_filter (dispatcher : Dispatcher) (calls : List (String × Toolchain)) :
    dispatcher.registerAll (calls.filter fun call => (dispatcher.registry.resolve call.1).isSome) =
      dispatcher.registerAll calls := by
  induction calls generalizing dispatcher with
  | nil => rfl
  | cons call calls ih =>
    have later := ih (dispatcher.withToolchain call.1 call.2)
    rw [registry_withToolchain] at later
    cases known : dispatcher.registry.resolve call.1 with
    | none =>
      rw [withToolchain_of_unknown known] at later
      rw [List.filter_cons_of_neg (by simp [known]), later]
      simp only [registerAll, List.foldl_cons, withToolchain_of_unknown known]
    | some language =>
      rw [List.filter_cons_of_pos (by simp [known])]
      exact later

/-- What holds without any toolchain, and goes on to hold when one is put in, holds with the stock
toolchains. -/
theorem ofRegistry_induction {P : Dispatcher → Prop} {timeout : Duration}
    (bare : P { registry, timeout })
    (put : ∀ dispatcher language toolchain,
      P dispatcher → P (dispatcher.insert language toolchain)) :
    P (ofRegistry registry timeout) := by
  unfold ofRegistry
  generalize ({ registry, timeout } : Dispatcher) = dispatcher at bare ⊢
  generalize registry.profiles = profiles
  induction profiles generalizing dispatcher with
  | nil => exact bare
  | cons profile profiles ih =>
    rw [List.foldl_cons]
    apply ih
    split
    · exact put _ _ _ bare
    · exact bare

/-- It holds with further toolchains, too. -/
theorem registerAll_induction {P : Dispatcher → Prop} (start : P dispatcher)
    (put : ∀ dispatcher language toolchain, P dispatcher → P (dispatcher.insert language toolchain))
    (calls : List (String × Toolchain)) : P (dispatcher.registerAll calls) := by
  induction calls generalizing dispatcher with
  | nil => exact start
  | cons call calls ih =>
    rw [registerAll, List.foldl_cons]
    apply ih
    unfold Dispatcher.withToolchain
    split
    · exact put _ _ _ start
    · exact start

/-- Putting toolchains in leaves the limit alone. -/
theorem timeout_registerAll (dispatcher : Dispatcher) (calls : List (String × Toolchain)) :
    (dispatcher.registerAll calls).timeout = dispatcher.timeout := by
  apply registerAll_induction (P := fun later => later.timeout = dispatcher.timeout) rfl
  intro later language toolchain same
  exact same

theorem timeout_stock : stock.timeout = stockTimeout := by
  rw [stock]
  apply ofRegistry_induction (P := fun dispatcher => dispatcher.timeout = stockTimeout) rfl
  intro dispatcher language toolchain same
  exact same

/-- No language has two toolchains. -/
def Distinct (dispatcher : Dispatcher) : Prop :=
  (dispatcher.toolchains.map (·.1)).Nodup

theorem Distinct.insert (distinct : dispatcher.Distinct) (language : Language)
    (toolchain : Toolchain) : (dispatcher.insert language toolchain).Distinct := by
  rw [Distinct, Dispatcher.insert, List.map_cons, List.nodup_cons]
  constructor
  · simp
  · exact List.Nodup.sublist (List.filter_sublist.map _) distinct

theorem distinct_registerAll (calls : List (String × Toolchain)) :
    (stock.registerAll calls).Distinct := by
  have start : stock.Distinct := by
    rw [stock]
    apply ofRegistry_induction (P := Distinct)
    · exact List.nodup_nil
    · intro dispatcher language toolchain distinct
      exact distinct.insert language toolchain
  apply registerAll_induction start
  intro dispatcher language toolchain distinct
  exact distinct.insert language toolchain

/-! ## The last registration -/

/-- The toolchain that a built-in language has from the start. -/
def stockToolchain? (language : Language) : Option Toolchain :=
  (Registry.builtin.profiles.find? (·.language = language)).bind Toolchain.ofProfile?

theorem mem_stockEntries {language : Language} {toolchain : Toolchain} :
    (language, toolchain) ∈ stockEntries registry ↔
      ∃ profile ∈ registry.profiles, profile.language = language ∧
        Toolchain.ofProfile? profile = some toolchain := by
  simp only [stockEntries, List.mem_filterMap, Option.map_eq_some_iff, Prod.mk.injEq]
  constructor
  · rintro ⟨profile, listed, toolchain, held, rfl, rfl⟩
    exact ⟨profile, listed, rfl, held⟩
  · rintro ⟨profile, listed, rfl, held⟩
    exact ⟨profile, listed, toolchain, held, rfl, rfl⟩

theorem pairwise_builtin_languages :
    Registry.builtin.profiles.Pairwise fun profile other => profile.language ≠ other.language := by
  have names : (Registry.builtin.profiles.map (·.language.name)).Nodup := by
    rw [Registry.names_eq Registry.builtin_built]
    apply List.Nodup.of_map Text.lowercase
    rw [List.map_map]
    exact Catalogue.names_distinct
  rw [List.Nodup, List.pairwise_map] at names
  apply names.imp
  intro profile other different same
  exact different (congrArg Language.name same)

/-- The last stock entry of a built-in language is its only one. -/
theorem lookup_stockEntries (language : Language) :
    (stockEntries .builtin).reverse.lookup language = stockToolchain? language := by
  -- no two entries are of one language, so the order of the entries does not matter
  have distinct : ((stockEntries .builtin).reverse.map (·.1)).Nodup := by
    rw [List.map_reverse, List.nodup_reverse, List.Nodup, List.pairwise_map, stockEntries,
      List.pairwise_filterMap]
    apply pairwise_builtin_languages.imp
    intro profile other different entry held entry' held' same
    obtain ⟨toolchain, -, rfl⟩ := Option.map_eq_some_iff.mp held
    obtain ⟨toolchain', -, rfl⟩ := Option.map_eq_some_iff.mp held'
    exact different same
  apply Option.ext
  intro toolchain
  rw [lookup_eq_some_iff_mem distinct, List.mem_reverse, mem_stockEntries, stockToolchain?,
    Option.bind_eq_some_iff]
  constructor
  · rintro ⟨profile, listed, rfl, held⟩
    refine ⟨profile, ?_, held⟩
    cases found : Registry.builtin.profiles.find? (·.language = profile.language) with
    | none => exact absurd (decide_eq_true rfl) (List.find?_eq_none.mp found profile listed)
    | some other =>
      have named := List.find?_some found
      rw [decide_eq_true_eq] at named
      rw [Registry.eq_of_language Registry.builtin_built Catalogue.names_distinct
        (List.mem_of_find?_eq_some found) listed named]
  · rintro ⟨profile, found, held⟩
    have named := List.find?_some found
    rw [decide_eq_true_eq] at named
    exact ⟨profile, List.mem_of_find?_eq_some found, named, held⟩

/-- The calls say which toolchain was registered last. -/
theorem lookup_calledEntries (registry : Registry) (calls : List (String × Toolchain))
    (language : Language) :
    (calledEntries registry calls).reverse.lookup language =
      (calls.reverse.find? fun call => registry.resolve call.1 = some language).map (·.2) := by
  rw [calledEntries, ← List.filterMap_reverse]
  generalize calls.reverse = calls
  induction calls with
  | nil => rfl
  | cons call calls ih =>
    obtain ⟨name, toolchain⟩ := call
    rw [List.filterMap_cons, List.find?_cons]
    cases resolved : registry.resolve name with
    | none => simpa [resolved] using ih
    | some other =>
      simp only [Option.map_some, List.lookup_cons, resolved, Option.some.injEq]
      by_cases same : language = other
      · simp [same]
      · have missed : (language == other) = false := by simpa using same
        simp [missed, Ne.symm same, ih]

/-- The toolchain that was registered last for a language, or its stock toolchain. -/
theorem toolchain?_registerAll (calls : List (String × Toolchain)) (language : Language) :
    (stock.registerAll calls).toolchain? language =
      ((calls.reverse.find? fun call =>
        Registry.builtin.resolve call.1 = some language).map (·.2)).or
          (stockToolchain? language) := by
  have equipped : Equipped .builtin (stock.registerAll calls) calls :=
    (Equipped.stock stockTimeout).registerAll calls
  rw [toolchain?_of_equipped equipped, registered?, List.reverse_append, List.lookup_append,
    lookup_calledEntries, lookup_stockEntries]

/-! ## The languages that have a toolchain -/

theorem mem_supportedLanguages_iff {language : Language} :
    language ∈ dispatcher.supportedLanguages ↔ (dispatcher.toolchain? language).isSome = true := by
  rw [supportedLanguages, List.mem_mergeSort, toolchain?, List.lookup_isSome_iff, List.mem_map]
  constructor
  · rintro ⟨entry, listed, rfl⟩
    exact ⟨entry, listed, beq_self_eq_true _⟩
  · rintro ⟨entry, listed, same⟩
    exact ⟨entry, listed, (beq_iff_eq.mp same).symm⟩

/-- They are listed by name, each once. -/
theorem Distinct.pairwise_supportedLanguages (distinct : dispatcher.Distinct) :
    dispatcher.supportedLanguages.Pairwise fun a b => a.nameBytes < b.nameBytes := by
  have sorted : dispatcher.supportedLanguages.Pairwise fun a b => a.le b = true :=
    @List.pairwise_mergeSort _ Language.le (fun _ _ _ => Language.le_trans) Language.le_total _
  have once : dispatcher.supportedLanguages.Nodup :=
    (List.mergeSort_perm _ _).nodup_iff.mpr distinct
  apply (sorted.and once).imp
  rintro a b ⟨before, other⟩
  -- names with the same bytes are names of one language
  rcases List.le_iff_lt_or_eq.mp (Language.le_iff.mp before) with less | same
  · exact less
  · have back : b.le a = true := Language.le_iff.mpr (same ▸ List.le_refl _)
    exact absurd (Language.le_antisymm before back) other

/-! ## Runs -/

variable {σ : Type}

/-- Whatever toolchains are registered one after another, a language is run with the one that was
registered last under any of its names, or else with its stock toolchain. Names of no language
change nothing. The languages that have a toolchain are listed by name, each once. -/
theorem last_registration_counts (calls : List (String × Toolchain)) (workshop : Workshop σ)
    (code : String) (state : σ) :
    (∀ language, (stock.registerAll calls).execute? workshop code language state =
      (((calls.reverse.find? fun call =>
        Registry.builtin.resolve call.1 = some language).map (·.2)).or
          (stockToolchain? language)).map fun toolchain =>
            execution toolchain workshop stockTimeout code state) ∧
    (∀ name language, Registry.builtin.resolve name = some language ↔
      ∃ definition ∈ Catalogue.all, definition.name = language.name ∧
        Text.lowercase (Text.trim name) ∈
          (definition.name :: definition.aliases).map Text.lowercase) ∧
    stock.registerAll calls =
      stock.registerAll (calls.filter fun call => (Registry.builtin.resolve call.1).isSome) ∧
    ((stock.registerAll calls).supportedLanguages.Pairwise fun a b => a.nameBytes < b.nameBytes) ∧
    ∀ language, language ∈ (stock.registerAll calls).supportedLanguages ↔
      (stockToolchain? language).isSome = true ∨
        ∃ call ∈ calls, Registry.builtin.resolve call.1 = some language := by
  refine ⟨?_, ?_, ?_, (distinct_registerAll calls).pairwise_supportedLanguages, ?_⟩
  · intro language
    rw [execute?, toolchain?_registerAll, timeout_registerAll, timeout_stock]
  · intro name language
    exact Registry.builtin_resolve_eq_some_iff
  · have registry : stock.registry = .builtin := (Equipped.stock stockTimeout).holds.registry_eq
    have ignored := registerAll_filter stock calls
    rw [registry] at ignored
    exact ignored.symm
  · intro language
    rw [mem_supportedLanguages_iff, toolchain?_registerAll, Option.isSome_or, Bool.or_eq_true,
      Option.isSome_map, List.find?_isSome, or_comm]
    simp only [List.mem_reverse, decide_eq_true_eq]

end Polyglot.Dispatcher
