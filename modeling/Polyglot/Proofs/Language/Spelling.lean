import Mathlib.Data.List.Pairwise
import Polyglot.Proofs.Language.Agreement

/-!
# What a spelling stands for

Names and aliases are entered in turn, names taking their spelling over and aliases giving way, so
what the index holds in the end comes of how they were mixed. `definitionAt?` says it at once: the
last definition of that name, and only without one the first that has such an alias. The index
agrees with it whatever collides (`lookup_agrees`), by induction on the definition that was entered
last, and so does the language that a spelling is resolved to
(**`resolve_eq_last_name_or_first_alias`**). Where nothing collides, it says no more than which
definition has the spelling (`definitionAt?_eq_some_iff`).
-/

namespace Polyglot

/-- What a language can be called, in lowercase: its name and its aliases. -/
def LanguageDefinition.spellings (definition : LanguageDefinition) : List String :=
  (definition.name :: definition.aliases).map Text.lowercase

namespace Registry

variable {engine : PatternEngine} {definitions : List LanguageDefinition} {registry : Registry}
  {key : String}

/-- The definition that a spelling in lowercase stands for: the last one of that name, and if there
is none the first one with such an alias. -/
def definitionAt? (definitions : List LanguageDefinition) (key : String) :
    Option LanguageDefinition :=
  (definitions.reverse.find? (Text.lowercase ·.name = key)).or
    (definitions.find? (key ∈ ·.aliases.map Text.lowercase))

/-- One more definition takes over the spelling of its name, and stands for those of its aliases
that stood for nothing. -/
theorem definitionAt?_concat (definitions : List LanguageDefinition)
    (definition : LanguageDefinition) (key : String) :
    definitionAt? (definitions ++ [definition]) key =
      (if Text.lowercase definition.name = key then some definition else none).or
        ((definitionAt? definitions key).or
          (if key ∈ definition.aliases.map Text.lowercase then some definition else none)) := by
  simp only [definitionAt?, List.reverse_append, List.reverse_singleton, List.find?_append,
    List.find?_singleton, decide_eq_true_eq, Option.or_assoc]

/-- A name beats every alias. -/
theorem definitionAt?_of_name {definition : LanguageDefinition} (listed : definition ∈ definitions)
    (spelled : Text.lowercase definition.name = key) :
    ∃ named ∈ definitions, Text.lowercase named.name = key ∧
      definitionAt? definitions key = some named := by
  rw [definitionAt?]
  cases last : definitions.reverse.find? (Text.lowercase ·.name = key) with
  | none =>
    have other := List.find?_eq_none.mp last definition (List.mem_reverse.mpr listed)
    exact absurd (decide_eq_true spelled) other
  | some named =>
    exact ⟨named, List.mem_reverse.mp (List.mem_of_find?_eq_some last),
      of_decide_eq_true (List.find?_some last :), rfl⟩

/-- Where all spellings differ, each stands for the definition that has it. -/
theorem definitionAt?_eq_some_iff
    (distinct : (definitions.flatMap LanguageDefinition.spellings).Nodup)
    {definition : LanguageDefinition} :
    definitionAt? definitions key = some definition ↔
      definition ∈ definitions ∧ key ∈ definition.spellings := by
  have sound : ∀ found, definitionAt? definitions key = some found →
      found ∈ definitions ∧ key ∈ found.spellings := by
    intro found held
    rcases Option.or_eq_some_iff.mp held with named | ⟨-, called⟩
    · have spelled := List.find?_some named
      rw [decide_eq_true_eq] at spelled
      rw [← spelled]
      exact ⟨List.mem_reverse.mp (List.mem_of_find?_eq_some named), List.mem_cons_self⟩
    · have spelled := List.find?_some called
      rw [decide_eq_true_eq] at spelled
      exact ⟨List.mem_of_find?_eq_some called, List.mem_cons_of_mem _ spelled⟩
  refine ⟨sound definition, ?_⟩
  rintro ⟨listed, spelled⟩
  cases held : definitionAt? definitions key with
  | none =>
    -- neither the names nor the aliases have the spelling
    rw [definitionAt?, Option.or_eq_none_iff, List.find?_eq_none, List.find?_eq_none] at held
    rcases List.mem_cons.mp spelled with rfl | called
    · exact absurd (by simp) (held.1 definition (List.mem_reverse.mpr listed))
    · exact absurd (decide_eq_true called) (held.2 definition listed)
  | some found =>
    obtain ⟨listed', spelled'⟩ := sound found held
    by_contra other
    have apart : found ≠ definition := by
      intro same
      exact other (congrArg some same)
    have : Std.Symm (Function.onFun List.Disjoint LanguageDefinition.spellings) :=
      ⟨fun _ _ disjoint _ here there => disjoint there here⟩
    exact (List.nodup_flatMap.mp distinct).2.forall listed' listed apart spelled' spelled

/-! ## The index -/

section

variable {α β γ : Type} {R : α → β → Prop} {S : γ → β → Prop} {a a' : Option α} {b b' : Option β}

/-- Alternatives are tried on both sides alike. -/
theorem rel_or (first : Option.Rel R a b) (second : Option.Rel R a' b') :
    Option.Rel R (a.or a') (b.or b') := by
  cases first with
  | some related => exact .some related
  | none => exact second

theorem rel_bind {f : α → Option γ} (step : ∀ a b, R a b → Option.Rel S (f a) (some b))
    (related : Option.Rel R a b) : Option.Rel S (a.bind f) b := by
  cases related with
  | some related => exact step _ _ related
  | none => exact .none

theorem map_eq_of_rel {f : α → γ} {g : β → γ} (same : ∀ a b, R a b → f a = g b)
    (related : Option.Rel R a b) : a.map f = b.map g := by
  cases related with
  | some related => exact congrArg some (same _ _ related)
  | none => rfl

end

theorem addAll_concat (index : SpellingIndex) (place : Nat)
    (definitions : List LanguageDefinition) (definition : LanguageDefinition) :
    index.addAll place (definitions ++ [definition]) =
      (index.addAll place definitions).addDefinition definition (place + definitions.length) := by
  induction definitions generalizing index place with
  | nil => rfl
  | cons first definitions ih =>
    rw [List.cons_append, SpellingIndex.addAll, ih, SpellingIndex.addAll, List.length_cons,
      Nat.add_right_comm, Nat.add_assoc]

/-- Under every spelling stands the place of the definition that it stands for. -/
theorem lookup_agrees (definitions : List LanguageDefinition) (key : String) :
    Option.Rel (fun place definition => definitions[place]? = some definition)
      ((SpellingIndex.addAll [] 0 definitions).lookup key) (definitionAt? definitions key) := by
  induction definitions using List.reverseRecOn with
  | nil => exact .none
  | append_singleton definitions definition ih =>
    rw [addAll_concat, SpellingIndex.lookup_addDefinition, definitionAt?_concat, Nat.zero_add]
    have entered (condition : Prop) [Decidable condition] :
        Option.Rel (fun place found => (definitions ++ [definition])[place]? = some found)
          (if condition then some definitions.length else none)
          (if condition then some definition else none) := by
      split
      · exact .some List.getElem?_concat_length
      · exact .none
    -- the definitions before keep their places
    have kept := rel_bind (S := fun place found =>
      (definitions ++ [definition])[place]? = some found) (f := some) (fun place found there => by
        obtain ⟨within, -⟩ := List.getElem?_eq_some_iff.mp there
        exact .some ((List.getElem?_append_left within).trans there)) ih
    rw [Option.bind_fun_some] at kept
    exact rel_or (entered _) (rel_or kept (entered _))

/-! ## The registry -/

section

variable (built : ofDefinitions definitions engine = .ok registry)

include built

/-- Under every spelling stands the profile of the definition that it stands for. -/
theorem profileAt?_agrees (key : String) :
    Option.Rel (fun profile definition => definition.profile engine = .ok profile)
      (registry.profileAt? key) (definitionAt? definitions key) := by
  rw [profileAt?, (ofDefinitions_eq_ok_iff.mp built).2]
  refine rel_bind (fun place definition there => ?_) (lookup_agrees definitions key)
  obtain ⟨profile, held, read⟩ := getElem?_profiles built there
  rw [held]
  exact .some read

theorem resolve_eq (spelling : String) :
    registry.resolve spelling =
      (definitionAt? definitions (Text.lowercase (Text.trim spelling))).map (⟨·.name⟩) := by
  refine map_eq_of_rel (fun profile definition read => ?_) (profileAt?_agrees built _)
  exact LanguageDefinition.language_of_profile read

/-- If no two names are spelled alike, the index holds the place of every profile under the name of
its language. -/
theorem lookup_of_distinct (distinct : (definitions.map (Text.lowercase ·.name)).Nodup)
    {place : Nat} {profile : LanguageProfile} (there : registry.profiles[place]? = some profile) :
    registry.index.lookup (Text.lowercase profile.language.name) = some place := by
  have held := profileAt?_of_distinct built distinct (List.mem_of_getElem? there)
  obtain ⟨place', found, there'⟩ := Option.bind_eq_some_iff.mp held
  have names : (registry.profiles.map (·.language.name)).Nodup := by
    rw [names_eq built]
    exact List.Nodup.of_map Text.lowercase (by rwa [List.map_map])
  obtain ⟨within, -⟩ := List.getElem?_eq_some_iff.mp there
  have same := (List.getElem?_inj within (names.of_map _)).mp (there.trans there'.symm)
  rw [found, same]

/-- Whatever collides, a spelling is resolved to the last language of that name, and if there is
none to the first with such an alias. If no two names are spelled alike, every language is on record
with its own profile. -/
theorem resolve_eq_last_name_or_first_alias :
    (∀ spelling, registry.resolve spelling =
      ((definitions.reverse.find? fun definition =>
          Text.lowercase definition.name = Text.lowercase (Text.trim spelling)).or
        (definitions.find? fun definition =>
          Text.lowercase (Text.trim spelling) ∈ definition.aliases.map Text.lowercase)).map
        fun definition => ⟨definition.name⟩) ∧
    (∀ spelling, ∀ definition ∈ definitions,
      Text.lowercase definition.name = Text.lowercase (Text.trim spelling) →
      ∃ named ∈ definitions, Text.lowercase named.name = Text.lowercase (Text.trim spelling) ∧
        registry.resolve spelling = some ⟨named.name⟩) ∧
    ((definitions.map (Text.lowercase ·.name)).Nodup →
      ∀ (place : Nat) (profile : LanguageProfile), registry.profiles[place]? = some profile →
        registry.index.lookup (Text.lowercase profile.language.name) = some place ∧
          registry.profile? profile.language = some profile) := by
  refine ⟨resolve_eq built, ?_, ?_⟩
  · intro spelling definition listed spelled
    obtain ⟨named, listed', spelled', found⟩ := definitionAt?_of_name listed spelled
    refine ⟨named, listed', spelled', ?_⟩
    rw [resolve_eq built, found, Option.map_some]
  · intro distinct place profile there
    exact ⟨lookup_of_distinct built distinct there,
      profileAt?_of_distinct built distinct (List.mem_of_getElem? there)⟩

end

/-- Two names are spelled alike and are an alias of a third language, of whose name one of them has
an alias; two share an alias. -/
def homographs : List LanguageDefinition := [
  { name := "Alpha", aliases := ["beta", "common", "Common"], fileExtension := "a",
    markers := ["x"], signature := "x" },
  { name := "BETA", aliases := ["alpha", "common"], fileExtension := "b", markers := ["y"],
    signature := "y" },
  { name := "Beta", fileExtension := "b", markers := ["z"], signature := "z" }]

theorem resolve_homographs :
    (∃ registry, ofDefinitions homographs = .ok registry ∧
      registry.resolve "Beta\n" = some ⟨"Beta"⟩ ∧ registry.resolve "alpha" = some ⟨"Alpha"⟩ ∧
      registry.resolve " COMMON" = some ⟨"Alpha"⟩ ∧ registry.resolve "gamma" = none) ∧
    ∃ registry, ofDefinitions homonyms = .ok registry ∧
      (homonyms.map (Text.lowercase ·.name)).Nodup ∧
      ∀ (place : Nat) (profile : LanguageProfile), registry.profiles[place]? = some profile →
        registry.index.lookup (Text.lowercase profile.language.name) = some place ∧
          registry.profile? profile.language = some profile := by
  constructor
  · obtain ⟨registry, built⟩ : ∃ registry, ofDefinitions homographs = .ok registry := ⟨_, rfl⟩
    obtain ⟨resolved, -, -⟩ := resolve_eq_last_name_or_first_alias built
    refine ⟨registry, built, ?_, ?_, ?_, ?_⟩ <;> rw [resolved] <;> decide
  · obtain ⟨registry, built⟩ : ∃ registry, ofDefinitions homonyms = .ok registry := ⟨_, rfl⟩
    have distinct : (homonyms.map (Text.lowercase ·.name)).Nodup := by decide
    obtain ⟨-, -, recorded⟩ := resolve_eq_last_name_or_first_alias built
    exact ⟨registry, built, distinct, recorded distinct⟩

end Registry

end Polyglot
