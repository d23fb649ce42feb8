import Mathlib.Data.List.Forall2
import Mathlib.Data.List.Nodup
import Polyglot.Language.Registry

/-!
# What a registry keeps

A registry that some definitions lead to keeps the profile that the engine makes of each of them, in
order (`ofDefinitions_eq_ok_iff`), and under each spelling that is the name of some definition the
place of the last one with that name (`lookup_index`); aliases make no difference there, whatever
they collide with. So a language is always on record, if perhaps with the profile of another one whose
name differs from its own in case only (`exists_profile?`), and with its own profile if no two
names are spelled alike (`profileAt?_of_distinct`).
-/

namespace Polyglot

variable {engine : PatternEngine} {definitions : List LanguageDefinition} {registry : Registry}
  {definition : LanguageDefinition} {profile : LanguageProfile} {language : Language}

/-! ## Compiling definitions -/

/-- Elements that have one related to them each have a list related to them. -/
theorem exists_forall₂ {α β : Type} {R : α → β → Prop} {as : List α}
    (each : ∀ a ∈ as, ∃ b, R a b) : ∃ bs, List.Forall₂ R as bs := by
  induction as with
  | nil => exact ⟨[], .nil⟩
  | cons a as ih =>
    obtain ⟨⟨b, here⟩, later⟩ := List.forall_mem_cons.mp each
    obtain ⟨bs, others⟩ := ih later
    exact ⟨b :: bs, .cons here others⟩

/-- In related lists every element on the left has one on the right related to it. -/
theorem exists_of_mem_forall₂_left {α β : Type} {R : α → β → Prop} {as : List α} {bs : List β}
    (related : List.Forall₂ R as bs) {a : α} (listed : a ∈ as) : ∃ b ∈ bs, R a b := by
  obtain ⟨place, within, rfl⟩ := List.mem_iff_getElem.mp listed
  have within' : place < bs.length := related.length_eq ▸ within
  exact ⟨bs[place], List.getElem_mem within', related.get within within'⟩

/-- And every element on the right has one on the left. -/
theorem exists_of_mem_forall₂ {α β : Type} {R : α → β → Prop} {as : List α} {bs : List β}
    (related : List.Forall₂ R as bs) {b : β} (listed : b ∈ bs) : ∃ a ∈ as, R a b :=
  exists_of_mem_forall₂_left related.flip listed

/-- A list is read when each of its elements is. -/
theorem mapM_eq_ok_iff {α β ε : Type} {read : α → Except ε β} {as : List α} {bs : List β} :
    as.mapM read = .ok bs ↔ List.Forall₂ (fun a b => read a = .ok b) as bs := by
  induction as generalizing bs with
  | nil =>
    rw [List.mapM_nil, List.forall₂_nil_left_iff]
    exact ⟨fun same => (Except.ok.inj same).symm, fun same => same ▸ rfl⟩
  | cons a as ih =>
    rw [List.mapM_cons, List.forall₂_cons_left_iff]
    -- the first element is read, then the others
    cases first : read a with
    | error fault =>
      constructor
      · nofun
      · rintro ⟨b, others, same, -⟩
        cases same
    | ok b =>
      cases later : as.mapM read with
      | error fault =>
        constructor
        · nofun
        · rintro ⟨-, others, -, rest, -⟩
          rw [ih.mpr rest] at later
          cases later
      | ok others =>
        constructor
        · intro same
          cases same
          exact ⟨b, others, rfl, ih.mp later, rfl⟩
        · rintro ⟨b', others', same, rest, rfl⟩
          cases same
          rw [ih.mpr rest] at later
          cases later
          rfl

/-- The profile is what the engine makes of the definition. -/
structure LanguageDefinition.Compiles (engine : PatternEngine) (definition : LanguageDefinition)
    (profile : LanguageProfile) : Prop where
  language : profile.language = ⟨definition.name⟩
  fileExtension : profile.fileExtension = definition.fileExtension
  markers : engine.compileSet definition.markers definition.ignoreCase = .ok profile.markers
  requires : engine.compileSet? definition.requires definition.ignoreCase = .ok profile.requires
  signature : engine.compile definition.signature = .ok profile.signature
  boosters : List.Forall₂
    (fun written booster => engine.compile written.1 = .ok booster.1 ∧ written.2 = booster.2)
    definition.boosters profile.boosters

theorem LanguageDefinition.profile_eq_ok_iff :
    definition.profile engine = .ok profile ↔ definition.Compiles engine profile := by
  have weighted (written : String × Int) (booster : Matcher × Int) :
      (engine.compile written.1).map (·, written.2) = .ok booster ↔
        engine.compile written.1 = .ok booster.1 ∧ written.2 = booster.2 := by
    cases engine.compile written.1 <;> simp [Except.map, Prod.ext_iff]
  unfold LanguageDefinition.profile
  simp only [bind, Except.bind]
  constructor
  · intro compiled
    -- the fields are compiled in turn, so each of them was compiled
    split at compiled
    · cases compiled
    next markers readMarkers =>
    split at compiled
    · cases compiled
    next requires readRequires =>
    split at compiled
    · cases compiled
    next boosters readBoosters =>
    split at compiled
    · cases compiled
    next signature readSignature =>
    cases compiled
    refine ⟨rfl, rfl, readMarkers, readRequires, readSignature, ?_⟩
    exact (mapM_eq_ok_iff.mp readBoosters).imp fun written booster => (weighted written booster).mp
  · rintro ⟨language, fileExtension, markers, requires, signature, boosters⟩
    have boosters := boosters.imp fun written booster => (weighted written booster).mpr
    rw [markers, requires, mapM_eq_ok_iff.mpr boosters, signature]
    obtain ⟨⟨_⟩, _⟩ := profile
    cases language
    cases fileExtension
    rfl

/-- A profile is of the language that its definition names. -/
theorem LanguageDefinition.language_of_profile
    (compiled : definition.profile engine = .ok profile) :
    profile.language = ⟨definition.name⟩ :=
  (profile_eq_ok_iff.mp compiled).language

namespace SpellingIndex

variable {index : SpellingIndex} {key : String} {place found : Nat}

/-! ## The index -/

/-- The place of the last name that is spelled like the key, the first name having the place
`first`. -/
def lastPlace? (key : String) (first : Nat) : List String → Option Nat
  | [] => none
  | name :: names =>
    (lastPlace? key (first + 1) names).or (if Text.lowercase name = key then some first else none)

/-- An alias gets its spelling only if nothing has it. -/
theorem lookup_addAlias (index : SpellingIndex) (spelling : String) (place : Nat) :
    (index.addAlias spelling place).lookup key =
      (index.lookup key).or (if Text.lowercase spelling = key then some place else none) := by
  unfold addAlias
  simp only
  by_cases same : Text.lowercase spelling = key
  · subst same
    rw [if_pos rfl]
    cases had : index.lookup (Text.lowercase spelling) with
    | none => exact List.lookup_cons_self
    | some found => exact had
  · rw [if_neg same, Option.or_none]
    split
    · rfl
    · rw [List.lookup_cons, beq_eq_false_iff_ne.mpr (Ne.symm same)]

/-- A definition takes over the spelling of its name, and of its aliases those that nothing has. -/
theorem lookup_addDefinition (index : SpellingIndex) (definition : LanguageDefinition)
    (place : Nat) :
    (index.addDefinition definition place).lookup key =
      (if Text.lowercase definition.name = key then some place else none).or
        ((index.lookup key).or
          (if key ∈ definition.aliases.map Text.lowercase then some place else none)) := by
  have named : (index.addName definition.name place).lookup key =
      (if Text.lowercase definition.name = key then some place else none).or
        (index.lookup key) := by
    rw [addName, List.lookup_cons]
    by_cases same : Text.lowercase definition.name = key
    · rw [if_pos same, beq_iff_eq.mpr same.symm, Option.some_or]
    · rw [if_neg same, beq_eq_false_iff_ne.mpr (Ne.symm same), Option.none_or]
  rw [← Option.or_assoc, ← named, addDefinition]
  -- the aliases are entered behind the name, and none of them replaces anything
  generalize index.addName definition.name place = index
  induction definition.aliases generalizing index with
  | nil => exact Option.or_none.symm
  | cons spelling spellings ih =>
    rw [List.foldl_cons, ih, lookup_addAlias, Option.or_assoc, List.map_cons]
    congr 1
    by_cases same : Text.lowercase spelling = key
    · rw [if_pos same, Option.some_or, if_pos (same ▸ List.mem_cons_self)]
    · rw [if_neg same, Option.none_or]
      simp only [List.mem_cons, Ne.symm same, false_or]

/-- Of all names with a spelling the last has it, and whatever had it before if there is none. -/
theorem lookup_addAll {definitions : List LanguageDefinition}
    (had : (lastPlace? key place (definitions.map (·.name))).or (index.lookup key) = some found) :
    (index.addAll place definitions).lookup key = some found := by
  induction definitions generalizing index place with
  | nil => exact had
  | cons definition definitions ih =>
    rw [List.map_cons, lastPlace?, Option.or_assoc] at had
    refine ih ?_
    rw [lookup_addDefinition]
    simp only [← Option.or_assoc] at had ⊢
    rw [had, Option.some_or]

/-- Some name with the spelling stands at the last place. -/
theorem getElem?_of_lastPlace? {names : List String} {first : Nat}
    (last : lastPlace? key first names = some found) :
    ∃ name, ∃ offset, found = first + offset ∧ names[offset]? = some name ∧
      Text.lowercase name = key := by
  induction names generalizing first with
  | nil => cases last
  | cons name names ih =>
    unfold lastPlace? at last
    cases later : lastPlace? key (first + 1) names with
    | some place =>
      rw [later, Option.some_or] at last
      cases last
      obtain ⟨other, offset, rfl, listed, spelled⟩ := ih later
      exact ⟨other, offset + 1, by omega, listed, spelled⟩
    | none =>
      rw [later, Option.none_or] at last
      split at last
      · next spelled =>
        cases last
        exact ⟨name, 0, rfl, rfl, spelled⟩
      · cases last

/-- A spelling that some name has has a last place. -/
theorem exists_lastPlace? {name : String} {names : List String} (listed : name ∈ names)
    (first : Nat) : ∃ place, lastPlace? (Text.lowercase name) first names = some place := by
  rw [← Option.isSome_iff_exists]
  induction names generalizing first with
  | nil => cases listed
  | cons other names ih =>
    rw [lastPlace?, Option.isSome_or, Bool.or_eq_true]
    obtain rfl | listed := List.mem_cons.mp listed
    · rw [if_pos rfl]
      exact .inr rfl
    · exact .inl (ih listed (first + 1))

end SpellingIndex

namespace Registry

/-! ## The profiles -/

/-- What a registry is made of, if the engine compiles the definitions. -/
theorem ofDefinitions_eq_ok_iff :
    ofDefinitions definitions engine = .ok registry ↔
      List.Forall₂ (fun definition profile => definition.profile engine = .ok profile) definitions
          registry.profiles ∧
        registry.index = SpellingIndex.addAll [] 0 definitions := by
  rw [← mapM_eq_ok_iff, ofDefinitions]
  cases read : definitions.mapM (·.profile engine) with
  | error fault =>
    constructor
    · nofun
    · rintro ⟨same, -⟩
      cases same
  | ok profiles =>
    constructor
    · intro same
      cases same
      exact ⟨rfl, rfl⟩
    · rintro ⟨same, indexed⟩
      cases same
      rw [← indexed]
      rfl

/-- The engine compiles definitions when it compiles each of them. -/
theorem exists_ofDefinitions_iff :
    (∃ registry, ofDefinitions definitions engine = .ok registry) ↔
      ∀ definition ∈ definitions, ∃ profile, definition.profile engine = .ok profile := by
  constructor
  · rintro ⟨registry, built⟩ definition listed
    obtain ⟨profile, -, read⟩ :=
      exists_of_mem_forall₂_left (ofDefinitions_eq_ok_iff.mp built).1 listed
    exact ⟨profile, read⟩
  · intro each
    obtain ⟨profiles, read⟩ := exists_forall₂ each
    exact ⟨⟨profiles, SpellingIndex.addAll [] 0 definitions⟩,
      ofDefinitions_eq_ok_iff.mpr ⟨read, rfl⟩⟩

/-- What stands under a spelling is one of the profiles. -/
theorem mem_of_profileAt? {key : String} (held : registry.profileAt? key = some profile) :
    profile ∈ registry.profiles := by
  obtain ⟨place, -, listed⟩ := Option.bind_eq_some_iff.mp held
  exact List.mem_of_getElem? listed

section

variable (built : ofDefinitions definitions engine = .ok registry)

include built

/-- The profiles are those of the definitions. -/
theorem mem_profiles_iff :
    profile ∈ registry.profiles ↔
      ∃ definition ∈ definitions, definition.profile engine = .ok profile := by
  have read := (ofDefinitions_eq_ok_iff.mp built).1
  refine ⟨exists_of_mem_forall₂ read, ?_⟩
  rintro ⟨definition, listed, own⟩
  obtain ⟨profile', listed', own'⟩ := exists_of_mem_forall₂_left read listed
  rw [own, Except.ok.injEq] at own'
  exact own' ▸ listed'

/-- Every profile stands at the place of its definition. -/
theorem getElem?_profiles {place : Nat} (there : definitions[place]? = some definition) :
    ∃ profile, registry.profiles[place]? = some profile ∧
      definition.profile engine = .ok profile := by
  have read := (ofDefinitions_eq_ok_iff.mp built).1
  obtain ⟨within, rfl⟩ := List.getElem?_eq_some_iff.mp there
  exact ⟨registry.profiles.get ⟨place, read.length_eq ▸ within⟩, List.getElem?_eq_getElem _,
    read.get within _⟩

/-- The languages are called by the names of the definitions, in their order. -/
theorem names_eq : registry.profiles.map (·.language.name) = definitions.map (·.name) := by
  have read := (ofDefinitions_eq_ok_iff.mp built).1
  rw [← List.forall₂_eq_eq_eq, List.forall₂_map_left_iff, List.forall₂_map_right_iff]
  refine read.flip.imp fun profile definition same => ?_
  rw [LanguageDefinition.language_of_profile same]

/-! ## Profiles on record -/

/-- The last name with a spelling has it, whatever the aliases are. -/
theorem lookup_index {key : String} {place : Nat}
    (last : SpellingIndex.lastPlace? key 0 (definitions.map (·.name)) = some place) :
    registry.index.lookup key = some place := by
  rw [(ofDefinitions_eq_ok_iff.mp built).2]
  exact SpellingIndex.lookup_addAll (by rw [last]; rfl)

/-- Under the name of a profile stands one with that name up to case. -/
theorem exists_profileAt? (listed : profile ∈ registry.profiles) :
    ∃ held, registry.profileAt? (Text.lowercase profile.language.name) = some held ∧
      Text.lowercase held.language.name = Text.lowercase profile.language.name := by
  have named : profile.language.name ∈ definitions.map (·.name) := by
    rw [← names_eq built]
    exact List.mem_map_of_mem listed
  obtain ⟨place, last⟩ := SpellingIndex.exists_lastPlace? named 0
  obtain ⟨name, offset, rfl, there, spelled⟩ := SpellingIndex.getElem?_of_lastPlace? last
  rw [← names_eq built, List.getElem?_map, Option.map_eq_some_iff] at there
  obtain ⟨held, there, rfl⟩ := there
  refine ⟨held, ?_, spelled⟩
  rw [profileAt?, lookup_index built last, Nat.zero_add]
  exact there

/-- If no two names are spelled alike, under the name of a profile stands the profile itself. -/
theorem profileAt?_of_distinct
    (distinct : (definitions.map (Text.lowercase ·.name)).Nodup)
    (listed : profile ∈ registry.profiles) :
    registry.profileAt? (Text.lowercase profile.language.name) = some profile := by
  obtain ⟨held, found, spelled⟩ := exists_profileAt? built listed
  have alone : (registry.profiles.map (Text.lowercase ·.language.name)).Nodup := by
    have names := congrArg (List.map Text.lowercase) (names_eq built)
    rw [List.map_map, List.map_map] at names
    exact names ▸ distinct
  rw [found, List.inj_on_of_nodup_map alone (mem_of_profileAt? found) listed spelled]

/-- If no two names are spelled alike, a profile is known by its language. -/
theorem eq_of_language (distinct : (definitions.map (Text.lowercase ·.name)).Nodup)
    {other : LanguageProfile} (listed : profile ∈ registry.profiles)
    (listed' : other ∈ registry.profiles) (same : profile.language = other.language) :
    profile = other := by
  have held := profileAt?_of_distinct built distinct listed
  rw [same, profileAt?_of_distinct built distinct listed'] at held
  exact (Option.some.inj held).symm

/-- If no two names are spelled alike, whatever a spelling stands for is on record under its own
name. -/
theorem resolve_bind_profile? (distinct : (definitions.map (Text.lowercase ·.name)).Nodup)
    (expected : String) :
    (registry.resolve expected).bind registry.profile? =
      registry.profileAt? (Text.lowercase (Text.trim expected)) := by
  rw [resolve]
  cases held : registry.profileAt? (Text.lowercase (Text.trim expected)) with
  | none => rfl
  | some profile =>
    rw [Option.map_some, Option.bind_some]
    exact profileAt?_of_distinct built distinct (mem_of_profileAt? held)

/-- A listed language is on record. -/
theorem exists_profile? (listed : profile ∈ registry.profiles) :
    ∃ held, registry.profile? profile.language = some held := by
  obtain ⟨held, found, -⟩ := exists_profileAt? built listed
  exact ⟨held, found⟩

end

end Registry

end Polyglot
