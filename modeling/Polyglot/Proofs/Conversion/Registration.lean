import Polyglot.Conversion.Converter
import Polyglot.Proofs.Lookup

/-!
# Which slot a name selects

A converter comes from a configuration or starts out empty, and backends are registered with it
afterwards. `Built` records the registrations of its history in order, and **`select?_of_built`**
says what the table of slots makes of them: a name selects the latest registration under it, up to
case and the blanks around the selector.
-/

namespace Polyglot.Converter

/-! ## Histories -/

/-- What a configuration registers: the slot of each model under its name. -/
def configuredEntries (config : ConverterConfig) (environment : Environment)
    (transport : Transport) : List (String × Slot) :=
  config.models.map fun spec => (spec.name, slotOf spec environment transport)

/-- A converter and its registrations, from the first to the last. -/
inductive Built : Converter → List (String × Slot) → Prop
  | fresh (registry : Registry) (options : GenerationOptions) : Built { registry, options } []
  | configured {config : ConverterConfig} {environment : Environment} {transport : Transport}
      {converter : Converter} (valid : ofConfig config environment transport = .ok converter) :
      Built converter (configuredEntries config environment transport)
  | registered {converter : Converter} {entries : List (String × Slot)}
      (built : Built converter entries) (name : String) (backend : Backend) :
      Built (converter.withBackend name backend) (entries ++ [(name, .ready backend)])

variable {converter : Converter} {entries : List (String × Slot)} {config : ConverterConfig}

theorem registry_insertAll (slotOf : ModelSpec → Slot) (specs : List ModelSpec)
    (converter : Converter) :
    (specs.foldl (fun converter spec => converter.insert spec.name (slotOf spec))
      converter).registry = converter.registry := by
  induction specs generalizing converter with
  | nil => rfl
  | cons spec specs ih => exact ih (converter.insert spec.name (slotOf spec))

/-- Every configuration that passes the checks describes a converter. -/
theorem ofConfig_of_valid (accepted : config.validate = .ok ()) (environment : Environment)
    (transport : Transport) :
    ∃ converter, ofConfig config environment transport = .ok converter ∧
      converter.registry = .builtin := by
  unfold ofConfig
  rw [accepted]
  refine ⟨_, rfl, ?_⟩
  rw [registry_insertAll]

/-- The latest registration whose name has the key for its lowercase. -/
def latest? (key : String) (entries : List (String × Slot)) : Option (String × Slot) :=
  entries.reverse.find? (Text.lowercase ·.1 = key)

theorem latest?_append_singleton (key : String) (entries : List (String × Slot)) (name : String)
    (slot : Slot) :
    latest? key (entries ++ [(name, slot)]) =
      if Text.lowercase name = key then some (name, slot) else latest? key entries := by
  rw [latest?, latest?, List.reverse_append, List.reverse_singleton, List.singleton_append,
    List.find?_cons]
  split
  · next same => rw [if_pos (of_decide_eq_true same)]
  · next other => rw [if_neg (of_decide_eq_false other)]

/-! ## The table of slots -/

/-- The table holds the latest registration under every key. -/
def Holds (converter : Converter) (entries : List (String × Slot)) : Prop :=
  ∀ key, converter.slots.lookup key = latest? key entries

theorem holds_insert (holds : Holds converter entries) (name : String) (slot : Slot) :
    Holds (converter.insert name slot) (entries ++ [(name, slot)]) := by
  intro key
  rw [latest?_append_singleton, insert, lookup_replace, List.lookup_cons]
  by_cases same : Text.lowercase name = key
  · rw [if_pos same, beq_iff_eq.mpr same.symm]
  · rw [if_neg same, beq_eq_false_iff_ne.mpr (Ne.symm same), holds key]

/-- Registrations one after another. -/
theorem holds_insertAll (slotOf : ModelSpec → Slot) (specs : List ModelSpec)
    (holds : Holds converter entries) :
    Holds (specs.foldl (fun converter spec => converter.insert spec.name (slotOf spec)) converter)
      (entries ++ specs.map fun spec => (spec.name, slotOf spec)) := by
  induction specs generalizing converter entries with
  | nil =>
    rw [List.map_nil, List.append_nil]
    exact holds
  | cons spec specs ih =>
    rw [List.foldl_cons, List.map_cons, List.append_cons]
    exact ih (holds_insert holds spec.name (slotOf spec))

theorem Built.holds (built : Built converter entries) : Holds converter entries := by
  induction built with
  | fresh registry options => exact fun _ => rfl
  | configured valid =>
    unfold ofConfig at valid
    split at valid
    · cases valid
    · cases valid
      exact holds_insertAll _ _ (show Holds _ [] from fun _ => rfl)
  | registered built name backend ih => exact holds_insert ih name (.ready backend)

/-- A name selects the latest registration under it. -/
theorem select?_of_built (built : Built converter entries) (model : String) :
    converter.select? model = latest? (Text.lowercase (Text.trim model)) entries :=
  built.holds _

end Polyglot.Converter
