import Polyglot.Json.Record
import Polyglot.Proofs.Json.RoundTrip

/-!
# Reading what was written

How the readers of records take the tree of a written value: a field is stored if its reader takes
the tree of its member, a record of which one member is written is read if no other is required, and
one of which every member is written in order is read as what its fields make of them, one after the
other (`RecordShape.read_of_stores`). So is a tagged value with its tag in front
(`TaggedBody.read_pair`).
-/

namespace Polyglot

variable {σ α : Type} {reader : JsonTree → Except JsonFault α} {tree : JsonTree} {value : Json}
  {a : α} {name : String}

theorem RecordField.store_required (put : α → σ → σ) (record : σ) (read : reader tree = .ok a) :
    (required name reader put).store tree record = .ok (put a record) := by
  simp only [required, read]
  rfl

theorem RecordField.store_defaulted (put : α → σ → σ) (record : σ) (read : reader tree = .ok a) :
    (defaulted name reader put).store tree record = .ok (put a record) := by
  simp only [defaulted, read]
  rfl

theorem RecordField.store_nullable (put : Option α → σ → σ) (record : σ)
    (read : reader tree = .ok a) (present : tree ≠ .null) :
    (nullable name reader put).store tree record = .ok (put (some a) record) := by
  have some : tree.nullable reader = .ok (some a) := by
    unfold JsonTree.nullable
    split
    · exact absurd rfl present
    · rw [read]
      rfl
  simp only [nullable, some]
  rfl

/-- A record of which one member is written, when no other has to be. -/
theorem RecordShape.read_singleton {shape : RecordShape σ} {field : RecordField σ}
    {blank record : σ} (found : shape.find? (·.name == name) = some field)
    (stored : field.store (.ofJson value) blank = .ok record)
    (complete : shape.all fun field => field.presence != .required || [name].contains field.name) :
    shape.read blank (.ofJson (.object [(name, value)])) = .ok record := by
  have read :
      shape.readMembers [] blank [(.ofText name, .ofJson value)] = .ok ([name], record) := by
    simp [readMembers, found, stored]
  simp only [JsonTree.ofJson, JsonTree.ofMembers, RecordShape.read, read, complete, if_true]

/-- What every field of a record makes of its member, one after the other. -/
inductive RecordShape.Stores : RecordShape σ → List (String × Json) → σ → σ → Prop
  | nil (record : σ) : Stores [] [] record record
  | cons {field : RecordField σ} {shape : RecordShape σ} {value : Json}
      {members : List (String × Json)} {start next final : σ}
      (stored : field.store (.ofJson value) start = .ok next)
      (others : Stores shape members next final) :
      Stores (field :: shape) ((field.name, value) :: members) start final

/-- A field is found by its name. -/
theorem RecordShape.find?_of_mem {shape : RecordShape σ} (distinct : (shape.map (·.name)).Nodup)
    {field : RecordField σ} (mem : field ∈ shape) :
    shape.find? (·.name == field.name) = some field := by
  induction shape with
  | nil => cases mem
  | cons first shape ih =>
    rw [List.map_cons, List.nodup_cons] at distinct
    rcases List.mem_cons.mp mem with rfl | behind
    · exact List.find?_cons_of_pos (beq_self_eq_true field.name)
    · have other : first.name ≠ field.name := by
        intro same
        rw [same] at distinct
        exact distinct.1 (List.mem_map_of_mem behind)
      rw [List.find?_cons_of_neg (by simpa using other)]
      exact ih distinct.2 behind

/-- Reading members goes from one field to the next, each under a name that was not seen before. -/
theorem RecordShape.readMembers_of_stores {whole shape : RecordShape σ}
    {members : List (String × Json)} {start final : σ} (stores : Stores shape members start final)
    (listed : ∀ field ∈ shape, whole.find? (·.name == field.name) = some field)
    (distinct : (shape.map (·.name)).Nodup) {seen : List String}
    (fresh : ∀ field ∈ shape, field.name ∉ seen) :
    whole.readMembers seen start (JsonTree.ofMembers members) =
      .ok ((shape.map (·.name)).reverse ++ seen, final) := by
  induction stores generalizing seen with
  | nil record => rfl
  | @cons field shape value members start next final stored others ih =>
    rw [List.forall_mem_cons] at listed fresh
    rw [List.map_cons, List.nodup_cons] at distinct
    -- the fields behind this one stay fresh, as no name occurs twice
    have unseen : ∀ other ∈ shape, other.name ∉ field.name :: seen := by
      intro other mem
      rw [List.mem_cons, not_or]
      refine ⟨fun same => distinct.1 ?_, fresh.2 other mem⟩
      rw [← same]
      exact List.mem_map_of_mem mem
    have inner := ih listed.2 distinct.2 unseen
    have new : seen.contains field.name = false := by simpa using fresh.1
    rw [JsonTree.ofMembers, readMembers, StringToken.read_ofText]
    simp only [listed.1, new, stored, inner]
    simp

/-- A record of which every member is written in order. -/
theorem RecordShape.read_of_stores {shape : RecordShape σ} {members : List (String × Json)}
    {blank record : σ} (distinct : (shape.map (·.name)).Nodup)
    (stores : Stores shape members blank record) :
    shape.read blank (.ofJson (.object members)) = .ok record := by
  have taken := readMembers_of_stores stores (fun _ mem => find?_of_mem distinct mem) distinct
    fun _ _ => List.not_mem_nil
  simp only [JsonTree.ofJson, RecordShape.read, taken]
  rw [if_pos]
  rw [List.all_eq_true]
  intro field mem
  have seen : field.name ∈ (shape.map (·.name)).reverse ++ [] := by
    rw [List.append_nil, List.mem_reverse]
    exact List.mem_map_of_mem mem
  rw [List.contains_iff_mem.mpr seen, Bool.or_true]

/-- A tagged value of which the tag is written first, with one text behind it. -/
theorem TaggedBody.read_pair {κ : Type} {tag word : String} {kind : String → Option κ} {k : κ}
    (depth : Nat) (text : String) (known : kind word = some k) (other : name ≠ tag) :
    read tag kind depth (.ofJson (.object [(tag, .string word), (name, .string text)])) =
      .ok (k, .object [(name, .string text)]) := by
  have members : readMembers tag kind (depth - 1) none
      [(.ofText tag, .string (.ofText word)), (.ofText name, .string (.ofText text))] =
      .ok (some k, [(name, .string text)]) := by
    simp [readMembers, StringToken.read_ofText, JsonTree.text, JsonTree.value, known, other,
      Except.map]
  simp only [JsonTree.ofJson, JsonTree.ofMembers, read, members]

/-- A list is read if each of its items is. -/
theorem JsonTree.list_map (toJson : α → Json) {values : List α}
    (read : ∀ a ∈ values, reader (.ofJson (toJson a)) = .ok a) :
    (ofJson (.array (values.map toJson))).list reader = .ok values := by
  have items : (ofItems (values.map toJson)).mapM reader = .ok values := by
    induction values with
    | nil => rfl
    | cons a values ih =>
      rw [List.forall_mem_cons] at read
      rw [List.map_cons, ofItems, List.mapM_cons, read.1, ih read.2]
      rfl
  simp only [ofJson, list, items]

theorem JsonTree.list_singleton (read : reader (.ofJson value) = .ok a) :
    (ofJson (.array [value])).list reader = .ok [a] :=
  list_map (fun _ => value) (List.forall_mem_singleton.mpr read)

theorem JsonTree.text_string (text : String) : (ofJson (.string text)).text = .ok text := by
  rw [ofJson, JsonTree.text, StringToken.read_ofText]

end Polyglot
