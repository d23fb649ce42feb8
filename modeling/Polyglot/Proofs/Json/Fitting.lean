import Mathlib.Data.List.Forall2
import Polyglot.Proofs.Json.Acceptance

/-!
# Values that fit a type

What a tree must be like to be read as a text, a list or a record, said without the reader:
`IsText`, `IsNullOr`, `IsListOf` and `IsRecordOf`. A reader `Reads` a type if it takes just the
values of the type, and a record is read just from what fits its fields if each field takes just
what fits it (**`RecordShape.reads`**).

Whether a field takes a value must not depend on what was stored before; then each member can be
judged by itself, and of those before it only the names count.
-/

namespace Polyglot

namespace JsonTree

/-- A string whose escapes stand for characters. -/
def IsText : JsonTree → Prop
  | string token => ∃ text, token.read = .ok text
  | _ => False

def IsNullOr (Fits : JsonTree → Prop) : JsonTree → Prop
  | null => True
  | tree => Fits tree

def IsListOf (Fits : JsonTree → Prop) : JsonTree → Prop
  | array items _ => ∀ item ∈ items, Fits item
  | _ => False

end JsonTree

/-- What a type of records wants of one of its fields. -/
structure FieldType where
  name : String
  presence : Presence
  Fits : JsonTree → Prop

namespace FieldType

/-- Members of an object from which a record can be read: every key stands for a text, what has the
name of a field fits the field, no field is there twice, and none that is required is missing. What
has other names is not looked at. -/
structure FitMembers (fields : List FieldType) (members : List (StringToken × JsonTree)) :
    Prop where
  named : ∀ member ∈ members, ∃ name, member.1.read = .ok name
  fitting : ∀ field ∈ fields, ∀ member ∈ members, member.1.read = .ok field.name →
    field.Fits member.2
  once : ∀ field ∈ fields, members.Pairwise fun first second =>
    first.1.read = .ok field.name → second.1.read ≠ .ok field.name
  complete : ∀ field ∈ fields, field.presence = .required →
    ∃ member ∈ members, member.1.read = .ok field.name

/-- Items of an array from which a record can be read: they fit the fields in order, and fields
without an item have a default. -/
inductive FitItems : List FieldType → List JsonTree → Prop
  | nil {fields : List FieldType} (defaulted : ∀ field ∈ fields, field.presence = .defaulted) :
      FitItems fields []
  | cons {field : FieldType} {fields : List FieldType} {item : JsonTree} {items : List JsonTree}
      (fits : field.Fits item) (others : FitItems fields items) :
      FitItems (field :: fields) (item :: items)

end FieldType

/-- A value from which a record with the given fields can be read. -/
def JsonTree.IsRecordOf (fields : List FieldType) : JsonTree → Prop
  | .object members _ => FieldType.FitMembers fields members
  | .array items _ => FieldType.FitItems fields items
  | _ => False

namespace JsonTree

variable {α : Type} {reader : JsonTree → Except JsonFault α} {Fits : JsonTree → Prop}

/-- The reader takes just the values of the type, and these only without a fault. -/
structure Reads (reader : JsonTree → Except JsonFault α) (Fits : JsonTree → Prop) : Prop where
  careful : Careful reader
  fits : ∀ tree, tree.formFault? = none → ((∃ a, reader tree = .ok a) ↔ Fits tree)

theorem reads_text : Reads text IsText where
  careful := careful_text
  fits := by
    intro tree _
    cases tree with
    | string token => exact Iff.rfl
    | _ => exact iff_of_false (fun ⟨_, read⟩ => nomatch read) id

theorem Reads.map {β : Type} (reads : Reads reader Fits) (f : α → β) :
    Reads (fun tree => (reader tree).map f) Fits where
  careful := reads.careful.map f
  fits := by
    intro tree sound
    rw [← reads.fits tree sound]
    cases value : reader tree with
    | error fault => simp [Except.map]
    | ok a => simp [Except.map]

theorem Reads.nullable (reads : Reads reader Fits) :
    Reads (JsonTree.nullable reader) (IsNullOr Fits) where
  careful := reads.careful.nullable
  fits := by
    intro tree sound
    cases tree with
    | null => exact iff_of_true ⟨none, rfl⟩ trivial
    | _ => exact (reads.map some).fits _ sound

theorem Reads.list (reads : Reads reader Fits) :
    Reads (JsonTree.list reader) (IsListOf Fits) where
  careful := reads.careful.list
  fits := by
    intro tree sound
    cases tree with
    | array items fault =>
      obtain ⟨sound', rfl⟩ := formFault?_array.mp sound
      have all : (∃ values, items.mapM reader = .ok values) ↔ ∀ item ∈ items, Fits item :=
        exists_mapM_iff.trans (forall₂_congr fun item mem => reads.fits item (sound' item mem))
      rw [IsListOf, ← all]
      unfold JsonTree.list
      cases read : items.mapM reader <;> simp [read]
    | _ => exact iff_of_false (fun ⟨_, read⟩ => nomatch read) id

end JsonTree

variable {σ α : Type} {reader : JsonTree → Except JsonFault α} {Fits : JsonTree → Prop}

namespace RecordField

/-- A field goes by its type: whatever was stored before, it takes just the values that fit. -/
structure Takes (field : RecordField σ) (type : FieldType) : Prop where
  name : field.name = type.name
  presence : field.presence = type.presence
  stores : ∀ record, JsonTree.Reads (field.store · record) type.Fits

theorem takes_required (name : String) (reads : JsonTree.Reads reader Fits) (put : α → σ → σ) :
    (required name reader put).Takes ⟨name, .required, Fits⟩ :=
  ⟨rfl, rfl, fun record => reads.map (put · record)⟩

theorem takes_defaulted (name : String) (reads : JsonTree.Reads reader Fits) (put : α → σ → σ) :
    (defaulted name reader put).Takes ⟨name, .defaulted, Fits⟩ :=
  ⟨rfl, rfl, fun record => reads.map (put · record)⟩

theorem takes_nullable (name : String) (reads : JsonTree.Reads reader Fits)
    (put : Option α → σ → σ) :
    (nullable name reader put).Takes ⟨name, .nullable, JsonTree.IsNullOr Fits⟩ :=
  ⟨rfl, rfl, fun record => reads.nullable.map (put · record)⟩

end RecordField

namespace RecordShape

variable {shape : RecordShape σ} {fields : List FieldType} {record : σ} {seen seen' : List String}
  {name : String} {key : StringToken} {tree : JsonTree}
  {members : List (StringToken × JsonTree)} {items : List JsonTree}

/-- The fields of a record go by the types of its fields. -/
abbrev Takes (shape : RecordShape σ) (fields : List FieldType) : Prop :=
  List.Forall₂ RecordField.Takes shape fields

/-- What is asked of the names and presences of the fields is asked of those of the types. -/
theorem Takes.forall_iff (takes : shape.Takes fields) (asked : String → Presence → Prop) :
    (∀ field ∈ shape, asked field.name field.presence) ↔
      ∀ type ∈ fields, asked type.name type.presence := by
  induction takes with
  | nil => simp
  | cons first others ih =>
    rw [List.forall_mem_cons, List.forall_mem_cons, ih, first.name, first.presence]

/-- A name is that of no field, or of one only. -/
theorem Takes.find?_cases (takes : shape.Takes fields)
    (distinct : (fields.map (·.name)).Nodup) (name : String) :
    (shape.find? (·.name == name) = none ∧ ∀ type ∈ fields, type.name ≠ name) ∨
      ∃ field type, shape.find? (·.name == name) = some field ∧ field.Takes type ∧
        type ∈ fields ∧ type.name = name ∧ ∀ other ∈ fields, other.name = name → other = type := by
  induction takes with
  | nil => exact .inl ⟨rfl, fun type mem => absurd mem List.not_mem_nil⟩
  | @cons field type shape fields first others ih =>
    rw [List.map_cons, List.nodup_cons, List.mem_map] at distinct
    -- either the first field is the one of that name, or the search goes on behind it
    by_cases same : type.name = name
    · refine .inr ⟨field, type, ?_, first, List.mem_cons_self, same, ?_⟩
      · exact List.find?_cons_of_pos (beq_iff_eq.mpr (first.name.trans same))
      · intro other mem named
        rcases List.mem_cons.mp mem with rfl | behind
        · rfl
        · exact absurd ⟨other, behind, named.trans same.symm⟩ distinct.1
    · have other : ¬ (field.name == name) = true := by
        rw [beq_iff_eq, first.name]
        exact same
      have passed : (field :: shape).find? (·.name == name) = shape.find? (·.name == name) :=
        List.find?_cons_of_neg other
      rw [passed]
      obtain ⟨unknown, unnamed⟩ | ⟨field', type', known, taken, mem, named, only⟩ := ih distinct.2
      · exact .inl ⟨unknown, List.forall_mem_cons.mpr ⟨same, unnamed⟩⟩
      · refine .inr ⟨field', type', known, taken, List.mem_cons_of_mem _ mem, named, ?_⟩
        exact List.forall_mem_cons.mpr ⟨fun named => absurd named same, only⟩

/-- Members that fit behind others, of which some had the names `seen`. -/
structure FitBehind (fields : List FieldType) (seen : List String)
    (members : List (StringToken × JsonTree)) : Prop where
  named : ∀ member ∈ members, ∃ name, member.1.read = .ok name
  fitting : ∀ field ∈ fields, ∀ member ∈ members, member.1.read = .ok field.name →
    field.Fits member.2
  once : ∀ field ∈ fields, members.Pairwise fun first second =>
    first.1.read = .ok field.name → second.1.read ≠ .ok field.name
  fresh : ∀ field ∈ fields, field.name ∈ seen → ∀ member ∈ members,
    member.1.read ≠ .ok field.name

/-- A member with another name makes no difference. -/
theorem fitBehind_cons_unknown (named : key.read = .ok name)
    (unknown : ∀ type ∈ fields, type.name ≠ name) :
    FitBehind fields seen ((key, tree) :: members) ↔ FitBehind fields seen members := by
  have other {type : FieldType} (mem : type ∈ fields) : key.read ≠ .ok type.name := by
    rw [named, ne_eq, Except.ok.injEq]
    exact fun same => unknown type mem same.symm
  constructor
  · intro fit
    exact ⟨(List.forall_mem_cons.mp fit.named).2,
      fun type mem => (List.forall_mem_cons.mp (fit.fitting type mem)).2,
      fun type mem => (List.pairwise_cons.mp (fit.once type mem)).2,
      fun type mem met => (List.forall_mem_cons.mp (fit.fresh type mem met)).2⟩
  · intro fit
    exact ⟨List.forall_mem_cons.mpr ⟨⟨name, named⟩, fit.named⟩,
      fun type mem => List.forall_mem_cons.mpr
        ⟨fun same => absurd same (other mem), fit.fitting type mem⟩,
      fun type mem => List.pairwise_cons.mpr
        ⟨fun _ _ same => absurd same (other mem), fit.once type mem⟩,
      fun type mem met => List.forall_mem_cons.mpr ⟨other mem, fit.fresh type mem met⟩⟩

/-- A member with the name of a field has to fit it, and comes first of that name. -/
theorem fitBehind_cons_known {type : FieldType} (named : key.read = .ok type.name)
    (mem : type ∈ fields) (only : ∀ other ∈ fields, other.name = type.name → other = type) :
    FitBehind fields seen ((key, tree) :: members) ↔
      type.name ∉ seen ∧ type.Fits tree ∧ FitBehind fields (type.name :: seen) members := by
  -- a member of this name can only be meant for this field
  have same {other : FieldType} (mem : other ∈ fields) (read : key.read = .ok other.name) :
      other = type := by
    rw [named, Except.ok.injEq] at read
    exact only other mem read.symm
  constructor
  · intro fit
    refine ⟨fun met => ?_, ?_, ?_⟩
    · exact (List.forall_mem_cons.mp (fit.fresh type mem met)).1 named
    · exact (List.forall_mem_cons.mp (fit.fitting type mem)).1 named
    · refine ⟨(List.forall_mem_cons.mp fit.named).2,
        fun other mem => (List.forall_mem_cons.mp (fit.fitting other mem)).2,
        fun other mem => (List.pairwise_cons.mp (fit.once other mem)).2, fun other mem' met => ?_⟩
      rcases List.mem_cons.mp met with first | before
      · rw [first]
        exact fun member mem'' => (List.pairwise_cons.mp (fit.once type mem)).1 member mem'' named
      · exact (List.forall_mem_cons.mp (fit.fresh other mem' before)).2
  · rintro ⟨fresh, fits, fit⟩
    refine ⟨List.forall_mem_cons.mpr ⟨⟨_, named⟩, fit.named⟩, fun other mem' => ?_,
      fun other mem' => ?_, fun other mem' met => ?_⟩
    · refine List.forall_mem_cons.mpr ⟨fun read => ?_, fit.fitting other mem'⟩
      rw [same mem' read]
      exact fits
    · refine List.pairwise_cons.mpr ⟨fun member mem'' read => ?_, fit.once other mem'⟩
      rw [same mem' read]
      exact fit.fresh type mem List.mem_cons_self member mem''
    · refine List.forall_mem_cons.mpr
        ⟨fun read => ?_, fit.fresh other mem' (List.mem_cons_of_mem _ met)⟩
      rw [same mem' read] at met
      exact fresh met

/-- Where the first member has been taken, the others have to fit behind it. -/
theorem fitBehind_cons_of_step (takes : shape.Takes fields)
    (distinct : (fields.map (·.name)).Nodup) (sound : tree.formFault? = none) {next : σ}
    (step : shape.Step (key, tree) (seen, record) (seen', next)) :
    FitBehind fields seen ((key, tree) :: members) ↔ FitBehind fields seen' members := by
  cases step with
  | @pass name _ _ named unknown _ =>
    obtain ⟨-, unnamed⟩ | ⟨field, type, known, _⟩ := takes.find?_cases distinct name
    · exact fitBehind_cons_unknown named unnamed
    · rw [unknown] at known
      cases known
  | @store name field _ _ _ named known fresh stored =>
    obtain ⟨unknown, -⟩ | ⟨field', type, known', taken, mem, rfl, only⟩ :=
      takes.find?_cases distinct name
    · rw [unknown] at known
      cases known
    · rw [known, Option.some.injEq] at known'
      subst known'
      have fits := ((taken.stores record).fits tree sound).mp ⟨_, stored⟩
      rw [fitBehind_cons_known named mem only]
      exact ⟨fun fit => fit.2.2, fun fit => ⟨fresh, fits, fit⟩⟩

/-- A member that fits is taken. -/
theorem exists_step_of_fitBehind (takes : shape.Takes fields)
    (distinct : (fields.map (·.name)).Nodup) (sound : tree.formFault? = none)
    (fit : FitBehind fields seen ((key, tree) :: members)) (record : σ) :
    ∃ state, shape.Step (key, tree) (seen, record) state := by
  obtain ⟨name, named⟩ := (List.forall_mem_cons.mp fit.named).1
  obtain ⟨unknown, -⟩ | ⟨field, type, known, taken, mem, rfl, only⟩ :=
    takes.find?_cases distinct name
  · exact ⟨_, .pass named unknown sound⟩
  · obtain ⟨fresh, fits, -⟩ := (fitBehind_cons_known named mem only).mp fit
    obtain ⟨next, stored⟩ := ((taken.stores record).fits tree sound).mpr fits
    exact ⟨_, .store named known fresh stored⟩

/-- Members are read just if they fit. -/
theorem exists_readMembers_iff (takes : shape.Takes fields)
    (distinct : (fields.map (·.name)).Nodup)
    (sound : ∀ member ∈ members, member.2.formFault? = none) :
    (∃ state, shape.readMembers seen record members = .ok state) ↔
      FitBehind fields seen members := by
  induction members generalizing seen record with
  | nil =>
    refine iff_of_true ⟨(seen, record), rfl⟩ ⟨?_, ?_, ?_, ?_⟩ <;> simp
  | cons member members ih =>
    obtain ⟨key, tree⟩ := member
    rw [List.forall_mem_cons] at sound
    simp only [readMembers_cons_eq_ok_iff]
    constructor
    · rintro ⟨state, between, step, others⟩
      exact (fitBehind_cons_of_step takes distinct sound.1 step).mpr ((ih sound.2).mp ⟨_, others⟩)
    · intro fit
      -- the first member fits, so it is taken, and the others fit behind it
      obtain ⟨between, step⟩ := exists_step_of_fitBehind takes distinct sound.1 fit record
      have behind := (fitBehind_cons_of_step takes distinct sound.1 step).mp fit
      obtain ⟨state, others⟩ := (ih sound.2).mpr behind
      exact ⟨state, between, step, others⟩

/-- Afterwards the names of fields have been met that stand among the members. -/
theorem mem_of_readMembers (takes : shape.Takes fields) (distinct : (fields.map (·.name)).Nodup)
    {final : σ} (read : shape.readMembers seen record members = .ok (seen', final))
    {type : FieldType} (mem : type ∈ fields) :
    type.name ∈ seen' ↔
      type.name ∈ seen ∨ ∃ member ∈ members, member.1.read = .ok type.name := by
  induction members generalizing seen record with
  | nil =>
    cases read
    simp
  | cons member members ih =>
    obtain ⟨between, step, others⟩ := readMembers_cons_eq_ok_iff.mp read
    rw [ih others]
    cases step with
    | @pass name _ _ named unknown _ =>
      obtain ⟨-, unnamed⟩ | ⟨field, _, known, _⟩ := takes.find?_cases distinct name
      · simp [named, (unnamed type mem).symm]
      · rw [unknown] at known
        cases known
    | store named _ _ _ => simp [named, eq_comm, or_assoc, or_left_comm]

/-- Items are read just if they fit, and those that are missing may be missing. -/
theorem exists_readItems_iff (takes : shape.Takes fields)
    (sound : ∀ item ∈ items, item.formFault? = none) :
    (∃ final, readItems record none shape items = .ok final) ↔ FieldType.FitItems fields items := by
  induction takes generalizing record items with
  | nil =>
    cases items with
    | nil => exact iff_of_true ⟨record, rfl⟩ (.nil fun type mem => absurd mem List.not_mem_nil)
    | cons item items =>
      refine iff_of_false ?_ nofun
      rintro ⟨final, read⟩
      cases read
  | @cons field type shape fields first others ih =>
    cases items with
    | nil =>
      -- where items are missing, all fields that are left have to have defaults
      have all := Takes.forall_iff (.cons first others) fun _ presence => presence = .defaulted
      have read : (∃ final, readItems record none (field :: shape) [] = .ok final) ↔
          ∀ other ∈ field :: shape, other.presence = .defaulted := by
        rw [readItems]
        split <;> simp_all
      rw [read, all]
      refine ⟨.nil, fun fit => ?_⟩
      cases fit with
      | nil defaulted => exact defaulted
    | cons item items =>
      rw [List.forall_mem_cons] at sound
      have split : FieldType.FitItems (type :: fields) (item :: items) ↔
          type.Fits item ∧ FieldType.FitItems fields items := by
        constructor
        · intro fit
          cases fit with
          | cons fits others => exact ⟨fits, others⟩
        · rintro ⟨fits, others⟩
          exact .cons fits others
      rw [split, ← (first.stores record).fits item sound.1]
      unfold readItems
      cases stored : field.store item record with
      | error fault => simp
      | ok next => simp [ih sound.2]

theorem Takes.careful (takes : shape.Takes fields) : shape.Careful := by
  induction takes with
  | nil => exact fun field mem => absurd mem List.not_mem_nil
  | cons first _ ih =>
    exact List.forall_mem_cons.mpr ⟨fun record => (first.stores record).careful, ih⟩

/-- Where each field goes by its type, a record is read just from what fits its fields. -/
theorem exists_read_iff (takes : shape.Takes fields) (distinct : (fields.map (·.name)).Nodup)
    (blank : σ) (sound : tree.formFault? = none) :
    (∃ final, shape.read blank tree = .ok final) ↔ tree.IsRecordOf fields := by
  cases tree with
  | object members fault =>
    obtain ⟨sound', rfl⟩ := JsonTree.formFault?_object.mp sound
    have fit : (∃ state, shape.readMembers [] blank members = .ok state) ↔
        FitBehind fields [] members :=
      exists_readMembers_iff takes distinct fun member mem => (sound' member mem).2
    -- a required field is met just if it stands among the members
    have complete {seen : List String} {final : σ}
        (read : shape.readMembers [] blank members = .ok (seen, final)) :
        (∀ field ∈ shape, field.presence = .required → field.name ∈ seen) ↔
          ∀ type ∈ fields, type.presence = .required →
            ∃ member ∈ members, member.1.read = .ok type.name := by
      have all := takes.forall_iff fun name presence => presence = .required → name ∈ seen
      rw [all]
      refine forall₂_congr fun type mem => ?_
      rw [mem_of_readMembers takes distinct read mem, List.mem_nil_iff, false_or]
    simp only [read_object_eq_ok_iff, true_and]
    constructor
    · rintro ⟨final, seen, taken, present⟩
      obtain ⟨named, fitting, once, -⟩ := fit.mp ⟨_, taken⟩
      exact ⟨named, fitting, once, (complete taken).mp present⟩
    · rintro ⟨named, fitting, once, present⟩
      obtain ⟨⟨seen, final⟩, taken⟩ :=
        fit.mpr ⟨named, fitting, once, fun _ _ met => absurd met List.not_mem_nil⟩
      exact ⟨final, seen, taken, (complete taken).mpr present⟩
  | array items fault =>
    obtain ⟨sound', rfl⟩ := JsonTree.formFault?_array.mp sound
    exact exists_readItems_iff takes sound'
  | _ => exact iff_of_false (fun ⟨_, read⟩ => nomatch read) id

/-- **Records.** So the reader of the record goes by the type of the record. -/
theorem reads (takes : shape.Takes fields) (distinct : (fields.map (·.name)).Nodup) (blank : σ) :
    JsonTree.Reads (shape.read blank) (JsonTree.IsRecordOf fields) where
  careful := takes.careful.read blank
  fits := fun _ sound => exists_read_iff takes distinct blank sound

end RecordShape

end Polyglot
