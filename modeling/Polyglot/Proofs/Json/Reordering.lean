import Mathlib.Data.List.Forall2
import Mathlib.Logic.Relation
import Polyglot.Proofs.Json.Acceptance

/-!
# Members in another order

`JsonTree.Reordering` puts the members of one object, anywhere in a tree, into another order. An
`OrderFree` reader makes the same of both trees. The readers of texts and lists are, and so is that
of a record if its fields can be stored in any order (**`RecordShape.OrderFree.read`**). The value
of a tree is not the same, but it is reordered in the same way (`JsonTree.value_of_reordering`).

A reordering can be undone by another one, so that it is enough to show what a reader takes before
and not what it refuses. In an object it is enough to swap two members that stand side by side.
-/

namespace Polyglot

/-! ## Reorderings -/

/-- One object in a tree has its members in another order: the tree itself, or an object in the
value of a member or in an item. -/
inductive JsonTree.Reordering : JsonTree → JsonTree → Prop
  | members {members others : List (StringToken × JsonTree)} {fault : Option JsonFault}
      (perm : members.Perm others) : Reordering (object members fault) (object others fault)
  | value {before after : List (StringToken × JsonTree)} {key : StringToken}
      {tree other : JsonTree} {fault : Option JsonFault} (inner : Reordering tree other) :
      Reordering (object (before ++ (key, tree) :: after) fault)
        (object (before ++ (key, other) :: after) fault)
  | item {before after : List JsonTree} {tree other : JsonTree} {fault : Option JsonFault}
      (inner : Reordering tree other) :
      Reordering (array (before ++ tree :: after) fault) (array (before ++ other :: after) fault)

/-- One object in a value has its members in another order. -/
inductive Json.Reordering : Json → Json → Prop
  | members {members others : List (String × Json)} (perm : members.Perm others) :
      Reordering (object members) (object others)
  | value {before after : List (String × Json)} {key : String} {value other : Json}
      (inner : Reordering value other) :
      Reordering (object (before ++ (key, value) :: after))
        (object (before ++ (key, other) :: after))
  | item {before after : List Json} {value other : Json} (inner : Reordering value other) :
      Reordering (array (before ++ value :: after)) (array (before ++ other :: after))

namespace JsonTree

variable {σ α β : Type} {tree other : JsonTree} {reader : JsonTree → Except JsonFault α}

theorem Reordering.symm (step : Reordering tree other) : Reordering other tree := by
  induction step with
  | members perm => exact .members perm.symm
  | value _ ih => exact .value ih
  | item _ ih => exact .item ih

/-- The reader makes the same of reordered trees. -/
def OrderFree (reader : JsonTree → Except JsonFault α) : Prop :=
  ∀ tree other a, Reordering tree other → reader tree = .ok a → reader other = .ok a

/-! ## Texts, lists and faults -/

theorem orderFree_text : OrderFree text := by
  intro tree other a step read
  cases step <;> cases read

theorem OrderFree.map (free : OrderFree reader) (f : α → β) :
    OrderFree fun tree => (reader tree).map f := by
  intro tree other b step read
  cases value : reader tree with
  | error fault =>
    simp only [value] at read
    cases read
  | ok a =>
    simp only [value] at read
    simp only [free tree other a step value]
    exact read

/-- Neither tree is null. -/
theorem OrderFree.nullable (free : OrderFree reader) : OrderFree (JsonTree.nullable reader) := by
  intro tree other a step read
  have plain : JsonTree.nullable reader tree = (reader tree).map some := by cases step <;> rfl
  have plain' : JsonTree.nullable reader other = (reader other).map some := by cases step <;> rfl
  rw [plain] at read
  rw [plain']
  exact free.map some tree other a step read

theorem OrderFree.list (free : OrderFree reader) : OrderFree (JsonTree.list reader) := by
  intro tree other values step read
  cases step with
  | members perm => cases read
  | value inner => cases read
  | @item before after tree other fault inner =>
    unfold JsonTree.list at read ⊢
    simp only [List.mapM_append, List.mapM_cons] at read ⊢
    cases value : reader tree with
    | error fault =>
      simp only [value] at read
      cases first : before.mapM reader <;> simp [first, bind, Except.bind] at read
    | ok a =>
      rw [free tree other a inner value]
      rwa [value] at read

/-- A step takes nothing from what is read, and it can be undone. -/
theorem OrderFree.toOption_eq (free : OrderFree reader)
    (run : Relation.ReflTransGen Reordering tree other) :
    (reader other).toOption = (reader tree).toOption := by
  induction run with
  | refl => rfl
  | @tail between other _ step ih =>
    rw [← ih]
    cases read : reader between with
    | ok a => rw [free between other a step read]
    | error fault =>
      cases read' : reader other with
      | ok a =>
        rw [free other between a step.symm read'] at read
        cases read
      | error fault' => rfl

/-- A reordering makes no fault. -/
theorem Reordering.sound (step : Reordering tree other) (sound : tree.formFault? = none) :
    other.formFault? = none := by
  induction step with
  | members perm =>
    rw [formFault?_object] at sound ⊢
    exact ⟨fun member mem => sound.1 member (perm.mem_iff.mpr mem), sound.2⟩
  | value _ ih =>
    rw [formFault?_object, List.forall_mem_append, List.forall_mem_cons] at sound ⊢
    exact ⟨⟨sound.1.1, ⟨sound.1.2.1.1, ih sound.1.2.1.2⟩, sound.1.2.2⟩, sound.2⟩
  | item _ ih =>
    rw [formFault?_array, List.forall_mem_append, List.forall_mem_cons] at sound ⊢
    exact ⟨⟨sound.1.1, ih sound.1.2.1, sound.1.2.2⟩, sound.2⟩

end JsonTree

/-! ## Records -/

variable {σ α β : Type} {reader : JsonTree → Except JsonFault α}

/-- Whatever can be stored in the one field and then in the other can be stored the other way
round. -/
def RecordField.Independent (first second : RecordField σ) : Prop :=
  ∀ tree other record next final, first.store tree record = .ok next →
    second.store other next = .ok final →
    ∃ next', second.store other record = .ok next' ∧ first.store tree next' = .ok final

/-- So it is where the two change the record independently. -/
theorem RecordField.independent_of_comm {first second : RecordField σ}
    {reader : JsonTree → Except JsonFault α} {reader' : JsonTree → Except JsonFault β}
    {put : α → σ → σ} {put' : β → σ → σ}
    (store : ∀ tree record, first.store tree record = (reader tree).map (put · record))
    (store' : ∀ tree record, second.store tree record = (reader' tree).map (put' · record))
    (comm : ∀ a b record, put' b (put a record) = put a (put' b record)) :
    Independent first second := by
  intro tree other record next final stored stored'
  rw [store] at stored
  rw [store'] at stored'
  -- both values were read, as both were stored
  cases value : reader tree with
  | error fault =>
    rw [value] at stored
    cases stored
  | ok a =>
    rw [value] at stored
    cases stored
    cases value' : reader' other with
    | error fault =>
      rw [value'] at stored'
      cases stored'
    | ok b =>
      rw [value'] at stored'
      cases stored'
      refine ⟨put' b record, by rw [store', value']; rfl, ?_⟩
      rw [store, value]
      exact congrArg Except.ok (comm a b record).symm

namespace RecordShape

variable {shape : RecordShape σ} {record final : σ} {seen : List String}
  {key : StringToken} {tree other : JsonTree} {fault : Option JsonFault}
  {members others before after : List (StringToken × JsonTree)}

/-- The fields of a record do not mind the order, neither inside their values nor among
themselves. -/
structure OrderFree (shape : RecordShape σ) : Prop where
  fields : ∀ field ∈ shape, ∀ record, JsonTree.OrderFree (field.store · record)
  independent : ∀ first ∈ shape, ∀ second ∈ shape, first.name ≠ second.name →
    RecordField.Independent first second

/-- States that differ in the order of the names that were met. -/
def Alike (first second : List String × σ) : Prop :=
  (∀ name, name ∈ first.1 ↔ name ∈ second.1) ∧ first.2 = second.2

variable {state state' next : List String × σ} {member first second : StringToken × JsonTree}

theorem Step.alike (step : shape.Step member state next) (alike : Alike state state') :
    ∃ next', shape.Step member state' next' ∧ Alike next next' := by
  obtain ⟨met', record'⟩ := state'
  obtain ⟨same, rfl⟩ := alike
  cases step with
  | pass named unknown sound => exact ⟨_, .pass named unknown sound, same, rfl⟩
  | store named known fresh stored =>
    refine ⟨_, .store named known (fun met => fresh ((same _).mpr met)) stored, ?_, rfl⟩
    intro other
    rw [List.mem_cons, List.mem_cons, same]

theorem readMembers_alike (alike : Alike state state')
    (read : shape.readMembers state.1 state.2 members = .ok next) :
    ∃ next', shape.readMembers state'.1 state'.2 members = .ok next' ∧ Alike next next' := by
  induction members generalizing state state' with
  | nil =>
    cases read
    exact ⟨state', rfl, alike⟩
  | cons member members ih =>
    obtain ⟨between, step, rest⟩ := readMembers_cons_eq_ok_iff.mp read
    obtain ⟨between', step', alike'⟩ := step.alike alike
    obtain ⟨next', rest', alike''⟩ := ih alike' rest
    exact ⟨next', readMembers_cons_eq_ok_iff.mpr ⟨between', step', rest'⟩, alike''⟩

/-- Two members side by side may as well be taken the other way round. -/
theorem Step.swap (free : shape.OrderFree) {between : List String × σ}
    (step : shape.Step first state between) (step' : shape.Step second between next) :
    ∃ between' next', shape.Step second state between' ∧ shape.Step first between' next' ∧
      Alike next next' := by
  cases step with
  | pass named unknown sound =>
    cases step' with
    | pass named' unknown' sound' =>
      exact ⟨_, _, .pass named' unknown' sound', .pass named unknown sound, fun _ => Iff.rfl, rfl⟩
    | store named' known' fresh' stored' =>
      exact ⟨_, _, .store named' known' fresh' stored', .pass named unknown sound,
        fun _ => Iff.rfl, rfl⟩
  | @store name field seen _ _ named known fresh stored =>
    cases step' with
    | pass named' unknown' sound' =>
      exact ⟨_, _, .pass named' unknown' sound', .store named known fresh stored,
        fun _ => Iff.rfl, rfl⟩
    | @store name' field' _ _ _ named' known' fresh' stored' =>
      -- both are fields, and not the same one
      rw [List.mem_cons, not_or] at fresh'
      have fieldNamed : field.name = name := by simpa using List.find?_some known
      have fieldNamed' : field'.name = name' := by simpa using List.find?_some known'
      have other : field.name ≠ field'.name := by
        rw [fieldNamed, fieldNamed']
        exact fun same => fresh'.1 same.symm
      obtain ⟨record, stored'', stored⟩ := free.independent field (List.mem_of_find?_eq_some known)
        field' (List.mem_of_find?_eq_some known') other _ _ _ _ _ stored stored'
      have fresh'' : name ∉ name' :: seen := by
        rw [List.mem_cons, not_or]
        exact ⟨fun same => fresh'.1 same.symm, fresh⟩
      refine ⟨_, _, .store named' known' fresh'.2 stored'', .store named known fresh'' stored,
        fun _ => ?_, rfl⟩
      simp only [List.mem_cons]
      exact or_left_comm

/-- Members may as well be taken in another order. -/
theorem readMembers_perm (free : shape.OrderFree) (perm : members.Perm others)
    (read : shape.readMembers seen record members = .ok next) :
    ∃ next', shape.readMembers seen record others = .ok next' ∧ Alike next next' := by
  induction perm generalizing seen record next with
  | nil => exact ⟨next, read, fun _ => Iff.rfl, rfl⟩
  | cons member _ ih =>
    obtain ⟨between, step, rest⟩ := readMembers_cons_eq_ok_iff.mp read
    obtain ⟨next', rest', alike⟩ := ih rest
    exact ⟨next', readMembers_cons_eq_ok_iff.mpr ⟨between, step, rest'⟩, alike⟩
  | swap second first members =>
    -- two members that change places are stored in either order with the same result
    obtain ⟨between, step, rest⟩ := readMembers_cons_eq_ok_iff.mp read
    obtain ⟨behind, step', rest'⟩ := readMembers_cons_eq_ok_iff.mp rest
    obtain ⟨between', behind', swapped, swapped', alike⟩ := step.swap free step'
    obtain ⟨next', rest'', alike'⟩ := readMembers_alike alike rest'
    refine ⟨next', readMembers_cons_eq_ok_iff.mpr ⟨between', swapped, ?_⟩, alike'⟩
    exact readMembers_cons_eq_ok_iff.mpr ⟨behind', swapped', rest''⟩
  | trans _ _ ih ih' =>
    obtain ⟨between, read', same, stored⟩ := ih read
    obtain ⟨next', read'', same', stored'⟩ := ih' read'
    exact ⟨next', read'', fun name => (same name).trans (same' name), stored.trans stored'⟩

/-- A reordering inside a value makes no difference to those who take its member. -/
theorem readMembers_value (free : shape.OrderFree) (inner : JsonTree.Reordering tree other)
    (read : shape.readMembers seen record (before ++ (key, tree) :: after) = .ok next) :
    shape.readMembers seen record (before ++ (key, other) :: after) = .ok next := by
  induction before generalizing seen record with
  | nil =>
    obtain ⟨between, step, rest⟩ := readMembers_cons_eq_ok_iff.mp read
    refine readMembers_cons_eq_ok_iff.mpr ⟨between, ?_, rest⟩
    cases step with
    | pass named unknown sound => exact .pass named unknown (inner.sound sound)
    | @store _ field _ _ _ named known fresh stored =>
      have mem := List.mem_of_find?_eq_some known
      have stored' := free.fields field mem _ tree other _ inner stored
      exact .store named known fresh stored'
  | cons member before ih =>
    obtain ⟨between, step, rest⟩ := readMembers_cons_eq_ok_iff.mp read
    exact readMembers_cons_eq_ok_iff.mpr ⟨between, step, ih rest⟩

/-- So it is inside an item. -/
theorem readItems_item
    (fields : ∀ field ∈ shape, ∀ record, JsonTree.OrderFree (field.store · record))
    (inner : JsonTree.Reordering tree other) {front back : List JsonTree}
    (read : readItems record fault shape (front ++ tree :: back) = .ok final) :
    readItems record fault shape (front ++ other :: back) = .ok final := by
  induction shape generalizing front record with
  | nil => cases front <;> cases read
  | cons field shape ih =>
    rw [List.forall_mem_cons] at fields
    cases front with
    | nil =>
      rw [List.nil_append, readItems] at read ⊢
      split at read
      · cases read
      · next stored =>
        have stored' : field.store other record = .ok _ :=
          fields.1 record tree other _ inner stored
        rwa [stored']
    | cons item front =>
      rw [List.cons_append, readItems] at read ⊢
      split at read
      · cases read
      · exact ih fields.2 read

/-- **Records.** A record is read from reordered trees alike if its fields can be stored in any
order. -/
theorem OrderFree.read (free : shape.OrderFree) (blank : σ) :
    JsonTree.OrderFree (shape.read blank) := by
  intro tree other final step read
  cases step with
  | members perm =>
    obtain ⟨closed, seen, taken, complete⟩ := read_object_eq_ok_iff.mp read
    obtain ⟨⟨seen', _⟩, taken', same, rfl⟩ := readMembers_perm free perm taken
    refine read_object_eq_ok_iff.mpr ⟨closed, seen', taken', fun field mem required => ?_⟩
    exact (same field.name).mp (complete field mem required)
  | value inner =>
    obtain ⟨closed, seen, taken, complete⟩ := read_object_eq_ok_iff.mp read
    have taken' := readMembers_value free inner taken
    exact read_object_eq_ok_iff.mpr ⟨closed, seen, taken', complete⟩
  | item inner => exact readItems_item free.fields inner read

/-! ### One field or two -/

theorem orderFree_singleton {first : RecordField σ}
    (free : ∀ record, JsonTree.OrderFree (first.store · record)) :
    OrderFree [first] where
  fields := List.forall_mem_singleton.mpr free
  independent := by
    intro field mem field' mem' other
    rw [List.mem_singleton.mp mem, List.mem_singleton.mp mem'] at other
    exact absurd rfl other

/-- Of two fields it is enough that they change the record independently. -/
theorem orderFree_pair {first second : RecordField σ} {reader : JsonTree → Except JsonFault α}
    {reader' : JsonTree → Except JsonFault β} {put : α → σ → σ} {put' : β → σ → σ}
    (store : ∀ tree record, first.store tree record = (reader tree).map (put · record))
    (store' : ∀ tree record, second.store tree record = (reader' tree).map (put' · record))
    (free : JsonTree.OrderFree reader) (free' : JsonTree.OrderFree reader')
    (comm : ∀ a b record, put' b (put a record) = put a (put' b record)) :
    OrderFree [first, second] where
  fields := by
    rw [List.forall_mem_cons, List.forall_mem_singleton]
    refine ⟨fun record => ?_, fun record => ?_⟩
    · simp only [store]
      exact free.map _
    · simp only [store']
      exact free'.map _
  independent := by
    simp only [List.mem_cons, List.not_mem_nil, or_false]
    rintro field (rfl | rfl) field' (rfl | rfl) other
    · exact absurd rfl other
    · exact RecordField.independent_of_comm store store' comm
    · exact RecordField.independent_of_comm store' store fun b a record => (comm a b record).symm
    · exact absurd rfl other

end RecordShape

/-! ## Values -/

namespace Json.Reordering

/-- In front of what is reordered there may be another member. -/
theorem object_cons {members others : List (String × Json)} (member : String × Json)
    (step : Reordering (.object members) (.object others)) :
    Reordering (.object (member :: members)) (.object (member :: others)) := by
  cases step with
  | members perm => exact .members (perm.cons member)
  | value inner => exact @Reordering.value (member :: _) _ _ _ _ inner

/-- Or another item. -/
theorem array_cons {items others : List Json} (item : Json)
    (step : Reordering (.array items) (.array others)) :
    Reordering (.array (item :: items)) (.array (item :: others)) := by
  cases step with
  | item inner => exact @Reordering.item (item :: _) _ _ _ inner

end Json.Reordering

namespace JsonTree

variable {tree other : JsonTree} {whole : Json} {depth : Nat} {key : StringToken}
  {members others before after : List (StringToken × JsonTree)} {inner : List (String × Json)}

theorem memberValues_perm (perm : members.Perm others)
    (read : memberValues depth members = .ok inner) :
    ∃ inner', memberValues depth others = .ok inner' ∧ inner.Perm inner' := by
  induction perm generalizing inner with
  | nil => exact ⟨inner, read, .refl _⟩
  | cons member _ ih =>
    obtain ⟨name, value, rest, named, single, behind, rfl⟩ := memberValues_cons_eq_ok_iff.mp read
    obtain ⟨rest', behind', perm⟩ := ih behind
    exact ⟨_, memberValues_cons_eq_ok_iff.mpr ⟨name, value, rest', named, single, behind', rfl⟩,
      perm.cons _⟩
  | swap second first members =>
    obtain ⟨name, value, _, named, single, behind, rfl⟩ := memberValues_cons_eq_ok_iff.mp read
    obtain ⟨name', value', rest, named', single', behind', rfl⟩ :=
      memberValues_cons_eq_ok_iff.mp behind
    have swapped := memberValues_cons_eq_ok_iff.mpr ⟨name, value, rest, named, single, behind', rfl⟩
    exact ⟨_, memberValues_cons_eq_ok_iff.mpr ⟨name', value', _, named', single', swapped, rfl⟩,
      .swap _ _ _⟩
  | trans _ _ ih ih' =>
    obtain ⟨between, read', perm⟩ := ih read
    obtain ⟨inner', read'', perm'⟩ := ih' read'
    exact ⟨inner', read'', perm.trans perm'⟩

/-- The value of the other tree is a reordering of the value of the one. -/
def ValueReordered (depth : Nat) (tree other : JsonTree) : Prop :=
  ∀ whole, tree.value depth = .ok whole →
    ∃ whole', other.value depth = .ok whole' ∧ whole.Reordering whole'

theorem memberValues_value (single : ValueReordered depth tree other)
    (read : memberValues depth (before ++ (key, tree) :: after) = .ok inner) :
    ∃ inner', memberValues depth (before ++ (key, other) :: after) = .ok inner' ∧
      (Json.object inner).Reordering (.object inner') := by
  induction before generalizing inner with
  | nil =>
    obtain ⟨name, value, rest, named, found, behind, rfl⟩ := memberValues_cons_eq_ok_iff.mp read
    obtain ⟨value', found', step⟩ := single value found
    exact ⟨_, memberValues_cons_eq_ok_iff.mpr ⟨name, value', rest, named, found', behind, rfl⟩,
      @Json.Reordering.value [] _ _ _ _ step⟩
  | cons member before ih =>
    obtain ⟨name, value, rest, named, found, behind, rfl⟩ := memberValues_cons_eq_ok_iff.mp read
    obtain ⟨rest', behind', step⟩ := ih behind
    exact ⟨_, memberValues_cons_eq_ok_iff.mpr ⟨name, value, rest', named, found, behind', rfl⟩,
      step.object_cons _⟩

theorem values_item (single : ValueReordered depth tree other) {front back : List JsonTree}
    {inner : List Json} (read : values depth (front ++ tree :: back) = .ok inner) :
    ∃ inner', values depth (front ++ other :: back) = .ok inner' ∧
      (Json.array inner).Reordering (.array inner') := by
  induction front generalizing inner with
  | nil =>
    obtain ⟨value, rest, found, behind, rfl⟩ := values_cons_eq_ok_iff.mp read
    obtain ⟨value', found', step⟩ := single value found
    exact ⟨_, values_cons_eq_ok_iff.mpr ⟨value', rest, found', behind, rfl⟩,
      @Json.Reordering.item [] _ _ _ step⟩
  | cons item front ih =>
    obtain ⟨value, rest, found, behind, rfl⟩ := values_cons_eq_ok_iff.mp read
    obtain ⟨rest', behind', step⟩ := ih behind
    exact ⟨_, values_cons_eq_ok_iff.mpr ⟨value, rest', found, behind', rfl⟩, step.array_cons _⟩

/-- The value of a reordered tree is reordered in the same way. -/
theorem value_of_reordering (step : Reordering tree other) (depth : Nat) :
    ValueReordered depth tree other := by
  induction step generalizing depth with
  | members perm =>
    intro whole read
    obtain ⟨deep, closed, inner, found, rfl⟩ := value_object_eq_ok_iff.mp read
    obtain ⟨inner', found', perm'⟩ := memberValues_perm perm found
    exact ⟨_, value_object_eq_ok_iff.mpr ⟨deep, closed, inner', found', rfl⟩, .members perm'⟩
  | value _ ih =>
    intro whole read
    obtain ⟨deep, closed, inner, found, rfl⟩ := value_object_eq_ok_iff.mp read
    obtain ⟨inner', found', step'⟩ := memberValues_value (ih (depth - 1)) found
    exact ⟨_, value_object_eq_ok_iff.mpr ⟨deep, closed, inner', found', rfl⟩, step'⟩
  | item _ ih =>
    intro whole read
    obtain ⟨deep, closed, inner, found, rfl⟩ := value_array_eq_ok_iff.mp read
    obtain ⟨inner', found', step'⟩ := values_item (ih (depth - 1)) found
    exact ⟨_, value_array_eq_ok_iff.mpr ⟨deep, closed, inner', found', rfl⟩, step'⟩

end JsonTree

/-! ## Looking up members -/

/-- Values of which the one is the other or a reordering of it. -/
abbrev Json.Alike : Json → Json → Prop :=
  Relation.ReflGen Json.Reordering

namespace TaggedBody

variable {name key : String} {value other : Json} {members others : List (String × Json)}
  {body body' : TaggedBody}

theorem onlyMember?_eq_some_iff :
    onlyMember? name members = some value ↔ members.filter (·.1 == name) = [(name, value)] := by
  unfold onlyMember?
  split
  · next key value' single =>
    have mem : (key, value') ∈ members.filter (·.1 == name) := by
      rw [single]
      exact List.mem_cons_self
    have named : key = name := beq_iff_eq.mp (List.mem_filter.mp mem).2
    rw [single, named]
    simp
  · next other =>
    exact iff_of_false nofun fun single => other _ _ single

theorem onlyMember?_perm (perm : members.Perm others) (name : String) :
    onlyMember? name members = onlyMember? name others := by
  have kept := perm.filter (·.1 == name)
  refine Option.ext fun value => ?_
  rw [onlyMember?_eq_some_iff, onlyMember?_eq_some_iff]
  constructor
  · intro single
    rw [single] at kept
    exact List.perm_singleton.mp kept.symm
  · intro single
    rw [single] at kept
    exact List.perm_singleton.mp kept

/-- A member of another name makes no difference. -/
theorem onlyMember?_cons_of_ne (different : key ≠ name) :
    onlyMember? name ((key, value) :: members) = onlyMember? name members := by
  refine Option.ext fun _ => ?_
  simp [onlyMember?_eq_some_iff, different]

/-- A member of the name is the only one unless there is another one. -/
theorem onlyMember?_cons_self :
    onlyMember? name ((name, value) :: members) =
      if members.any (·.1 == name) then none else some value := by
  refine Option.ext fun only => ?_
  simp only [onlyMember?_eq_some_iff, List.filter_cons, beq_self_eq_true, if_true, List.cons.injEq,
    Prod.mk.injEq, true_and, List.filter_eq_nil_iff, Option.ite_none_left_eq_some,
    Option.some.injEq, List.any_eq_true, not_exists, not_and]
  exact and_comm

/-- What is looked up in a reordered object is reordered, if anything. -/
theorem onlyMember?_of_reordering (name : String)
    (step : Json.Reordering (.object members) (.object others)) :
    Option.Rel Json.Alike (onlyMember? name members) (onlyMember? name others) := by
  cases step with
  | members perm =>
    rw [onlyMember?_perm perm]
    cases onlyMember? name others with
    | none => exact .none
    | some value => exact .some .refl
  | @value before after key value other inner =>
    -- the member whose value was reordered is brought to the front
    rw [onlyMember?_perm List.perm_middle, onlyMember?_perm List.perm_middle]
    by_cases same : key = name
    · subst same
      rw [onlyMember?_cons_self, onlyMember?_cons_self]
      split
      · exact .none
      · exact .some (.single inner)
    · rw [onlyMember?_cons_of_ne same, onlyMember?_cons_of_ne same]
      cases onlyMember? name (before ++ after) with
      | none => exact .none
      | some value => exact .some .refl

/-- So are the members of other names. -/
theorem alike_filter (name : String) (step : Json.Reordering (.object members) (.object others)) :
    Json.Alike (.object (members.filter (·.1 != name)))
      (.object (others.filter (·.1 != name))) := by
  cases step with
  | members perm => exact .single (.members (perm.filter _))
  | @value before after key value other inner =>
    simp only [List.filter_append, List.filter_cons]
    split
    · exact .single (.value inner)
    · exact .refl

/-- The rest of a tagged value, as a value of its own. -/
def whole : TaggedBody → Json
  | object members => .object members
  | array items => .array items

theorem whole_injective : Function.Injective whole := by
  intro body body' same
  cases body <;> cases body' <;> cases same <;> rfl

/-- A field is looked up in a reordered body like a member in a reordered object. -/
theorem field?_of_alike (name : String) (alike : Json.Alike body.whole body'.whole) :
    Option.Rel Json.Alike (body.field? name) (body'.field? name) := by
  rcases Relation.reflGen_iff _ _ _ |>.mp alike with same | step
  · rw [whole_injective same]
    cases body.field? name with
    | none => exact .none
    | some value => exact .some .refl
  · cases body with
    | object members =>
      cases body' with
      | object others => exact onlyMember?_of_reordering name step
      | array items => cases step
    | array items =>
      cases body' with
      | object others => cases step
      | array others =>
        cases step with
        | @item before after value other inner =>
          -- only a single item is a field
          match before, after with
          | [], [] => exact .some (.single inner)
          | [], _ :: _ => exact .none
          | [_], _ => exact .none
          | _ :: _ :: _, _ => exact .none

end TaggedBody

/-- A function that makes the same of reordered values. -/
def Json.OrderFree {α : Type} (f : Json → α) : Prop :=
  ∀ value other, value.Reordering other → f value = f other

end Polyglot
