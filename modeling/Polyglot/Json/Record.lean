import Polyglot.Json.Tree

/-!
# Reading records

A record is read from an object, by the names of its fields, or from an array, by their order.
Members with unknown names are passed over, a name given twice is a mismatch, and what is missing
is a mismatch unless the field allows for it. Faults are reported in the order of the text.
-/

namespace Polyglot

namespace JsonTree

/-- The problem with a value of a type that nobody wants here: its own fault, if a token is bad,
and otherwise the type. -/
def unexpected : JsonTree → JsonFault
  | number token =>
    match token.read with
    | .error fault => fault
    | .ok _ => .mismatched
  | string token =>
    match token.read with
    | .error fault => fault
    | .ok _ => .mismatched
  | broken fault => fault
  | _ => .mismatched

def text : JsonTree → Except JsonFault String
  | string token => token.read
  | tree => .error tree.unexpected

def single : JsonTree → Except JsonFault Single
  | number token => token.read.map JsonNumber.toSingle
  | tree => .error tree.unexpected

/-- A whole number below a bound. -/
def natural (bound : Nat) : JsonTree → Except JsonFault Nat
  | number token =>
    match token.read with
    | .error fault => .error fault
    | .ok (.whole n) => if 0 ≤ n && n < bound then .ok n.toNat else .error .mismatched
    | .ok (.double _ _) => .error .mismatched
  | tree => .error tree.unexpected

def word32 (tree : JsonTree) : Except JsonFault UInt32 :=
  (tree.natural 0x100000000).map UInt32.ofNat

def word64 (tree : JsonTree) : Except JsonFault UInt64 :=
  (tree.natural 0x10000000000000000).map UInt64.ofNat

/-- A value or null. -/
def nullable {α : Type} (reader : JsonTree → Except JsonFault α) :
    JsonTree → Except JsonFault (Option α)
  | null => .ok none
  | tree => (reader tree).map some

/-- Every item of an array. -/
def list {α : Type} (reader : JsonTree → Except JsonFault α) : JsonTree → Except JsonFault (List α)
  | array items fault =>
    match items.mapM reader, fault with
    | .error fault, _ => .error fault
    | .ok _, some fault => .error fault
    | .ok values, none => .ok values
  | tree => .error tree.unexpected

end JsonTree

/-- When a field may be missing. -/
inductive Presence where
  | required
  /-- From an object, but not from an array. -/
  | nullable
  | defaulted
deriving DecidableEq, Repr

/-- A field of records that are built up as values of `σ`. -/
structure RecordField (σ : Type) where
  name : String
  presence : Presence
  store : JsonTree → σ → Except JsonFault σ

/-- The fields of a record in order. -/
abbrev RecordShape (σ : Type) := List (RecordField σ)

namespace RecordShape

variable {σ : Type}

/-- Read members in order; `seen` are the names of fields met before. -/
def readMembers (shape : RecordShape σ) (seen : List String) (record : σ) :
    List (StringToken × JsonTree) → Except JsonFault (List String × σ)
  | [] => .ok (seen, record)
  | (key, tree) :: members =>
    match key.read with
    | .error fault => .error fault
    | .ok name =>
      match shape.find? (·.name == name) with
      | none =>
        match tree.skip with
        | .error fault => .error fault
        | .ok () => readMembers shape seen record members
      | some field =>
        if seen.contains name then .error .mismatched
        else match field.store tree record with
          | .error fault => .error fault
          | .ok record => readMembers shape (name :: seen) record members

/-- Read items in order, one for each field. -/
def readItems (record : σ) (fault : Option JsonFault) :
    RecordShape σ → List JsonTree → Except JsonFault σ
  | [], [] =>
    match fault with
    | some fault => .error fault
    | none => .ok record
  | [], _ :: _ => .error .malformed
  | field :: shape, [] =>
    match fault with
    | some fault => .error fault
    | none =>
      if (field :: shape).all (·.presence == .defaulted) then .ok record else .error .mismatched
  | field :: shape, item :: items =>
    match field.store item record with
    | .error fault => .error fault
    | .ok record => readItems record fault shape items

/-- Read a record; `blank` holds the values of fields that may be missing. -/
def read (shape : RecordShape σ) (blank : σ) : JsonTree → Except JsonFault σ
  | .object members fault =>
    match readMembers shape [] blank members, fault with
    | .error fault, _ => .error fault
    | .ok _, some fault => .error fault
    | .ok (seen, record), none =>
      if shape.all fun field => field.presence != .required || seen.contains field.name then
        .ok record
      else .error .mismatched
  | .array items fault => readItems blank fault shape items
  | tree => .error tree.unexpected

end RecordShape

/-- A field that must be there. -/
def RecordField.required {σ α : Type} (name : String) (reader : JsonTree → Except JsonFault α)
    (put : α → σ → σ) : RecordField σ :=
  ⟨name, .required, fun tree record => (reader tree).map (put · record)⟩

/-- A field that may be null or, in an object, missing. -/
def RecordField.nullable {σ α : Type} (name : String) (reader : JsonTree → Except JsonFault α)
    (put : Option α → σ → σ) : RecordField σ :=
  ⟨name, .nullable, fun tree record => (tree.nullable reader).map (put · record)⟩

/-- A field that keeps its default when it is missing. -/
def RecordField.defaulted {σ α : Type} (name : String) (reader : JsonTree → Except JsonFault α)
    (put : α → σ → σ) : RecordField σ :=
  ⟨name, .defaulted, fun tree record => (reader tree).map (put · record)⟩

/-! ## Tagged values -/

/-- What remains of a tagged value when the tag is taken out: members or items, all checked. -/
inductive TaggedBody where
  | object (members : List (String × Json))
  | array (items : List Json)

namespace TaggedBody

/-- The members of an object but for its tag, which must be there once. -/
def readMembers {κ : Type} (tag : String) (kind : String → Option κ) (depth : Nat)
    (found : Option κ) : List (StringToken × JsonTree) →
    Except JsonFault (Option κ × List (String × Json))
  | [] => .ok (found, [])
  | (key, tree) :: members =>
    match key.read with
    | .error fault => .error fault
    | .ok name =>
      if name = tag then
        if found.isSome then .error .mismatched
        else match tree.text with
          | .error fault => .error fault
          | .ok word =>
            match kind word with
            | none => .error .mismatched
            | some k => readMembers tag kind depth (some k) members
      else match tree.value depth with
        | .error fault => .error fault
        | .ok value =>
          (readMembers tag kind depth found members).map fun (found, rest) =>
            (found, (name, value) :: rest)

/-- Read a tagged value: an object with the tag among its members, or an array with the tag in
the first place. `depth` brackets may stand inside one another. -/
def read {κ : Type} (tag : String) (kind : String → Option κ) (depth : Nat) :
    JsonTree → Except JsonFault (κ × TaggedBody)
  | .object members fault =>
    match readMembers tag kind (depth - 1) none members, fault with
    | .error fault, _ => .error fault
    | .ok _, some fault => .error fault
    | .ok (none, _), none => .error .mismatched
    | .ok (some k, rest), none => .ok (k, .object rest)
  | .array [] fault => .error (fault.getD .mismatched)
  | .array (first :: rest) fault =>
    match first.text with
    | .error fault => .error fault
    | .ok word =>
      match kind word with
      | none => .error .mismatched
      | some k =>
        match JsonTree.values (depth - 1) rest, fault with
        | .error fault, _ => .error fault
        | .ok _, some fault => .error fault
        | .ok values, none => .ok (k, .array values)
  | tree => .error tree.unexpected

/-- The value of the only member of the given name. -/
def onlyMember? (name : String) (members : List (String × Json)) : Option Json :=
  match members.filter (·.1 == name) with
  | [(_, value)] => some value
  | _ => none

/-- The value of the only field of the body. Members with other names are passed over, items
beyond the first are not. -/
def field? (name : String) : TaggedBody → Option Json
  | object members => onlyMember? name members
  | array [value] => some value
  | array _ => none

end TaggedBody

end Polyglot
