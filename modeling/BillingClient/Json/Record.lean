import BillingClient.Json.Codec
import BillingClient.Json.Reader
import BillingClient.Json.Writer

/-!
Contract: records as JSON objects.

A `Schema` lists the fields of a record in order, each with its name, the codec of
its value, what it is when the member is absent, and when it is left out of the
written object. `Record` ties a schema to a structure.

An object is read field by field: the members with other names are skipped, and a
name that occurs twice is refused. A record may also be read from an array of its
fields in order, where only fields with a default may be missing at the end.
`Record.flattened` adds the members of an inner record beside the outer ones; the
members that are not the outer record's are then collected whole first, so each of
them has to be a good value, and there is no array form.
-/

namespace BillingClient.Json

structure Field (α : Type) where
  name : String
  codec : Codec α
  /-- The value when no member has the name. -/
  absent : α
  /-- Whether an array that ends before the field stands for the absent value. -/
  hasDefault : Bool
  /-- Whether the value is left out of the written object. -/
  isOmitted : α → Bool

namespace Field

variable {α : Type}

/-- A value that may be absent; it is then left out. -/
def optional (name : String) (codec : Codec α) : Field (Option α) :=
  ⟨name, codec.nullable, none, false, Option.isNone⟩

/-- A value that may be absent, always written, then as `null`. -/
def nullable (name : String) (codec : Codec α) : Field (Option α) :=
  ⟨name, codec.nullable, none, true, fun _ => false⟩

/-- A list, left out when empty. -/
def list (name : String) (codec : Codec α) : Field (List α) :=
  ⟨name, codec.list, [], true, List.isEmpty⟩

/-- A list that is always written. -/
def fullList (name : String) (codec : Codec α) : Field (List α) :=
  ⟨name, codec.list, [], true, fun _ => false⟩

/-- A map, left out when empty. -/
def map (name : String) (codec : Codec α) : Field (Map α) :=
  ⟨name, codec.map, .empty, true, Map.isEmpty⟩

/-- A value with a default, always written. -/
def withDefault (name : String) (codec : Codec α) (default : α) : Field α :=
  ⟨name, codec, default, true, fun _ => false⟩

end Field

/-- The fields of a record, in order. The index is the type of the row of their
values. -/
inductive Schema : Type → Type 1 where
  | done : Schema Unit
  | field {α ρ : Type} (field : Field α) (rest : Schema ρ) : Schema (α × ρ)

/-- The members of an object as written. -/
abbrev Members := List (StringText × Node)

/-- The members whose key is a name. -/
def Members.named (members : Members) (name : String) : List Node :=
  (members.filter (StringText.string? ·.1 = some name)).map Prod.snd

/-- Whether every key is a string of characters. -/
def Members.haveKeys (members : Members) : Bool :=
  members.all (StringText.string? ·.1 |>.isSome)

namespace Schema

variable {ρ : Type}

/-- The names of the fields, in order. -/
def names : {ρ : Type} → Schema ρ → List String
  | _, .done => []
  | _, .field first rest => first.name :: rest.names

/-- The row of a record without any member. -/
def absent : {ρ : Type} → Schema ρ → ρ
  | _, .done => ()
  | _, .field first rest => (first.absent, rest.absent)

/-- The members written for a row. -/
def encode : {ρ : Type} → Schema ρ → ρ → List (String × Value)
  | _, .done, () => []
  | _, .field first rest, (value, row) =>
    if first.isOmitted value then rest.encode row
    else (first.name, first.codec.encode value) :: rest.encode row

/-- The row that the members of an object give. -/
def decodeMembers : {ρ : Type} → Schema ρ → Place → Members → Option ρ
  | _, .done, _, _ => some ()
  | _, .field first rest, place, members => do
    let value ← match Members.named members first.name with
      | [] => some first.absent
      | [node] => first.codec.decode place node
      | _ => none
    let row ← rest.decodeMembers place members
    some (value, row)

/-- The row that the elements of an array give. -/
def decodeElements : {ρ : Type} → Schema ρ → Place → List Node → Option ρ
  | _, .done, _, [] => some ()
  | _, .done, _, _ :: _ => none
  | _, .field first rest, place, [] =>
    if first.hasDefault then (rest.decodeElements place []).map (first.absent, ·) else none
  | _, .field first rest, place, node :: nodes => do
    let value ← first.codec.decode place node
    let row ← rest.decodeElements place nodes
    some (value, row)

/-- The row that an object or an array gives. -/
def decode (schema : Schema ρ) (place : Place) : Node → Option ρ
  | .object members => place.inner?.bind fun place =>
    if Members.haveKeys members then schema.decodeMembers place members else none
  | .array nodes => place.inner?.bind fun place => schema.decodeElements place nodes
  | _ => none

end Schema

/-- A structure as a record: a schema, and the passage between the structure and
the rows of the schema, which loses nothing. -/
structure Record (σ : Type) : Type 1 where
  {Row : Type}
  schema : Schema Row
  toRow : σ → Row
  ofRow : Row → σ
  ofRow_toRow : ∀ value, ofRow (toRow value) = value := by intro value; cases value; rfl
  toRow_ofRow : ∀ row, toRow (ofRow row) = row := by intro row; rfl

namespace Record

variable {σ τ : Type}

/-- The members written for a value. -/
def members (record : Record σ) (value : σ) : List (String × Value) :=
  record.schema.encode (record.toRow value)

def codec (record : Record σ) : Codec σ where
  decode place node := (record.schema.decode place node).map record.ofRow
  encode value := .object (record.members value)

/-- The members that belong to none of the names. -/
def others (names : List String) (members : Members) : Members :=
  members.filter fun (key, _) => !names.any (StringText.string? key = some ·)

/-- A value made of an outer and an inner record, whose members stand side by side
in one object. -/
def flattened (outer : Record σ) (inner : Record τ) : Codec (σ × τ) where
  decode
    | place, .object members => place.inner?.bind fun place =>
      let rest := others outer.schema.names members
      if Members.haveKeys members && rest.all (·.2.value? place.room |>.isSome) then do
        let row ← outer.schema.decodeMembers place members
        let innerRow ← inner.schema.decodeMembers { place with collected := true } rest
        some (outer.ofRow row, inner.ofRow innerRow)
      else none
    | _, _ => none
  encode value := .object (outer.members value.1 ++ inner.members value.2)

end Record

/-- The value that a JSON text gives. -/
def Codec.ofBytes? {α : Type} (codec : Codec α) (bytes : List UInt8) : Option α :=
  (read bytes).bind (codec.decode .top)

/-- The JSON text of a value. -/
def Codec.text {α : Type} (codec : Codec α) (value : α) : String :=
  (codec.encode value).text

end BillingClient.Json
