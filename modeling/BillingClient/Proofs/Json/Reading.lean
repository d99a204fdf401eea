import BillingClient.Json.Record

/-!
Contract: what the reading of a record from an object accepts, and what it gives.

A field reads the members with its name and nothing else: `Field.Accepts` says when they
are good, `Field.GivenBy` which value they give. Main statements:
`Schema.isSome_decodeMembers_iff` and `Schema.decodeMembers_eq_some_iff` for all fields of
a record at once, `Schema.decodeMembers_congr` for what has no influence.
-/

namespace BillingClient.Json

/-! ## Members by name -/

namespace Members

theorem haveKeys_perm {left right : Members} (permutation : left.Perm right) :
    haveKeys left = haveKeys right := by
  unfold haveKeys
  exact permutation.all_eq

theorem haveKeys_append (left right : Members) :
    haveKeys (left ++ right) = (haveKeys left && haveKeys right) := by
  unfold haveKeys
  exact List.all_append

theorem named_perm {left right : Members} (permutation : left.Perm right) (name : String) :
    (named left name).Perm (named right name) := by
  unfold named
  exact (permutation.filter _).map _

theorem named_append (left right : Members) (name : String) :
    named (left ++ right) name = named left name ++ named right name := by
  unfold named
  rw [List.filter_append, List.map_append]

theorem named_eq_nil {members : Members} {name : String}
    (other : ∀ member ∈ members, StringText.string? member.1 ≠ some name) :
    named members name = [] := by
  unfold named
  rw [List.map_eq_nil_iff, List.filter_eq_nil_iff]
  intro member memberIn
  simpa using other member memberIn

theorem named_cons_self {key : StringText} {name : String} (node : Node) (members : Members)
    (isName : StringText.string? key = some name) :
    named ((key, node) :: members) name = node :: named members name := by
  unfold named
  rw [List.filter_cons_of_pos (by simpa using isName), List.map_cons]

theorem named_cons_ne {key : StringText} {name : String} (node : Node) (members : Members)
    (otherName : StringText.string? key ≠ some name) :
    named ((key, node) :: members) name = named members name := by
  unfold named
  rw [List.filter_cons_of_neg (by simpa using otherName)]

end Members

/-! ## One field -/

namespace Field

variable {α : Type}

/-- A value that may be absent. -/
inductive IsOptional : {α : Type} → Field α → Prop
  | mk {α : Type} (name : String) (codec : Codec α) : IsOptional (.optional name codec)

/-- A list or a map. -/
inductive IsCollection : {α : Type} → Field α → Prop
  | list {α : Type} (name : String) (codec : Codec α) : IsCollection (.list name codec)
  | fullList {α : Type} (name : String) (codec : Codec α) : IsCollection (.fullList name codec)
  | map {α : Type} (name : String) (codec : Codec α) : IsCollection (.map name codec)

theorem IsOptional.decode_null {field : Field α} (isOptional : field.IsOptional) (place : Place) :
    field.codec.decode place .null = some field.absent := by
  cases isOptional
  rfl

theorem IsCollection.decode_null {field : Field α} (isCollection : field.IsCollection)
    (place : Place) : field.codec.decode place .null = none := by
  cases isCollection <;> rfl

variable (field : Field α)

/-- The value that the members with a field's name give it. -/
def ofNamed (place : Place) : List Node → Option α
  | [] => some field.absent
  | [node] => field.codec.decode place node
  | _ => none

/-- At most one member has the name of a field, and it is good. -/
def Accepts (place : Place) (members : Members) : Prop :=
  (members.named field.name).length ≤ 1 ∧
    ∀ node ∈ members.named field.name, (field.codec.decode place node).isSome

/-- A value is that of the only member with the name of a field, or the absent one. -/
def GivenBy (place : Place) (members : Members) (value : α) : Prop :=
  members.named field.name = [] ∧ value = field.absent ∨
    ∃ node, members.named field.name = [node] ∧ field.codec.decode place node = some value

/-- A value is that of the element at the place of a field, or the absent one behind the last. -/
def GivenAt (place : Place) (nodes : List Node) (index : Nat) (value : α) : Prop :=
  nodes[index]? = none ∧ value = field.absent ∨
    ∃ node, nodes[index]? = some node ∧ field.codec.decode place node = some value

theorem isSome_ofNamed_iff (place : Place) (members : Members) :
    (field.ofNamed place (members.named field.name)).isSome ↔ field.Accepts place members := by
  unfold Accepts
  cases members.named field.name with
  | nil => simp [ofNamed]
  | cons node rest =>
      cases rest with
      | nil => simp [ofNamed]
      | cons second rest => simp [ofNamed]

theorem ofNamed_eq_some_iff (place : Place) (members : Members) (value : α) :
    field.ofNamed place (members.named field.name) = some value ↔
      field.GivenBy place members value := by
  unfold GivenBy
  cases members.named field.name with
  | nil => simp [ofNamed, eq_comm]
  | cons node rest =>
      cases rest with
      | nil => simp [ofNamed]
      | cons second rest => simp [ofNamed]

theorem ofNamed_perm (place : Place) {left right : List Node} (permutation : left.Perm right) :
    field.ofNamed place left = field.ofNamed place right := by
  have sameLength := permutation.length_eq
  match left, right with
  | [], [] => rfl
  | [node], [again] =>
      obtain rfl : node = again := by simpa using permutation
      rfl
  | _ :: _ :: _, _ :: _ :: _ => rfl
  | [], _ :: _ => simp at sameLength
  | _ :: _, [] => simp at sameLength
  | [_], _ :: _ :: _ => simp at sameLength
  | _ :: _ :: _, [_] => simp at sameLength

theorem IsOptional.ofNamed_null {field : Field α} (isOptional : field.IsOptional)
    (place : Place) : field.ofNamed place [.null] = field.ofNamed place [] :=
  isOptional.decode_null place

end Field

/-- A field that an object may leave out: a value that may be absent, or a collection. -/
class Field.IsWire {α : Type} (field : Field α) : Prop where
  optional_or_collection : field.IsOptional ∨ field.IsCollection

namespace Field.IsWire

variable {α : Type} (name : String) (codec : Codec α)

instance : IsWire (.optional name codec) := ⟨.inl ⟨name, codec⟩⟩

instance : IsWire (.list name codec) := ⟨.inr (.list name codec)⟩

instance : IsWire (.fullList name codec) := ⟨.inr (.fullList name codec)⟩

instance : IsWire (.map name codec) := ⟨.inr (.map name codec)⟩

end Field.IsWire

/-! ## All fields of a record -/

/-- A field of a model, and whether it belongs to an inner record, whose members are
collected before they are read. -/
structure WireField : Type 1 where
  {Carrier : Type}
  field : Field Carrier
  isInner : Bool

/-- The same place, with the members around it collected. -/
def Place.gathered (place : Place) : Place :=
  { place with collected := true }

/-- Where the member of a field is read, in an object whose members stand at a place. -/
def WireField.place (wire : WireField) (place : Place) : Place :=
  if wire.isInner then place.gathered else place

/-- A field of a model with its value. -/
structure WireCell : Type 1 extends WireField where
  value : Carrier

namespace Schema

variable {ρ : Type}

/-- The fields of a record, in order. -/
def wireFields (isInner : Bool) : {ρ : Type} → Schema ρ → List WireField
  | _, .done => []
  | _, .field first rest => ⟨first, isInner⟩ :: rest.wireFields isInner

/-- The fields of a record with the values of a row, in order. -/
def wireCells (isInner : Bool) : {ρ : Type} → Schema ρ → ρ → List WireCell
  | _, .done, () => []
  | _, .field first rest, (value, row) => ⟨⟨first, isInner⟩, value⟩ :: rest.wireCells isInner row

theorem isInner_of_mem_wireFields {isInner : Bool} {schema : Schema ρ} {wire : WireField}
    (wireIn : wire ∈ schema.wireFields isInner) : wire.isInner = isInner := by
  induction schema with
  | done => cases wireIn
  | field first rest inductionHypothesis =>
      rcases List.mem_cons.1 wireIn with rfl | later
      · rfl
      · exact inductionHypothesis later

theorem map_name_wireFields (isInner : Bool) (schema : Schema ρ) :
    (schema.wireFields isInner).map (·.field.name) = schema.names := by
  induction schema with
  | done => rfl
  | field first rest inductionHypothesis =>
      rw [wireFields, List.map_cons, inductionHypothesis, names]

theorem map_toWireField_wireCells (isInner : Bool) (schema : Schema ρ) (row : ρ) :
    (schema.wireCells isInner row).map WireCell.toWireField = schema.wireFields isInner := by
  induction schema with
  | done => rfl
  | field first rest inductionHypothesis =>
      rw [wireFields, wireCells, List.map_cons, inductionHypothesis]

theorem place_of_mem_wireCells {isInner : Bool} {schema : Schema ρ} {row : ρ} {cell : WireCell}
    (cellIn : cell ∈ schema.wireCells isInner row) (place : Place) :
    cell.place place = if isInner then place.gathered else place := by
  have wireIn : cell.toWireField ∈ schema.wireFields isInner := by
    rw [← map_toWireField_wireCells isInner schema row]
    exact List.mem_map_of_mem cellIn
  unfold WireField.place
  rw [isInner_of_mem_wireFields wireIn]

theorem decodeMembers_field {α : Type} (first : Field α) (rest : Schema ρ) (place : Place)
    (members : Members) :
    (Schema.field first rest).decodeMembers place members =
      (first.ofNamed place (members.named first.name)).bind fun value =>
        (rest.decodeMembers place members).bind fun row => some (value, row) := by
  rw [decodeMembers]
  cases members.named first.name with
  | nil => rfl
  | cons node nodes =>
      cases nodes with
      | nil => rfl
      | cons second nodes => rfl

/-- An object gives a row exactly when each field accepts its members. -/
theorem isSome_decodeMembers_iff (schema : Schema ρ) (isInner : Bool) (place : Place)
    (members : Members) :
    (schema.decodeMembers place members).isSome ↔
      ∀ wire ∈ schema.wireFields isInner, wire.field.Accepts place members := by
  -- The fields are read one after the other, each from all members.
  induction schema with
  | done => simp [decodeMembers, wireFields]
  | field first rest inductionHypothesis =>
      rw [decodeMembers_field, wireFields, List.forall_mem_cons, ← inductionHypothesis,
        ← Field.isSome_ofNamed_iff]
      cases first.ofNamed place (members.named first.name) with
      | none => simp
      | some value => cases rest.decodeMembers place members <;> simp

/-- The row that an object gives holds for each field the value that its members give. -/
theorem decodeMembers_eq_some_iff (schema : Schema ρ) (isInner : Bool) (place : Place)
    (members : Members) (row : ρ) :
    schema.decodeMembers place members = some row ↔
      ∀ cell ∈ schema.wireCells isInner row, cell.field.GivenBy place members cell.value := by
  induction schema with
  | done => simp [decodeMembers, wireCells]
  | field first rest inductionHypothesis =>
      obtain ⟨value, row⟩ := row
      rw [decodeMembers_field, wireCells, List.forall_mem_cons, ← inductionHypothesis,
        ← Field.ofNamed_eq_some_iff]
      cases first.ofNamed place (members.named first.name) with
      | none => simp
      | some found => cases rest.decodeMembers place members <;> simp

/-- The row that an array gives holds for each field the value of the element at its place. -/
theorem givenAt_of_decodeElements {schema : Schema ρ} (isInner : Bool) {place : Place}
    {nodes : List Node} {row : ρ} (decoded : schema.decodeElements place nodes = some row)
    {index : Nat} {cell : WireCell} (isCell : (schema.wireCells isInner row)[index]? = some cell) :
    cell.field.GivenAt place nodes index cell.value := by
  induction schema generalizing nodes index with
  | done => cases isCell
  | field first rest inductionHypothesis =>
      obtain ⟨value, row⟩ := row
      cases nodes with
      | nil =>
          rw [decodeElements] at decoded
          split at decoded
          · obtain ⟨others, othersDecoded, same⟩ := Option.map_eq_some_iff.1 decoded
            cases same
            cases index with
            | zero =>
                cases isCell
                exact .inl ⟨rfl, rfl⟩
            | succ index =>
                have isOther : (rest.wireCells isInner row)[index]? = some cell := isCell
                have given := inductionHypothesis othersDecoded isOther
                exact given
          · cases decoded
      | cons node nodes =>
          obtain ⟨found, foundDecoded, decoded⟩ := Option.bind_eq_some_iff.1 decoded
          obtain ⟨others, othersDecoded, same⟩ := Option.bind_eq_some_iff.1 decoded
          cases same
          cases index with
          | zero =>
              cases isCell
              exact .inr ⟨node, rfl, foundDecoded⟩
          | succ index => exact inductionHypothesis othersDecoded isCell

/-- Only the members with the names of the fields count, and each field may see its own in
any order. -/
theorem decodeMembers_congr (schema : Schema ρ) (place : Place) {left right : Members}
    (same : ∀ name ∈ schema.names, (left.named name).Perm (right.named name)) :
    schema.decodeMembers place left = schema.decodeMembers place right := by
  induction schema with
  | done => rfl
  | field first rest inductionHypothesis =>
      rw [names, List.forall_mem_cons] at same
      rw [decodeMembers_field, decodeMembers_field, inductionHypothesis same.2,
        first.ofNamed_perm place same.1]

/-- A `null` for an absent value counts as no member. -/
theorem decodeMembers_cons_null (schema : Schema ρ) (isInner : Bool) (place : Place)
    {key : StringText} {members : Members}
    (optional : ∀ wire ∈ schema.wireFields isInner,
      StringText.string? key = some wire.field.name →
        wire.field.IsOptional ∧ members.named wire.field.name = []) :
    schema.decodeMembers place ((key, .null) :: members) = schema.decodeMembers place members := by
  induction schema with
  | done => rfl
  | field first rest inductionHypothesis =>
      rw [wireFields, List.forall_mem_cons] at optional
      rw [decodeMembers_field, decodeMembers_field, inductionHypothesis optional.2]
      by_cases isName : StringText.string? key = some first.name
      · obtain ⟨isOptional, absent⟩ := optional.1 isName
        rw [Members.named_cons_self _ _ isName, absent, isOptional.ofNamed_null]
      · rw [Members.named_cons_ne _ _ isName]

end Schema

/-- The fields of a record, each of a kind that an object may leave out. -/
class Schema.IsWire {ρ : Type} (schema : Schema ρ) : Prop where
  optional_or_collection (isInner : Bool) : ∀ wire ∈ schema.wireFields isInner,
    wire.field.IsOptional ∨ wire.field.IsCollection

namespace Schema.IsWire

instance : IsWire .done where
  optional_or_collection _ wire wireIn := by cases wireIn

instance {α ρ : Type} (first : Field α) (rest : Schema ρ) [Field.IsWire first] [IsWire rest] :
    IsWire (.field first rest) where
  optional_or_collection isInner := by
    rw [wireFields, List.forall_mem_cons]
    exact ⟨Field.IsWire.optional_or_collection, IsWire.optional_or_collection isInner⟩

end Schema.IsWire

end BillingClient.Json
