import BillingClient.Proofs.Json.FaithfulRecord
import BillingClient.Proofs.Json.WireForm

/-!
Contract: which members of an object are written.

A field is held when its value is present, when it is a list or a map with something in it,
or when it is a list that is always written. Main statement: `WireForm.exists_writesHeld`, by
which the members written for a value are those of the fields that it holds, each once and in
the order of the fields, in either wire form.
-/

namespace BillingClient.Json

/-- Whether a JSON value is neither `null` nor holds other values. -/
inductive Value.IsScalar : Value → Prop
  | bool (value : Bool) : IsScalar (.bool value)
  | number (value : Number) : IsScalar (.number value)
  | string (value : String) : IsScalar (.string value)

/-! ## One field -/

namespace Field

variable {α : Type}

/-- Whether the value of a field is there. -/
inductive IsHeld : {α : Type} → Field α → α → Prop
  | present {α : Type} (name : String) (codec : Codec α) (value : α) :
      IsHeld (.optional name codec) (some value)
  | list {α : Type} (name : String) (codec : Codec α) {values : List α} (nonempty : values ≠ []) :
      IsHeld (.list name codec) values
  | fullList {α : Type} (name : String) (codec : Codec α) (values : List α) :
      IsHeld (.fullList name codec) values
  | map {α : Type} (name : String) (codec : Codec α) {map : Map α} (nonempty : map.entries ≠ []) :
      IsHeld (.map name codec) map

/-- Whether an optional field of a free value holds `null`. -/
inductive HoldsFreeNull : {α : Type} → Field α → α → Prop
  | mk (name : String) : HoldsFreeNull (.optional name .free) (some .null)

variable {field : Field α}

theorem isHeld_iff (isWire : field.IsOptional ∨ field.IsCollection) (value : α) :
    field.IsHeld value ↔ field.isOmitted value = false := by
  constructor
  · rintro (_ | ⟨_, _, nonempty⟩ | _ | ⟨_, _, nonempty⟩)
    · rfl
    · exact List.isEmpty_eq_false_iff.2 nonempty
    · rfl
    · exact List.isEmpty_eq_false_iff.2 nonempty
  · intro written
    rcases isWire with ⟨name, codec⟩ | ⟨name, codec⟩ | ⟨name, codec⟩ | ⟨name, codec⟩
    · cases value with
      | none => cases written
      | some value => exact .present name codec value
    · exact .list name codec (List.isEmpty_eq_false_iff.1 written)
    · exact .fullList name codec value
    · exact .map name codec (List.isEmpty_eq_false_iff.1 written)

theorem not_isHeld_none (name : String) (codec : Codec α) :
    ¬ (Field.optional name codec).IsHeld none := by
  rw [isHeld_iff (.inl ⟨name, codec⟩)]
  exact nofun

/-- A field is always written exactly when it is written for the absent value. -/
theorem forall_isHeld_iff (isWire : field.IsOptional ∨ field.IsCollection) :
    (∀ value, field.IsHeld value) ↔ field.isOmitted field.absent = false := by
  simp only [isHeld_iff isWire]
  refine ⟨fun always => always field.absent, fun written value => ?_⟩
  rcases isWire with ⟨_, _⟩ | ⟨_, _⟩ | ⟨_, _⟩ | ⟨_, _⟩
  · cases written
  · cases written
  · rfl
  · cases written

end Field

/-! ## All fields of a record -/

namespace Schema

variable {ρ : Type}

theorem mem_encode_iff (schema : Schema ρ) (isInner : Bool) (row : ρ) (key : String)
    (written : Value) :
    (key, written) ∈ schema.encode row ↔
      ∃ cell ∈ schema.wireCells isInner row, cell.field.isOmitted cell.value = false ∧
        cell.field.name = key ∧ cell.field.codec.encode cell.value = written := by
  induction schema with
  | done => simp [encode, wireCells]
  | field first rest inductionHypothesis =>
      obtain ⟨value, row⟩ := row
      rw [encode, wireCells, List.exists_mem_cons_iff, ← inductionHypothesis row]
      cases omitted : first.isOmitted value with
      | true => simp
      | false => simp [eq_comm]

end Schema

/-! ## Wire forms -/

namespace WireForm

variable {σ : Type}

/-- The members written for a value are those of the fields that it holds. -/
structure WritesHeld (form : WireForm σ) (value : σ) (members : List (String × Value)) : Prop where
  keys_nodup : (members.map Prod.fst).Nodup
  keys_sublist : (members.map Prod.fst).Sublist form.names
  mem_iff : ∀ key written, (key, written) ∈ members ↔
    ∃ cell ∈ form.wireCells value, cell.field.IsHeld cell.value ∧
      cell.field.name = key ∧ cell.field.codec.encode cell.value = written

/-- The members that a wire form writes for a value. -/
def members : WireForm σ → σ → List (String × Value)
  | .plain record, value => record.members value
  | .joined outer inner _ split .., value =>
      outer.members (split value).1 ++ inner.members (split value).2

theorem encode_eq_object (form : WireForm σ) (value : σ) :
    form.codec.encode value = .object (form.members value) := by
  cases form <;> rfl

theorem keys_members_sublist (form : WireForm σ) (value : σ) :
    ((form.members value).map Prod.fst).Sublist form.names := by
  cases form with
  | plain record =>
      rw [names_plain]
      exact record.schema.keys_encode_sublist _
  | joined outer inner join split =>
      rw [names_joined, members, List.map_append]
      exact (outer.schema.keys_encode_sublist _).append (inner.schema.keys_encode_sublist _)

theorem mem_members_iff (form : WireForm σ) (value : σ) (key : String) (written : Value) :
    (key, written) ∈ form.members value ↔
      ∃ cell ∈ form.wireCells value, cell.field.isOmitted cell.value = false ∧
        cell.field.name = key ∧ cell.field.codec.encode cell.value = written := by
  cases form with
  | plain record => exact record.schema.mem_encode_iff false _ key written
  | joined outer inner join split =>
      simp only [members, wireCells, Record.members, List.mem_append,
        outer.schema.mem_encode_iff false, inner.schema.mem_encode_iff true, or_and_right,
        exists_or]

/-- A form whose names differ writes an object of the fields that are held. -/
theorem exists_writesHeld (form : WireForm σ) (unique : form.names.Nodup)
    (isWire : ∀ wire ∈ form.wireFields, wire.field.IsOptional ∨ wire.field.IsCollection)
    (value : σ) :
    ∃ members, form.codec.encode value = .object members ∧ form.WritesHeld value members := by
  have sublist := form.keys_members_sublist value
  refine ⟨form.members value, form.encode_eq_object value, unique.sublist sublist, sublist, ?_⟩
  intro key written
  rw [mem_members_iff]
  refine exists_congr fun cell => and_congr_right fun cellIn => ?_
  have wireIn : cell.toWireField ∈ form.wireFields := by
    rw [← form.map_toWireField_wireCells value]
    exact List.mem_map_of_mem cellIn
  rw [Field.isHeld_iff (isWire _ wireIn)]

end WireForm

end BillingClient.Json
