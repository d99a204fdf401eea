import BillingClient.Proofs.Json.Collected
import BillingClient.Proofs.Json.Reading
import Mathlib.Data.List.Nodup

/-!
Contract: the two wire forms of a model, and what reading an object in each accepts.

A model is a record, or two records whose members stand side by side in one object. In
the second form the members that are not the outer record's are collected first, each of
them as a value, and the inner record is read from the collection. Main statement:
`WireForm.readsExactly_of_unique`.
-/

namespace BillingClient.Json

/-! ## Members beside the outer record's -/

namespace Record

theorem others_perm (names : List String) {left right : Members}
    (permutation : left.Perm right) : (others names left).Perm (others names right) := by
  unfold others
  exact permutation.filter _

theorem others_append (names : List String) (left right : Members) :
    others names (left ++ right) = others names left ++ others names right := by
  unfold others
  exact List.filter_append ..

/-- The members of other names are all still there. -/
theorem named_others {names : List String} {name : String} (apart : name ∉ names)
    (members : Members) : (others names members).named name = members.named name := by
  unfold Members.named others
  rw [List.filter_filter]
  congr 1
  refine List.filter_congr fun member _ => ?_
  by_cases isName : StringText.string? member.1 = some name
  · have notOuter : ∀ outer ∈ names, name ≠ outer := by
      rintro outer outerIn rfl
      exact apart outerIn
    simpa [isName] using notOuter
  · simp [isName]

variable {σ τ : Type}

theorem decode_object (record : Record σ) {place inside : Place}
    (opens : place.inner? = some inside) (members : Members) :
    record.codec.decode place (.object members) =
      if members.haveKeys then (record.schema.decodeMembers inside members).map record.ofRow
      else none := by
  show (place.inner?.bind _).map _ = _
  rw [opens]
  by_cases keys : members.haveKeys = true
  · simp [keys]
  · simp [keys]

/-- Two records side by side are read where the keys are strings of characters and what is
collected are values. -/
theorem decode_flattened (outer : Record σ) (inner : Record τ) {place inside : Place}
    (opens : place.inner? = some inside) (members : Members) :
    (outer.flattened inner).decode place (.object members) =
      if members.haveKeys && (others outer.schema.names members).all
          (·.2.value? inside.room |>.isSome) then
        (outer.schema.decodeMembers inside members).bind fun row =>
          (inner.schema.decodeMembers inside.gathered (others outer.schema.names members)).bind
            fun innerRow => some (outer.ofRow row, inner.ofRow innerRow)
      else none := by
  simp only [flattened, opens, Option.bind_some]
  rfl

end Record

/-! ## Wire forms -/

/-- How the values of a type stand in an object. -/
inductive WireForm (σ : Type) : Type 1
  /-- The members of a record. -/
  | plain (record : Record σ)
  /-- The members of an outer and an inner record, side by side. -/
  | joined {ω ι : Type} (outer : Record ω) (inner : Record ι) (join : ω × ι → σ)
      (split : σ → ω × ι) (join_split : ∀ value, join (split value) = value)
      (split_join : ∀ pair, split (join pair) = pair)
      (strings : Schema.ReadsCollected inner.schema)

namespace WireForm

variable {σ : Type}

/-- The codec of a wire form. -/
def codec : WireForm σ → Codec σ
  | .plain record => record.codec
  | .joined outer inner join split .. =>
      (outer.flattened inner).refine (fun pair => some (join pair)) split

/-- The fields of a wire form, those of an inner record last. -/
def wireFields : WireForm σ → List WireField
  | .plain record => record.schema.wireFields false
  | .joined outer inner .. =>
      outer.schema.wireFields false ++ inner.schema.wireFields true

/-- The fields of a wire form with the values that a value holds for them. -/
def wireCells : WireForm σ → σ → List WireCell
  | .plain record, value => record.schema.wireCells false (record.toRow value)
  | .joined outer inner _ split .., value =>
      outer.schema.wireCells false (outer.toRow (split value).1) ++
        inner.schema.wireCells true (inner.toRow (split value).2)

/-- The wire names. -/
def names (form : WireForm σ) : List String :=
  form.wireFields.map (·.field.name)

/-- The members that are collected before they are read. -/
def collected : WireForm σ → Members → Members
  | .plain _, _ => []
  | .joined outer .., members => Record.others outer.schema.names members

/-- Whether the members that are collected are values. -/
def collectsValues (form : WireForm σ) (place : Place) (members : Members) : Bool :=
  (form.collected members).all fun member => (member.2.value? place.room).isSome

/-- What the members of an object give. -/
def ofMembers? : WireForm σ → Place → Members → Option σ
  | .plain record, place, members =>
      (record.schema.decodeMembers place members).map record.ofRow
  | .joined outer inner join .., place, members =>
      (outer.schema.decodeMembers place members).bind fun row =>
        (inner.schema.decodeMembers place.gathered members).bind fun innerRow =>
          some (join (outer.ofRow row, inner.ofRow innerRow))

theorem names_plain (record : Record σ) : (WireForm.plain record).names = record.schema.names :=
  Schema.map_name_wireFields false record.schema

section Joined

variable {ω ι : Type} (outer : Record ω) (inner : Record ι) (join : ω × ι → σ)
  (split : σ → ω × ι) (join_split : ∀ value, join (split value) = value)
  (split_join : ∀ pair, split (join pair) = pair) (strings : Schema.ReadsCollected inner.schema)

theorem names_joined :
    (WireForm.joined outer inner join split join_split split_join strings).names =
      outer.schema.names ++ inner.schema.names := by
  unfold names wireFields
  rw [List.map_append, Schema.map_name_wireFields, Schema.map_name_wireFields]

/-- The inner record sees among the collected members all those of its own names. -/
theorem decodeMembers_others (unique : (outer.schema.names ++ inner.schema.names).Nodup)
    (place : Place) (members : Members) :
    inner.schema.decodeMembers place (Record.others outer.schema.names members) =
      inner.schema.decodeMembers place members := by
  obtain ⟨_, _, apart⟩ := List.nodup_append.1 unique
  apply Schema.decodeMembers_congr
  intro name nameIn
  rw [Record.named_others fun outerIn => apart name outerIn name nameIn rfl]

end Joined

theorem map_toWireField_wireCells (form : WireForm σ) (value : σ) :
    (form.wireCells value).map WireCell.toWireField = form.wireFields := by
  cases form with
  | plain record => exact Schema.map_toWireField_wireCells false record.schema _
  | joined outer inner join split =>
      unfold wireCells wireFields
      rw [List.map_append, Schema.map_toWireField_wireCells, Schema.map_toWireField_wireCells]

/-- An object is read where its keys are strings of characters and what is collected are
values. -/
theorem decode_object (form : WireForm σ) (unique : form.names.Nodup) {place inner : Place}
    (opens : place.inner? = some inner) (members : Members) :
    form.codec.decode place (.object members) =
      if members.haveKeys && form.collectsValues inner members then form.ofMembers? inner members
      else none := by
  cases form with
  | plain record =>
      have noneCollected : (WireForm.plain record).collectsValues inner members = true := rfl
      rw [noneCollected, Bool.and_true]
      exact record.decode_object opens members
  | joined outer innerRecord join split =>
      rw [names_joined] at unique
      show ((outer.flattened innerRecord).decode place (.object members)).bind _ = _
      rw [Record.decode_flattened outer innerRecord opens, decodeMembers_others outer _ unique]
      unfold collectsValues collected ofMembers?
      by_cases good : (members.haveKeys && (Record.others outer.schema.names members).all
          fun member => (member.2.value? inner.room).isSome) = true
      · simp only [good, if_true]
        cases outer.schema.decodeMembers inner members with
        | none => rfl
        | some row => cases innerRecord.schema.decodeMembers inner.gathered members <;> rfl
      · simp [good]

/-! ## What an object gives -/

/-- An object is read as some value exactly when its keys are strings of characters, what is
collected are values, and each field accepts its members. -/
def AcceptsObject (form : WireForm σ) (place : Place) (members : Members) : Prop :=
  members.haveKeys = true ∧ form.collectsValues place members = true ∧
    ∀ wire ∈ form.wireFields, wire.field.Accepts (wire.place place) members

/-- A value holds for each field what the members of an object give it. -/
def HoldsObject (form : WireForm σ) (place : Place) (members : Members) (value : σ) : Prop :=
  ∀ cell ∈ form.wireCells value, cell.field.GivenBy (cell.place place) members cell.value

theorem ofMembers?_eq_some_iff (form : WireForm σ) (place : Place) (members : Members)
    (value : σ) :
    form.ofMembers? place members = some value ↔ form.HoldsObject place members value := by
  have alike {ρ : Type} (schema : Schema ρ) (isInner : Bool) (row : ρ) :
      (∀ cell ∈ schema.wireCells isInner row,
        cell.field.GivenBy (cell.place place) members cell.value) ↔
      schema.decodeMembers (if isInner then place.gathered else place) members = some row := by
    rw [Schema.decodeMembers_eq_some_iff schema isInner]
    refine forall₂_congr fun cell cellIn => ?_
    rw [Schema.place_of_mem_wireCells cellIn]
  unfold HoldsObject
  cases form with
  | plain record =>
      rw [ofMembers?, wireCells, alike]
      constructor
      · intro given
        obtain ⟨row, found, rfl⟩ := Option.map_eq_some_iff.1 given
        rw [record.toRow_ofRow]
        exact found
      · intro found
        simp only [Bool.false_eq_true, if_false] at found
        rw [found, Option.map_some, record.ofRow_toRow]
  | joined outer inner join split join_split split_join =>
      rw [ofMembers?, wireCells, List.forall_mem_append, alike, alike]
      simp only [Bool.false_eq_true, if_false, if_true]
      constructor
      · intro given
        obtain ⟨row, found, given⟩ := Option.bind_eq_some_iff.1 given
        obtain ⟨innerRow, innerFound, given⟩ := Option.bind_eq_some_iff.1 given
        cases given
        rw [split_join, outer.toRow_ofRow, inner.toRow_ofRow]
        exact ⟨found, innerFound⟩
      · rintro ⟨found, innerFound⟩
        rw [found, innerFound, Option.bind_some, Option.bind_some, outer.ofRow_toRow,
          inner.ofRow_toRow, join_split]

theorem decode_object_eq_some_iff (form : WireForm σ) (unique : form.names.Nodup)
    {place inner : Place} (opens : place.inner? = some inner) (members : Members) (value : σ) :
    form.codec.decode place (.object members) = some value ↔
      members.haveKeys = true ∧ form.collectsValues inner members = true ∧
        form.HoldsObject inner members value := by
  rw [decode_object form unique opens, ← ofMembers?_eq_some_iff]
  by_cases good : (members.haveKeys && form.collectsValues inner members) = true
  · rw [if_pos good]
    rw [Bool.and_eq_true] at good
    simp [good.1, good.2]
  · rw [if_neg good]
    rw [Bool.and_eq_true] at good
    constructor
    · intro given
      cases given
    · rintro ⟨keys, values, _⟩
      exact absurd ⟨keys, values⟩ good

theorem isSome_ofMembers?_iff (form : WireForm σ) (place : Place) (members : Members) :
    (form.ofMembers? place members).isSome ↔
      ∀ wire ∈ form.wireFields, wire.field.Accepts (wire.place place) members := by
  have alike {ρ : Type} (schema : Schema ρ) (isInner : Bool) :
      (∀ wire ∈ schema.wireFields isInner, wire.field.Accepts (wire.place place) members) ↔
      (schema.decodeMembers (if isInner then place.gathered else place) members).isSome := by
    rw [Schema.isSome_decodeMembers_iff schema isInner]
    refine forall₂_congr fun wire wireIn => ?_
    unfold WireField.place
    rw [Schema.isInner_of_mem_wireFields wireIn]
  unfold ofMembers?
  cases form with
  | plain record =>
      rw [wireFields, alike, Option.isSome_map]
      rfl
  | joined outer inner join split join_split split_join =>
      rw [wireFields, List.forall_mem_append, alike, alike]
      simp only [Bool.false_eq_true, if_false, if_true]
      cases outer.schema.decodeMembers place members with
      | none => simp
      | some row => cases inner.schema.decodeMembers place.gathered members <;> simp

theorem isSome_decode_object_iff (form : WireForm σ) (unique : form.names.Nodup)
    {place inner : Place} (opens : place.inner? = some inner) (members : Members) :
    (form.codec.decode place (.object members)).isSome ↔ form.AcceptsObject inner members := by
  unfold AcceptsObject
  rw [decode_object form unique opens, ← isSome_ofMembers?_iff]
  cases members.haveKeys <;> cases form.collectsValues inner members <;> simp

/-! ## What does not count -/

/-- No object is read where none may open. -/
theorem decode_object_closed (form : WireForm σ) {place : Place} (closed : place.inner? = none)
    (members : Members) : form.codec.decode place (.object members) = none := by
  cases form with
  | plain record =>
      show (place.inner?.bind _).map _ = _
      rw [closed]
      rfl
  | joined outer innerRecord join split =>
      show (place.inner?.bind _).bind _ = _
      rw [closed]
      rfl

/-- Two objects give the same where their keys are both good, or both not, and so is what is
collected, and each field sees the same members, in any order. -/
theorem decode_object_congr (form : WireForm σ) (unique : form.names.Nodup) (place : Place)
    {left right : Members} (keys : left.haveKeys = right.haveKeys)
    (values : ∀ inner, place.inner? = some inner →
      form.collectsValues inner left = form.collectsValues inner right)
    (same : ∀ name ∈ form.names, (left.named name).Perm (right.named name)) :
    form.codec.decode place (.object left) = form.codec.decode place (.object right) := by
  cases opens : place.inner? with
  | none => rw [decode_object_closed form opens, decode_object_closed form opens]
  | some inner =>
      have given : form.ofMembers? inner left = form.ofMembers? inner right := by
        cases form with
        | plain record =>
            rw [names_plain] at same
            rw [ofMembers?, ofMembers?, Schema.decodeMembers_congr _ inner same]
        | joined outer innerRecord join split =>
            rw [names_joined, List.forall_mem_append] at same
            rw [ofMembers?, ofMembers?, Schema.decodeMembers_congr _ inner same.1,
              Schema.decodeMembers_congr _ inner.gathered same.2]
      rw [decode_object form unique opens, decode_object form unique opens, keys,
        values inner opens, given]

theorem collected_perm (form : WireForm σ) {left right : Members} (permutation : left.Perm right) :
    (form.collected left).Perm (form.collected right) := by
  cases form with
  | plain record => exact .nil
  | joined outer inner join split => exact Record.others_perm outer.schema.names permutation

theorem collected_append (form : WireForm σ) (left right : Members) :
    form.collected (left ++ right) = form.collected left ++ form.collected right := by
  cases form with
  | plain record => rfl
  | joined outer inner join split => exact Record.others_append outer.schema.names left right

theorem collectsValues_append (form : WireForm σ) (place : Place) (left right : Members) :
    form.collectsValues place (left ++ right) =
      (form.collectsValues place left && form.collectsValues place right) := by
  unfold collectsValues
  rw [collected_append, List.all_append]

theorem collected_subset (form : WireForm σ) (members : Members) :
    ∀ member ∈ form.collected members, member ∈ members := by
  intro member memberIn
  cases form with
  | plain record => cases memberIn
  | joined outer inner join split => exact List.mem_of_mem_filter memberIn

/-- The order of the members does not count. -/
theorem decode_object_perm (form : WireForm σ) (unique : form.names.Nodup) (place : Place)
    {left right : Members} (permutation : left.Perm right) :
    form.codec.decode place (.object left) = form.codec.decode place (.object right) := by
  apply decode_object_congr form unique
  · exact Members.haveKeys_perm permutation
  · intro inner _
    unfold collectsValues
    exact (collected_perm form permutation).all_eq
  · intro name _
    exact Members.named_perm permutation name

/-- Members of other names do not count, where what is collected of them are values. -/
theorem decode_object_append (form : WireForm σ) (unique : form.names.Nodup)
    {place inner : Place} (opens : place.inner? = some inner) (members : Members)
    {unknown : Members}
    (otherNames : ∀ member ∈ unknown,
      ∃ name, StringText.string? member.1 = some name ∧ name ∉ form.names)
    (values : form.collectsValues inner unknown = true) :
    form.codec.decode place (.object (members ++ unknown)) =
      form.codec.decode place (.object members) := by
  have keys : unknown.haveKeys = true := by
    unfold Members.haveKeys
    rw [List.all_eq_true]
    intro member memberIn
    obtain ⟨name, isName, _⟩ := otherNames member memberIn
    rw [isName, Option.isSome_some]
  apply decode_object_congr form unique
  · rw [Members.haveKeys_append, keys, Bool.and_true]
  · intro again opensAgain
    obtain rfl : inner = again := Option.some.inj (opens.symm.trans opensAgain)
    rw [collectsValues_append, values, Bool.and_true]
  · intro name nameIn
    have absent : unknown.named name = [] := by
      apply Members.named_eq_nil
      intro member memberIn isName
      obtain ⟨other, isOther, notIn⟩ := otherNames member memberIn
      rw [isName] at isOther
      cases isOther
      exact notIn nameIn
    rw [Members.named_append, absent, List.append_nil]

/-- A `null` for an absent value that may be absent does not count. -/
theorem decode_object_cons_null (form : WireForm σ) (unique : form.names.Nodup) (place : Place)
    {members : Members} {wire : WireField} (wireIn : wire ∈ form.wireFields)
    (optional : wire.field.IsOptional) (absent : members.named wire.field.name = [])
    {key : StringText} (isName : StringText.string? key = some wire.field.name) :
    form.codec.decode place (.object ((key, .null) :: members)) =
      form.codec.decode place (.object members) := by
  have only : ∀ other ∈ form.wireFields, other.field.name = wire.field.name → other = wire :=
    fun other otherIn => List.inj_on_of_nodup_map unique otherIn wireIn
  have keys : Members.haveKeys ((key, .null) :: members) = members.haveKeys := by
    unfold Members.haveKeys
    rw [List.all_cons, isName, Option.isSome_some, Bool.true_and]
  cases opens : place.inner? with
  | none => rw [decode_object_closed form opens, decode_object_closed form opens]
  | some inner =>
      have values : form.collectsValues inner ((key, .null) :: members) =
          form.collectsValues inner members := by
        have null : form.collectsValues inner [(key, .null)] = true := by
          unfold collectsValues
          rw [List.all_eq_true]
          intro member memberIn
          obtain rfl := List.mem_singleton.1 (collected_subset form _ member memberIn)
          unfold Node.value?
          rfl
        rw [← List.singleton_append, collectsValues_append, null, Bool.true_and]
      have isAbsent : ∀ other ∈ form.wireFields, StringText.string? key = some other.field.name →
          other.field.IsOptional ∧ members.named other.field.name = [] := by
        intro other otherIn isOther
        obtain rfl := only other otherIn (Option.some.inj (isOther.symm.trans isName))
        exact ⟨optional, absent⟩
      have given : form.ofMembers? inner ((key, .null) :: members) =
          form.ofMembers? inner members := by
        cases form with
        | plain record =>
            rw [ofMembers?, ofMembers?, Schema.decodeMembers_cons_null _ false inner isAbsent]
        | joined outer innerRecord join split =>
            rw [wireFields, List.forall_mem_append] at isAbsent
            rw [ofMembers?, ofMembers?, Schema.decodeMembers_cons_null _ false inner isAbsent.1,
              Schema.decodeMembers_cons_null _ true inner.gathered isAbsent.2]
      rw [decode_object form unique opens, decode_object form unique opens, keys, values, given]

/-! ## Two records in one object -/

/-- Whether the names of fixed sets in the members of an inner record are strings. -/
def NamesAreStrings : WireForm σ → Members → Prop
  | .plain _, _ => True
  | .joined _ _ _ _ _ _ strings, members => strings.NamesAreStrings members

/-- Where two records stand in one object, each is read as if the object were its own. -/
def ReadsBothAlone (form : WireForm σ) : Prop :=
  match form with
  | .plain _ => True
  | .joined outer inner _ split .. =>
      ∀ place inside members value, place.inner? = some inside → form.NamesAreStrings members →
        (form.codec.decode place (.object members) = some value ↔
          form.collectsValues inside members = true ∧
          outer.codec.decode place (.object members) = some (split value).1 ∧
          inner.codec.decode place (.object members) = some (split value).2)

theorem readsBothAlone (form : WireForm σ) (unique : form.names.Nodup) :
    form.ReadsBothAlone := by
  cases form with
  | plain record => trivial
  | joined outer innerRecord join split join_split split_join strings =>
      intro place inside members value opens areStrings
      rw [decode_object _ unique opens, ofMembers?, outer.decode_object opens,
        innerRecord.decode_object opens, strings.decodeMembers_gathered inside members areStrings]
      by_cases keys : members.haveKeys = true
      · rw [keys, Bool.true_and, if_pos rfl, if_pos rfl]
        constructor
        · intro given
          split at given
          · rename_i values
            obtain ⟨row, found, given⟩ := Option.bind_eq_some_iff.1 given
            obtain ⟨innerRow, innerFound, given⟩ := Option.bind_eq_some_iff.1 given
            cases given
            rw [found, innerFound, split_join]
            exact ⟨values, rfl, rfl⟩
          · contradiction
        · rintro ⟨values, own, inner⟩
          obtain ⟨row, found, ownIs⟩ := Option.map_eq_some_iff.1 own
          obtain ⟨innerRow, innerFound, innerIs⟩ := Option.map_eq_some_iff.1 inner
          rw [if_pos values, found, innerFound, Option.bind_some, Option.bind_some, ownIs, innerIs,
            join_split]
      · simp [keys]

/-! ## The law of reading -/

/-- What reading an object accepts and gives, and what has no influence on it. -/
structure ReadsExactly (form : WireForm σ) : Prop where
  names_nodup : form.names.Nodup
  /-- Each field is a value that may be absent, which `null` also says, or a collection, which
  `null` never is. -/
  null_rule : ∀ wire ∈ form.wireFields,
    (wire.field.IsOptional ∧ ∀ place, wire.field.codec.decode place .null = some wire.field.absent) ∨
    (wire.field.IsCollection ∧ ∀ place, wire.field.codec.decode place .null = none)
  isSome_iff : ∀ place inner (members : Members), place.inner? = some inner →
    ((form.codec.decode place (.object members)).isSome ↔ form.AcceptsObject inner members)
  eq_some_iff : ∀ place inner (members : Members) value, place.inner? = some inner →
    (form.codec.decode place (.object members) = some value ↔
      members.haveKeys = true ∧ form.collectsValues inner members = true ∧
        form.HoldsObject inner members value)
  both_alone : form.ReadsBothAlone
  perm : ∀ place (left right : Members), left.Perm right →
    form.codec.decode place (.object left) = form.codec.decode place (.object right)
  unknown : ∀ place inner (members unknown : Members), place.inner? = some inner →
    (∀ member ∈ unknown, ∃ name, StringText.string? member.1 = some name ∧ name ∉ form.names) →
    form.collectsValues inner unknown = true →
    form.codec.decode place (.object (members ++ unknown)) =
      form.codec.decode place (.object members)
  null : ∀ place (members : Members) key, ∀ wire ∈ form.wireFields, wire.field.IsOptional →
    members.named wire.field.name = [] → StringText.string? key = some wire.field.name →
    form.codec.decode place (.object ((key, .null) :: members)) =
      form.codec.decode place (.object members)

/-- A form whose names differ reads exactly what its fields accept. -/
theorem readsExactly_of_unique (form : WireForm σ) (unique : form.names.Nodup)
    (isWire : ∀ wire ∈ form.wireFields, wire.field.IsOptional ∨ wire.field.IsCollection) :
    form.ReadsExactly where
  names_nodup := unique
  null_rule wire wireIn := by
    rcases isWire wire wireIn with optional | collection
    · exact .inl ⟨optional, optional.decode_null⟩
    · exact .inr ⟨collection, collection.decode_null⟩
  isSome_iff _ _ members opens := isSome_decode_object_iff form unique opens members
  eq_some_iff _ _ members value opens := decode_object_eq_some_iff form unique opens members value
  both_alone := readsBothAlone form unique
  perm place _ _ permutation := decode_object_perm form unique place permutation
  unknown _ _ members _ opens otherNames values :=
    decode_object_append form unique opens members otherNames values
  null place _ _ _ wireIn optional absent isName :=
    decode_object_cons_null form unique place wireIn optional absent isName

end WireForm

end BillingClient.Json
