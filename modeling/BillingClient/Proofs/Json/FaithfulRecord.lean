import BillingClient.Proofs.Json.Faithful

/-!
Contract: records that read back what they write.

`Field.Faithful` and `Schema.Faithful` are the law for one field and for the fields of a
record. A field finds its own member among all that are written because no name occurs
twice; `Record.faithful` is the law for records, `Record.flattenedFaithful` the one for two
records side by side in one object.
-/

namespace BillingClient.Json

/-! ## Fields -/

/-- A field whose member is read back, and whose absent value stands for the values that
are left out. -/
class Field.Faithful {α : Type} [BEq α] (field : Field α) where
  /-- What a value has to promise. -/
  Admissible : α → Prop
  isSound : ∀ value, Admissible value → (field.codec.encode value).IsSound
  readsBack : ∀ place value, Admissible value →
    (field.codec.encode value).depth ≤ place.room → field.codec.ReadsBack place value
  absent_beq : ∀ value, field.isOmitted value = true → (field.absent == value) = true

namespace Field

variable {α : Type} [BEq α] (name : String) (codec : Codec α)

omit [BEq α] in
theorem nullable_decode_node {value : Value} (notNull : value ≠ .null) (place : Place) :
    codec.nullable.decode place value.node = (codec.decode place value.node).map some := by
  cases value <;> first | contradiction | rfl

instance [Codec.Faithful codec] : Field.Faithful (.optional name codec) where
  Admissible value := ∀ present, value = some present → Codec.AdmissiblePresent codec present
  isSound value admissible := by
    cases value with
    | none => exact .null
    | some present =>
        exact Codec.Faithful.isSound present
          (Codec.Faithful.admissible_of_present present (admissible present rfl))
  readsBack place value admissible fits := by
    cases value with
    | none => exact ⟨none, rfl, rfl⟩
    | some present =>
        have promised := admissible present rfl
        obtain ⟨again, read, same⟩ := Codec.Faithful.readsBack place present
          (Codec.Faithful.admissible_of_present present promised) fits
        refine ⟨some again, ?_, same⟩
        show codec.nullable.decode place (codec.encode present).node = some (some again)
        rw [nullable_decode_node codec (Codec.Faithful.encode_ne_null present promised), read,
          Option.map_some]
  absent_beq value omitted := by
    cases value with
    | none => rfl
    | some present => contradiction

instance [Codec.Faithful codec] : Field.Faithful (.list name codec) where
  Admissible values := ∀ value ∈ values, Codec.Admissible codec value
  isSound := @Codec.Faithful.isSound _ _ codec.list _
  readsBack := @Codec.Faithful.readsBack _ _ codec.list _
  absent_beq values omitted := by
    cases values with
    | nil => rfl
    | cons value rest => contradiction

instance [Codec.Faithful codec] : Field.Faithful (.fullList name codec) where
  Admissible values := ∀ value ∈ values, Codec.Admissible codec value
  isSound := @Codec.Faithful.isSound _ _ codec.list _
  readsBack := @Codec.Faithful.readsBack _ _ codec.list _
  absent_beq _ omitted := by contradiction

instance [Codec.Faithful codec] : Field.Faithful (.map name codec) where
  Admissible map := ∀ entry ∈ map.entries, Codec.Admissible codec entry.2
  isSound := @Codec.Faithful.isSound _ _ codec.map _
  readsBack := @Codec.Faithful.readsBack _ _ codec.map _
  absent_beq map omitted := by
    obtain ⟨entries, sorted⟩ := map
    cases entries with
    | nil => rfl
    | cons entry rest => contradiction

end Field

/-! ## Members by name -/

namespace Members

theorem named_memberNodes (members : List (String × Value)) (name : String) :
    named (Value.memberNodes members) name =
      (members.filter (·.1 = name)).map (·.2.node) := by
  rw [named, Value.memberNodes_eq_map, List.filter_map, List.map_map]
  simp only [Function.comp_def, StringText.string?_of, Option.some.injEq]

theorem haveKeys_memberNodes (members : List (String × Value)) :
    haveKeys (Value.memberNodes members) = true := by
  rw [haveKeys, Value.memberNodes_eq_map, List.all_map, List.all_eq_true]
  intro member _
  simp only [Function.comp_def, StringText.string?_of, Option.isSome_some]

theorem named_of_not_mem {members : List (String × Value)} {name : String}
    (absent : name ∉ members.map Prod.fst) : named (Value.memberNodes members) name = [] := by
  rw [named_memberNodes, List.filter_eq_nil_iff.2, List.map_nil]
  intro member memberIn
  simp only [decide_eq_true_eq]
  rintro rfl
  exact absent (List.mem_map_of_mem memberIn)

/-- Of names that differ each has only its own member. -/
theorem named_of_mem {members : List (String × Value)} {name : String} {value : Value}
    (unique : (members.map Prod.fst).Nodup) (member : (name, value) ∈ members) :
    named (Value.memberNodes members) name = [value.node] := by
  induction members with
  | nil => cases member
  | cons head rest inductionHypothesis =>
      rw [List.map_cons, List.nodup_cons] at unique
      rw [named_memberNodes, List.filter_cons]
      rcases List.mem_cons.1 member with rfl | later
      · have others := named_of_not_mem unique.1
        rw [named_memberNodes] at others
        rw [if_pos (decide_eq_true rfl), List.map_cons, others]
      · have different : ¬ decide (head.1 = name) = true := by
          intro same
          exact unique.1 (List.mem_map.2 ⟨_, later, (of_decide_eq_true same).symm⟩)
        rw [if_neg different, ← named_memberNodes]
        exact inductionHypothesis unique.2 later

end Members

/-! ## Schemas -/

namespace Schema

variable {ρ : Type}

/-- The written names are among the names of the schema, in their order. -/
theorem keys_encode_sublist (schema : Schema ρ) (row : ρ) :
    ((schema.encode row).map Prod.fst).Sublist schema.names := by
  induction schema with
  | done => exact .slnil
  | field first rest inductionHypothesis =>
      obtain ⟨value, row⟩ := row
      rw [encode, names]
      split
      · exact (inductionHypothesis row).cons _
      · exact (inductionHypothesis row).cons_cons _

/-- The fields of a record, each faithful. -/
class Faithful {ρ : Type} (schema : Schema ρ) where
  /-- What a row has to promise. -/
  Admissible : ρ → Prop
  /-- Equality of rows, field by field. -/
  Same : ρ → ρ → Prop
  isSound : ∀ row, Admissible row → ∀ member ∈ schema.encode row, member.2.IsSound
  readsBack : ∀ place row members, Admissible row →
    (∀ member ∈ schema.encode row, member.2.depth ≤ place.room) → schema.names.Nodup →
    (∀ name ∈ schema.names, Members.named members name =
      Members.named (Value.memberNodes (schema.encode row)) name) →
    ∃ again, schema.decodeMembers place members = some again ∧ Same again row

instance : Faithful .done where
  Admissible _ := True
  Same _ _ := True
  isSound _ _ _ member := by cases member
  readsBack _ _ _ _ _ _ _ := ⟨(), rfl, trivial⟩

instance {α : Type} [BEq α] (first : Field α) (rest : Schema ρ) [Field.Faithful first]
    [Faithful rest] : Faithful (.field first rest) where
  Admissible row := Field.Faithful.Admissible first row.1 ∧ Faithful.Admissible rest row.2
  Same again row := (again.1 == row.1) = true ∧ Faithful.Same rest again.2 row.2
  isSound row admissible member memberIn := by
    obtain ⟨value, row⟩ := row
    rw [encode] at memberIn
    split at memberIn
    · exact Faithful.isSound row admissible.2 member memberIn
    · rcases List.mem_cons.1 memberIn with rfl | later
      · exact Field.Faithful.isSound value admissible.1
      · exact Faithful.isSound row admissible.2 member later
  readsBack place row members admissible fits unique named := by
    obtain ⟨value, row⟩ := row
    obtain ⟨fresh, restUnique⟩ := List.nodup_cons.1 unique
    have ownName := named first.name (by simp [names])
    have notWritten : first.name ∉ (rest.encode row).map Prod.fst :=
      fun written => fresh ((keys_encode_sublist rest row).subset written)
    have restNamed : ∀ name ∈ rest.names, Members.named members name =
        Members.named (Value.memberNodes (rest.encode row)) name := by
      intro name nameIn
      have other : first.name ≠ name := fun same => fresh (same ▸ nameIn)
      rw [named name (by simp [names, nameIn]), encode]
      split
      · rfl
      · rw [Members.named_memberNodes, Members.named_memberNodes,
          List.filter_cons_of_neg (by simpa using other)]
    obtain ⟨again, read, same⟩ := @Faithful.readsBack _ rest _ place row members admissible.2
      (fun member memberIn => fits member (by
        rw [encode]
        split
        · exact memberIn
        · exact List.mem_cons_of_mem _ memberIn))
      restUnique restNamed
    rw [encode] at ownName fits
    by_cases omitted : first.isOmitted value = true
    · rw [if_pos omitted, Members.named_of_not_mem notWritten] at ownName
      refine ⟨(first.absent, again), ?_, Field.Faithful.absent_beq value omitted, same⟩
      simp only [decodeMembers, ownName, read, Option.bind_eq_bind, Option.bind_some]
    · rw [if_neg omitted] at ownName fits
      obtain ⟨first', firstRead, firstSame⟩ := Field.Faithful.readsBack place value admissible.1
        (fits _ List.mem_cons_self)
      have only : Members.named members first.name = [(first.codec.encode value).node] := by
        have none := Members.named_of_not_mem notWritten
        rw [Members.named_memberNodes] at none
        rw [ownName, Members.named_memberNodes, List.filter_cons_of_pos (by simp), List.map_cons,
          none]
      refine ⟨(first', again), ?_, firstSame, same⟩
      simp only [decodeMembers, only, firstRead, read, Option.bind_eq_bind, Option.bind_some]

end Schema

/-! ## Records -/

namespace Record

variable {σ τ : Type} [BEq σ] [BEq τ]

omit [BEq σ] in
theorem members_nodup (record : Record σ) (unique : record.schema.names.Nodup) (value : σ) :
    ((record.members value).map Prod.fst).Nodup :=
  unique.sublist (record.schema.keys_encode_sublist _)

/-- A record of faithful fields with names of their own. -/
abbrev faithful (record : Record σ) [Schema.Faithful record.schema]
    (unique : record.schema.names.Nodup := by decide)
    (beq_of_same : ∀ again value,
      Schema.Faithful.Same record.schema (record.toRow again) (record.toRow value) →
        (again == value) = true := by
      intro again value same
      repeat (refine Bool.and_eq_true_iff.2 ⟨same.1, ?_⟩; replace same := same.2)
      exact same.1) :
    Codec.Faithful record.codec where
  Admissible value := Schema.Faithful.Admissible record.schema (record.toRow value)
  encode_ne_null _ _ := by simp [codec]
  isSound value admissible :=
    .object (members_nodup record unique value)
      (Schema.Faithful.isSound (record.toRow value) admissible)
  readsBack place value admissible fits := by
    obtain ⟨room, collected⟩ := place
    obtain ⟨room, rfl, inside⟩ := Value.exists_room_of_object fits
    obtain ⟨again, read, same⟩ := Schema.Faithful.readsBack ⟨room, collected⟩ (record.toRow value)
      (Value.memberNodes (record.members value)) admissible inside unique fun _ _ => rfl
    refine ⟨record.ofRow again, ?_, beq_of_same _ _ (by rwa [record.toRow_ofRow])⟩
    simp only [codec, Value.node, Schema.decode, Place.inner?, Option.bind_some,
      Members.haveKeys_memberNodes, if_true, read, Option.map_some]

/-! ## Two records in one object -/

omit [BEq σ] [BEq τ] in
theorem others_memberNodes_append (names : List String) {own inner : List (String × Value)}
    (ownIn : ∀ member ∈ own, member.1 ∈ names) (innerOut : ∀ member ∈ inner, member.1 ∉ names) :
    others names (Value.memberNodes (own ++ inner)) = Value.memberNodes inner := by
  rw [others, Value.memberNodes_eq_map, Value.memberNodes_eq_map, List.filter_map, List.filter_append,
    List.filter_eq_nil_iff.2, List.nil_append, List.filter_eq_self.2]
  · intro member memberIn
    simp only [Function.comp_def, StringText.string?_of, Option.some.injEq, Bool.not_eq_true',
      List.any_eq_false, decide_eq_true_eq]
    rintro name nameIn rfl
    exact innerOut member memberIn nameIn
  · intro member memberIn
    simp only [Function.comp_def, StringText.string?_of, Option.some.injEq, Bool.not_eq_true',
      List.any_eq_false, decide_eq_true_eq]
    exact fun noName => noName member.1 (ownIn member memberIn) rfl

omit [BEq σ] in
theorem mem_names_of_mem_members (record : Record σ) (value : σ) {member : String × Value}
    (memberIn : member ∈ record.members value) : member.1 ∈ record.schema.names :=
  (record.schema.keys_encode_sublist _).subset (List.mem_map_of_mem memberIn)

theorem named_memberNodes_append {own inner : List (String × Value)} {name : String}
    (absent : name ∉ inner.map Prod.fst) :
    Members.named (Value.memberNodes (own ++ inner)) name =
      Members.named (Value.memberNodes own) name := by
  have none := Members.named_of_not_mem absent
  rw [Members.named_memberNodes] at none
  rw [Members.named_memberNodes, Members.named_memberNodes, List.filter_append, List.map_append,
    none, List.append_nil]

/-- Two records of faithful fields that share no name. -/
abbrev flattenedFaithful (outer : Record σ) (inner : Record τ) [Schema.Faithful outer.schema]
    [Schema.Faithful inner.schema]
    (unique : (outer.schema.names ++ inner.schema.names).Nodup := by decide)
    (outerBeq : ∀ again value,
      Schema.Faithful.Same outer.schema (outer.toRow again) (outer.toRow value) →
        (again == value) = true := by
      intro again value same
      repeat (refine Bool.and_eq_true_iff.2 ⟨same.1, ?_⟩; replace same := same.2)
      exact same.1)
    (innerBeq : ∀ again value,
      Schema.Faithful.Same inner.schema (inner.toRow again) (inner.toRow value) →
        (again == value) = true := by
      intro again value same
      repeat (refine Bool.and_eq_true_iff.2 ⟨same.1, ?_⟩; replace same := same.2)
      exact same.1) :
    Codec.Faithful (outer.flattened inner) where
  Admissible value := Schema.Faithful.Admissible outer.schema (outer.toRow value.1) ∧
    Schema.Faithful.Admissible inner.schema (inner.toRow value.2)
  encode_ne_null _ _ := by simp [flattened]
  isSound value admissible := by
    refine .object ?_ fun member memberIn => ?_
    · rw [List.map_append]
      exact unique.sublist ((outer.schema.keys_encode_sublist _).append
        (inner.schema.keys_encode_sublist _))
    · rcases List.mem_append.1 memberIn with own | inside
      · exact Schema.Faithful.isSound _ admissible.1 member own
      · exact Schema.Faithful.isSound _ admissible.2 member inside
  readsBack place value admissible fits := by
    obtain ⟨room, collected⟩ := place
    obtain ⟨own, inside⟩ := value
    obtain ⟨outerUnique, innerUnique, apart⟩ := List.nodup_append.1 unique
    obtain ⟨room, rfl, shallow⟩ := Value.exists_room_of_object fits
    have innerOut : ∀ member ∈ inner.members inside, member.1 ∉ outer.schema.names :=
      fun member memberIn nameIn =>
        apart member.1 nameIn member.1 (mem_names_of_mem_members inner inside memberIn) rfl
    have rest := others_memberNodes_append outer.schema.names
      (fun _ => mem_names_of_mem_members outer own) innerOut
    have good : (Value.memberNodes (inner.members inside)).all
        (·.2.value? room |>.isSome) = true := by
      rw [Value.memberNodes_eq_map, List.all_map, List.all_eq_true]
      exact fun member memberIn => Value.IsSound.isSome_value?_node
        (Schema.Faithful.isSound _ admissible.2 member memberIn)
        (shallow member (List.mem_append_right _ memberIn))
    obtain ⟨outerAgain, outerRead, outerSame⟩ := Schema.Faithful.readsBack ⟨room, collected⟩
      (outer.toRow own) (Value.memberNodes (outer.members own ++ inner.members inside))
      admissible.1 (fun member memberIn => shallow member (List.mem_append_left _ memberIn))
      outerUnique (by
        intro name nameIn
        refine named_memberNodes_append fun written => ?_
        obtain ⟨member, memberIn, rfl⟩ := List.mem_map.1 written
        exact innerOut member memberIn nameIn)
    obtain ⟨innerAgain, innerRead, innerSame⟩ := Schema.Faithful.readsBack ⟨room, true⟩
      (inner.toRow inside) (Value.memberNodes (inner.members inside))
      admissible.2 (fun member memberIn => shallow member (List.mem_append_right _ memberIn))
      innerUnique fun _ _ => rfl
    refine ⟨(outer.ofRow outerAgain, inner.ofRow innerAgain), ?_, ?_⟩
    · simp only [flattened, Value.node, Place.inner?, Option.bind_some, rest, good,
        Members.haveKeys_memberNodes, Bool.and_self, if_true, outerRead, innerRead,
        Option.bind_eq_bind]
    · exact Bool.and_eq_true_iff.2
        ⟨outerBeq _ _ (by rwa [outer.toRow_ofRow]), innerBeq _ _ (by rwa [inner.toRow_ofRow])⟩

end Record

end BillingClient.Json
