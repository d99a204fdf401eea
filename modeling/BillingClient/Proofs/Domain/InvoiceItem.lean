import BillingClient.Domain.Invoice

/-!
Contract: the codec of invoice items as the fixed point of its record.

`InvoiceItem.codec` bounds the levels of items, by the height of an item when it writes
and by the room that is left when it reads. Neither bound is ever felt:
`InvoiceItem.codec_eq` says that an item is a record whose child items are items. What a
record reads and writes depends on the codec of one field only as far as that field uses
it, which `Schema.ReadAlike` and `Schema.encode_field_congr` follow field by field.
-/

namespace BillingClient.Json

/-! ## Codecs that read alike at a place -/

/-- Fields that differ at most in how they read at other places. -/
structure Field.ReadAlike {α : Type} (place : Place) (left right : Field α) : Prop where
  name_eq : left.name = right.name
  absent_eq : left.absent = right.absent
  hasDefault_eq : left.hasDefault = right.hasDefault
  decode_eq : left.codec.decode place = right.codec.decode place

/-- Schemas that read alike at a place. -/
structure Schema.ReadAlike {ρ : Type} (place : Place) (left right : Schema ρ) : Prop where
  members_eq : ∀ members, left.decodeMembers place members = right.decodeMembers place members
  elements_eq : ∀ nodes, left.decodeElements place nodes = right.decodeElements place nodes

namespace Schema

variable {α ρ : Type}

theorem ReadAlike.refl (place : Place) (schema : Schema ρ) : schema.ReadAlike place schema :=
  ⟨fun _ => rfl, fun _ => rfl⟩

theorem ReadAlike.field {place : Place} {left right : Field α} {leftRest rightRest : Schema ρ}
    (first : left.ReadAlike place right) (rest : leftRest.ReadAlike place rightRest) :
    (Schema.field left leftRest).ReadAlike place (.field right rightRest) where
  members_eq members := by
    simp only [decodeMembers, first.name_eq, first.absent_eq, first.decode_eq, rest.members_eq]
  elements_eq nodes := by
    cases nodes <;>
      simp only [decodeElements, first.absent_eq, first.hasDefault_eq, first.decode_eq,
        rest.elements_eq]

theorem ReadAlike.sameField {place : Place} {leftRest rightRest : Schema ρ} (first : Field α)
    (rest : leftRest.ReadAlike place rightRest) :
    (Schema.field first leftRest).ReadAlike place (.field first rightRest) :=
  .field ⟨rfl, rfl, rfl, rfl⟩ rest

theorem encode_field_congr {left right : Field α} {leftRest rightRest : Schema ρ} {value : α}
    {row : ρ} (name : left.name = right.name)
    (omitted : left.isOmitted value = right.isOmitted value)
    (encoded : left.codec.encode value = right.codec.encode value)
    (rest : leftRest.encode row = rightRest.encode row) :
    (Schema.field left leftRest).encode (value, row) =
      (Schema.field right rightRest).encode (value, row) := by
  rw [encode, encode, name, omitted, encoded, rest]

end Schema

theorem Codec.list_readAlike {α : Type} {left right : Codec α} {place : Place} (name : String)
    (inside : ∀ inner, place.inner? = some inner → left.decode inner = right.decode inner) :
    (Field.list name left).ReadAlike place (.list name right) := by
  refine ⟨rfl, rfl, rfl, funext fun node => ?_⟩
  cases node with
  | array nodes =>
      show place.inner?.bind (fun inner => nodes.mapM (left.decode inner)) =
        place.inner?.bind fun inner => nodes.mapM (right.decode inner)
      cases opened : place.inner? with
      | none => rfl
      | some inner => simp only [Option.bind_some, inside inner opened]
  | _ => rfl

theorem Place.room_of_inner? {place inner : Place} (opened : place.inner? = some inner) :
    inner.room + 1 = place.room := by
  unfold inner? at opened
  split at opened
  · contradiction
  · rename_i room shape
    cases opened
    exact shape.symm

/-- Schemas that read alike inside an object or array that opens read it alike. -/
theorem Schema.decode_congr {ρ : Type} {left right : Schema ρ} {place : Place}
    (inside : ∀ inner, place.inner? = some inner → left.ReadAlike inner right) :
    left.decode place = right.decode place := by
  funext node
  cases opened : place.inner? with
  | none => cases node <;> simp only [decode, opened, Option.bind_none]
  | some inner =>
      have alike := inside inner opened
      cases node <;>
        simp only [decode, opened, Option.bind_some, alike.members_eq, alike.elements_eq]

end BillingClient.Json

namespace BillingClient.Domain.InvoiceItem

open BillingClient.Json

/-! ## One level -/

theorem recordWith_readAlike {left right : Codec InvoiceItem} {place : Place}
    (inside : ∀ inner, place.inner? = some inner → left.decode inner = right.decode inner) :
    (recordWith left).schema.ReadAlike place (recordWith right).schema := by
  repeat first
    | exact .refl place .done
    | refine .field (Codec.list_readAlike "childItems" inside) ?_
    | refine .sameField _ ?_

/-- What an item reads depends on its child items two levels further down. -/
theorem recordWith_decode_congr {left right : Codec InvoiceItem} {place : Place}
    (inside : ∀ inner : Place, inner.room + 2 = place.room →
      left.decode inner = right.decode inner) :
    (recordWith left).codec.decode place = (recordWith right).codec.decode place := by
  have schema : (recordWith left).schema.decode place = (recordWith right).schema.decode place := by
    refine Schema.decode_congr fun object opens => recordWith_readAlike fun inner opensList => ?_
    have objectRoom := Place.room_of_inner? opens
    have listRoom := Place.room_of_inner? opensList
    exact inside inner (by omega)
  funext node
  show ((recordWith left).schema.decode place node).map (recordWith left).ofRow =
    ((recordWith right).schema.decode place node).map (recordWith right).ofRow
  rw [schema]

/-- What an item writes depends on what its child items write. -/
theorem recordWith_encode_congr {left right : Codec InvoiceItem} {item : InvoiceItem}
    (inside : ∀ child ∈ item.childItems, left.encode child = right.encode child) :
    (recordWith left).codec.encode item = (recordWith right).codec.encode item := by
  have children : (Field.list "childItems" left).codec.encode item.childItems =
      (Field.list "childItems" right).codec.encode item.childItems :=
    congrArg Value.array (List.map_congr_left inside)
  refine congrArg Value.object ?_
  show (recordWith left).schema.encode _ = (recordWith right).schema.encode _
  repeat first
    | exact rfl
    | refine Schema.encode_field_congr rfl rfl children ?_
    | refine Schema.encode_field_congr rfl rfl rfl ?_

/-! ## All levels -/

/-- Levels beyond the room that is left change nothing. -/
theorem decode_codecWithin {levels : Nat} {place : Place} (enough : place.room < levels) :
    (codecWithin levels).decode place = InvoiceItem.codec.decode place := by
  induction levels using Nat.strongRecOn generalizing place with
  | ind levels inductionHypothesis =>
      obtain ⟨below, rfl⟩ : ∃ below, levels = below + 1 := ⟨levels - 1, by omega⟩
      refine recordWith_decode_congr fun inner deeper => ?_
      rw [inductionHypothesis below (by omega) (by omega),
        inductionHypothesis place.room (by omega) (by omega)]

theorem height_le_of_mem {item : InvoiceItem} {items : List InvoiceItem} (member : item ∈ items) :
    item.height ≤ heightOfAll items := by
  induction items with
  | nil => cases member
  | cons head rest inductionHypothesis =>
      rw [heightOfAll]
      rcases List.mem_cons.1 member with rfl | later
      · exact Nat.le_max_left _ _
      · exact Nat.le_trans (inductionHypothesis later) (Nat.le_max_right _ _)

theorem height_eq (item : InvoiceItem) : item.height = heightOfAll item.childItems + 1 := by
  cases item
  rw [height]

theorem height_lt_of_mem_childItems {item child : InvoiceItem} (member : child ∈ item.childItems) :
    child.height < item.height := by
  rw [height_eq item]
  exact Nat.lt_succ_of_le (height_le_of_mem member)

/-- Levels beyond the height of an item change nothing. -/
theorem encode_codecWithin {levels : Nat} {item : InvoiceItem} (enough : item.height ≤ levels) :
    (codecWithin levels).encode item = InvoiceItem.codec.encode item := by
  induction levels using Nat.strongRecOn generalizing item with
  | ind levels inductionHypothesis =>
      have height := height_eq item
      obtain ⟨below, rfl⟩ : ∃ below, levels = below + 1 := ⟨levels - 1, by omega⟩
      show (recordWith (codecWithin below)).codec.encode item =
        (codecWithin item.height).encode item
      rw [height]
      refine recordWith_encode_congr fun child member => ?_
      have lower := height_le_of_mem member
      rw [inductionHypothesis below (by omega) (by omega),
        inductionHypothesis (heightOfAll item.childItems) (by omega) lower]

/-- An item is a record whose child items are items. -/
theorem codec_eq : InvoiceItem.codec = (recordWith InvoiceItem.codec).codec := by
  have reads : InvoiceItem.codec.decode = (recordWith InvoiceItem.codec).codec.decode := by
    funext place
    exact recordWith_decode_congr fun inner deeper => decode_codecWithin (by omega)
  have writes : InvoiceItem.codec.encode = (recordWith InvoiceItem.codec).codec.encode := by
    funext item
    show (codecWithin item.height).encode item = _
    rw [height_eq]
    exact recordWith_encode_congr fun child member => encode_codecWithin (height_le_of_mem member)
  calc
    InvoiceItem.codec = ⟨InvoiceItem.codec.decode, InvoiceItem.codec.encode⟩ := rfl
    _ = (recordWith InvoiceItem.codec).codec := by rw [reads, writes]

end BillingClient.Domain.InvoiceItem
