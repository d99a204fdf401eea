import BillingClient.Proofs.Json.Reading
import BillingClient.Vocabulary.Currency
import BillingClient.Vocabulary.Identifier
import BillingClient.Vocabulary.Words

/-!
Contract: reading where the members around a node were collected first.

The place of a node tells whether they were, and only the names of fixed sets look at it:
there `{}` may stand beside a name for `null`. `Codec.ReadsCollected` is the law that a
node whose names are all written as strings is read alike in both places.
-/

namespace BillingClient.Json

theorem Place.inner?_gathered (place : Place) :
    place.gathered.inner? = place.inner?.map Place.gathered := by
  obtain ⟨room, collected⟩ := place
  cases room <;> rfl

/-- A codec that reads alike in both places, where the names of fixed sets are strings. -/
class Codec.ReadsCollected {α : Type} (codec : Codec α) where
  /-- Whether the names of fixed sets in a node are written as strings. -/
  NamesAreStrings : Node → Prop
  decode_gathered : ∀ place node, NamesAreStrings node →
    codec.decode place.gathered node = codec.decode place node

namespace Codec.ReadsCollected

variable {α β : Type}

/-- A codec that does not look at the collection around a node. -/
abbrev ofBlind (codec : Codec α)
    (blind : ∀ place node, codec.decode (Place.gathered place) node = codec.decode place node) :
    ReadsCollected codec where
  NamesAreStrings _ := True
  decode_gathered place node _ := blind place node

instance : ReadsCollected .bool :=
  .ofBlind .bool fun _ node => by cases node <;> rfl

instance : ReadsCollected .string :=
  .ofBlind .string fun _ node => by cases node <;> rfl

instance : ReadsCollected .decimal :=
  .ofBlind .decimal fun _ node => by cases node <;> rfl

instance : ReadsCollected .free :=
  .ofBlind .free fun _ _ => rfl

instance (codec : Codec α) [ReadsCollected codec] (read : α → Option β) (written : β → α) :
    ReadsCollected (codec.refine read written) where
  NamesAreStrings := NamesAreStrings codec
  decode_gathered place node strings := by
    show (codec.decode place.gathered node).bind read = (codec.decode place node).bind read
    rw [decode_gathered place node strings]

instance : ReadsCollected .instant :=
  inferInstanceAs (ReadsCollected (Codec.string.refine _ _))

instance {kind : Vocabulary.ObjectKind} :
    ReadsCollected (Vocabulary.Identifier.codec : Codec (Vocabulary.Identifier kind)) :=
  inferInstanceAs (ReadsCollected (Codec.string.refine _ _))

instance : ReadsCollected Vocabulary.Currency.codec :=
  inferInstanceAs (ReadsCollected (Codec.string.refine _ _))

instance [Vocabulary.Wordlist α] :
    ReadsCollected (Vocabulary.Wordlist.codec : Codec α) where
  NamesAreStrings node := ∀ members, node ≠ .object members
  decode_gathered place node strings := by
    cases node with
    | object members => exact absurd rfl (strings members)
    | null => rfl
    | bool _ => rfl
    | number _ => rfl
    | string _ => rfl
    | array _ => rfl

instance (codec : Codec α) [ReadsCollected codec] : ReadsCollected codec.nullable where
  NamesAreStrings := NamesAreStrings codec
  decode_gathered place node strings := by
    unfold nullable
    cases node with
    | null => rfl
    | bool _ | number _ | string _ | array _ | object _ =>
        dsimp only
        rw [decode_gathered place _ strings]

instance (codec : Codec α) [ReadsCollected codec] : ReadsCollected codec.list where
  NamesAreStrings node := ∀ nodes, node = .array nodes → ∀ element ∈ nodes,
    NamesAreStrings codec element
  decode_gathered place node strings := by
    cases node with
    | array nodes =>
        show place.gathered.inner?.bind _ = place.inner?.bind _
        rw [Place.inner?_gathered]
        cases place.inner? with
        | none => rfl
        | some inner =>
            have elements := strings nodes rfl
            show nodes.mapM (codec.decode inner.gathered) = nodes.mapM (codec.decode inner)
            clear strings
            induction nodes with
            | nil => rfl
            | cons first rest inductionHypothesis =>
                rw [List.forall_mem_cons] at elements
                rw [List.mapM_cons, List.mapM_cons, decode_gathered inner first elements.1,
                  inductionHypothesis elements.2]
    | null => rfl
    | bool _ => rfl
    | number _ => rfl
    | string _ => rfl
    | object _ => rfl

instance (name : String) (codec : Codec α) [ReadsCollected codec] :
    ReadsCollected (Field.optional name codec).codec :=
  inferInstanceAs (ReadsCollected codec.nullable)

instance (name : String) (codec : Codec α) [ReadsCollected codec] :
    ReadsCollected (Field.list name codec).codec :=
  inferInstanceAs (ReadsCollected codec.list)

end Codec.ReadsCollected

/-- The fields of a record, each read alike in both places. -/
class Schema.ReadsCollected {ρ : Type} (schema : Schema ρ) where
  /-- Whether the names of fixed sets in the members of the fields are strings. -/
  NamesAreStrings : Members → Prop
  /-- Whether the names of fixed sets in the elements of an array of the fields are. -/
  NamesAreStringsAlong : List Node → Prop
  decodeMembers_gathered : ∀ place members, NamesAreStrings members →
    schema.decodeMembers place.gathered members = schema.decodeMembers place members
  decodeElements_gathered : ∀ place nodes, NamesAreStringsAlong nodes →
    schema.decodeElements place.gathered nodes = schema.decodeElements place nodes

namespace Schema.ReadsCollected

instance : ReadsCollected .done where
  NamesAreStrings _ := True
  NamesAreStringsAlong _ := True
  decodeMembers_gathered _ _ _ := rfl
  decodeElements_gathered _ nodes _ := by cases nodes <;> rfl

instance {α ρ : Type} (first : Field α) (rest : Schema ρ) [Codec.ReadsCollected first.codec]
    [ReadsCollected rest] : ReadsCollected (.field first rest) where
  NamesAreStrings members :=
    (∀ node ∈ members.named first.name, Codec.ReadsCollected.NamesAreStrings first.codec node) ∧
      NamesAreStrings rest members
  NamesAreStringsAlong nodes :=
    (∀ node ∈ nodes.head?, Codec.ReadsCollected.NamesAreStrings first.codec node) ∧
      NamesAreStringsAlong rest nodes.tail
  decodeMembers_gathered place members strings := by
    obtain ⟨own, others⟩ := strings
    unfold decodeMembers
    rw [decodeMembers_gathered place members others]
    cases named : members.named first.name with
    | nil => rfl
    | cons node nodes =>
        rw [named, List.forall_mem_cons] at own
        cases nodes with
        | nil =>
            dsimp only
            rw [Codec.ReadsCollected.decode_gathered place node own.1]
        | cons second nodes => rfl
  decodeElements_gathered place nodes strings := by
    obtain ⟨own, others⟩ := strings
    cases nodes with
    | nil =>
        unfold decodeElements
        rw [decodeElements_gathered place [] others]
    | cons node nodes =>
        unfold decodeElements
        rw [decodeElements_gathered place nodes others,
          Codec.ReadsCollected.decode_gathered place node (own node rfl)]

end Schema.ReadsCollected

/-- A record of fields that are read alike in both places. -/
instance Record.readsCollected {σ : Type} (record : Record σ)
    [Schema.ReadsCollected record.schema] : Codec.ReadsCollected record.codec where
  NamesAreStrings
    | .object members => Schema.ReadsCollected.NamesAreStrings record.schema members
    | .array nodes => Schema.ReadsCollected.NamesAreStringsAlong record.schema nodes
    | _ => True
  decode_gathered place node strings := by
    show (record.schema.decode place.gathered node).map _ =
      (record.schema.decode place node).map _
    unfold Schema.decode
    cases node with
    | object members =>
        rw [Place.inner?_gathered]
        cases place.inner? with
        | none => rfl
        | some inner =>
            dsimp only [Option.map_some, Option.bind_some]
            rw [Schema.ReadsCollected.decodeMembers_gathered inner members strings]
    | array nodes =>
        rw [Place.inner?_gathered]
        cases place.inner? with
        | none => rfl
        | some inner =>
            dsimp only [Option.map_some, Option.bind_some]
            rw [Schema.ReadsCollected.decodeElements_gathered inner nodes strings]
    | null => rfl
    | bool _ => rfl
    | number _ => rfl
    | string _ => rfl

end BillingClient.Json
