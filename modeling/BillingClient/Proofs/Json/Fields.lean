import BillingClient.Json.Fields
import BillingClient.Proofs.Json.Faithful
import BillingClient.Proofs.Json.Reading

/-!
Contract: what the reading of an object member by member gives.

A settled node has no key twice (`Node.isSettled_settled`), and under each name what was the
last member with it (`Node.member?_settled`). Main statements: `Schema.toOption_fields_settled`
and `Schema.fields_settled_eq_error_iff`, by which a settled object that is read member by
member gives the row that the schema reads, or else names the first field whose member is bad.
-/

namespace BillingClient.Json

/-! ## Settled nodes -/

/-- No object within the node has a key twice. -/
inductive Node.IsSettled : Node → Prop
  | null : IsSettled .null
  | bool (value : Bool) : IsSettled (.bool value)
  | number (text : NumberText) : IsSettled (.number text)
  | string (text : StringText) : IsSettled (.string text)
  | array {elements : List Node} (each : ∀ element ∈ elements, IsSettled element) :
    IsSettled (.array elements)
  | object {members : Members} (unique : (members.map (StringText.string? ·.1)).Nodup)
    (each : ∀ member ∈ members, IsSettled member.2) : IsSettled (.object members)

theorem settledElements_eq_map (nodes : List Node) :
    settledElements nodes = nodes.map Node.settled := by
  induction nodes with
  | nil => rfl
  | cons node rest inductionHypothesis =>
      rw [settledElements, inductionHypothesis, List.map_cons]

theorem any_sameKey_iff {members : Members} {key : StringText} :
    (members.any fun member => StringText.string? member.1 = StringText.string? key) = true ↔
      StringText.string? key ∈ members.map (StringText.string? ·.1) := by
  rw [List.any_eq_true, List.mem_map]
  simp only [decide_eq_true_eq]

theorem nodup_settledMembers (members : Members) :
    ((settledMembers members).map (StringText.string? ·.1)).Nodup := by
  induction members with
  | nil => exact .nil
  | cons member rest inductionHypothesis =>
      obtain ⟨key, node⟩ := member
      rw [settledMembers]
      split
      · exact inductionHypothesis
      · rename_i notLater
        rw [List.map_cons, List.nodup_cons]
        exact ⟨mt any_sameKey_iff.2 notLater, inductionHypothesis⟩

mutual

theorem Node.isSettled_settled (node : Node) : node.settled.IsSettled := by
  match node with
  | .null => exact .null
  | .bool value => exact .bool value
  | .number text => exact .number text
  | .string text => exact .string text
  | .array nodes =>
      rw [Node.settled]
      exact .array (isSettled_settledElements nodes)
  | .object members =>
      rw [Node.settled]
      exact .object (nodup_settledMembers members) (isSettled_settledMembers members)

theorem isSettled_settledElements (nodes : List Node) :
    ∀ element ∈ settledElements nodes, element.IsSettled := by
  match nodes with
  | [] => exact fun _ member => nomatch member
  | node :: rest =>
      rw [settledElements, List.forall_mem_cons]
      exact ⟨node.isSettled_settled, isSettled_settledElements rest⟩

theorem isSettled_settledMembers (members : Members) :
    ∀ member ∈ settledMembers members, member.2.IsSettled := by
  match members with
  | [] => exact fun _ member => nomatch member
  | (key, node) :: rest =>
      rw [settledMembers]
      split
      · exact isSettled_settledMembers rest
      · rw [List.forall_mem_cons]
        exact ⟨node.isSettled_settled, isSettled_settledMembers rest⟩

end

theorem settledMembers_eq_self {members : Members}
    (unique : (members.map (StringText.string? ·.1)).Nodup)
    (each : ∀ member ∈ members, member.2.settled = member.2) : settledMembers members = members := by
  induction members with
  | nil => rfl
  | cons member rest inductionHypothesis =>
      obtain ⟨key, node⟩ := member
      rw [List.map_cons, List.nodup_cons] at unique
      rw [List.forall_mem_cons] at each
      rw [settledMembers, inductionHypothesis unique.2 each.2,
        if_neg (mt any_sameKey_iff.1 unique.1), each.1]

/-- Settling changes just the nodes that have a key twice somewhere. -/
theorem Node.settled_eq_self_iff {node : Node} : node.settled = node ↔ node.IsSettled := by
  constructor
  · intro same
    rw [← same]
    exact node.isSettled_settled
  · intro isSettled
    induction isSettled with
    | null => rfl
    | bool value => rfl
    | number text => rfl
    | string text => rfl
    | array _ inductionHypothesis =>
        rw [Node.settled, settledElements_eq_map, List.map_congr_left inductionHypothesis,
          List.map_id']
    | object unique _ inductionHypothesis =>
        rw [Node.settled, settledMembers_eq_self unique inductionHypothesis]

/-- What is written for a value without a key twice is settled. -/
theorem Value.HasUniqueKeys.isSettled_node {value : Value} (unique : value.HasUniqueKeys) :
    value.node.IsSettled := by
  induction unique with
  | null => exact .null
  | bool value => exact .bool value
  | number value => exact .number _
  | string text => exact .string _
  | array _ inductionHypothesis =>
      rw [Value.node, Value.elementNodes_eq_map]
      refine .array fun node nodeIn => ?_
      obtain ⟨element, elementIn, rfl⟩ := List.mem_map.1 nodeIn
      exact inductionHypothesis element elementIn
  | @object members unique _ inductionHypothesis =>
      rw [Value.node, Value.memberNodes_eq_map]
      refine .object ?_ fun node nodeIn => ?_
      · have keys : (members.map fun member => (StringText.of member.1, member.2.node)).map
            (StringText.string? ·.1) = (members.map Prod.fst).map some := by
          rw [List.map_map, List.map_map]
          exact List.map_congr_left fun member _ => StringText.string?_of member.1
        rw [keys]
        exact List.pairwise_map.2 (unique.imp fun other same => other (Option.some.inj same))
      · obtain ⟨member, memberIn, rfl⟩ := List.mem_map.1 nodeIn
        exact inductionHypothesis member memberIn

/-! ## Settled members by name -/

theorem Members.mem_keys_iff {members : Members} {name : String} :
    some name ∈ members.map (StringText.string? ·.1) ↔ members.named name ≠ [] := by
  unfold Members.named
  simp [List.filter_eq_nil_iff]

/-- Of several members with one name the last stays. -/
theorem Members.named_settledMembers (members : Members) (name : String) :
    Members.named (settledMembers members) name =
      ((members.named name).getLast?.map Node.settled).toList := by
  induction members with
  | nil => rfl
  | cons member rest inductionHypothesis =>
      obtain ⟨key, node⟩ := member
      rw [settledMembers]
      by_cases isName : StringText.string? key = some name
      · rw [named_cons_self node rest isName]
        split
        · -- A later member has the name, so the first one does not count.
          rename_i later
          rw [any_sameKey_iff, isName, mem_keys_iff, inductionHypothesis] at later
          rw [inductionHypothesis]
          cases others : named rest name with
          | nil => simp [others] at later
          | cons second others => rw [List.getLast?_cons_cons]
        · rename_i notLater
          rw [any_sameKey_iff, isName, mem_keys_iff, inductionHypothesis] at notLater
          have onlyHere : named rest name = [] := by simpa using notLater
          rw [named_cons_self node.settled _ isName, inductionHypothesis, onlyHere]
          rfl
      · rw [named_cons_ne node rest isName]
        split
        · exact inductionHypothesis
        · rw [named_cons_ne _ _ isName, inductionHypothesis]

theorem Members.length_named_settledMembers_le (members : Members) (name : String) :
    (Members.named (settledMembers members) name).length ≤ 1 := by
  rw [named_settledMembers]
  cases (members.named name).getLast? with
  | none => exact Nat.zero_le 1
  | some node => exact Nat.le_refl 1

theorem Node.member?_object (members : Members) (name : String) :
    (Node.object members).member? name = (Members.named members name).getLast? := rfl

/-- Settling keeps which member has a name. -/
theorem Node.member?_settled (node : Node) (name : String) :
    node.settled.member? name = (node.member? name).map Node.settled := by
  cases node with
  | object members =>
      rw [Node.settled, member?_object, member?_object, Members.named_settledMembers]
      cases (Members.named members name).getLast? <;> rfl
  | _ => rfl

/-! ## Reading member by member -/

/-- A member that is named once is read as the field reads it. -/
theorem Fields.orElse_object {α : Type} (field : Field α) {members : Members}
    (once : (members.named field.name).length ≤ 1) :
    Fields.orElse field.codec field.absent field.name (.object members) =
      (field.ofNamed .top (members.named field.name)).elim (.error field.name) .ok := by
  simp only [Fields.orElse, Fields.need, Node.member?_object]
  cases named : members.named field.name with
  | nil => rfl
  | cons node rest =>
      cases rest with
      | nil =>
          rw [Field.ofNamed]
          cases read : field.codec.decode .top node <;> simp [read]
      | cons second rest =>
          rw [named] at once
          simp at once

namespace Schema

variable {ρ : Type}

theorem fields_field {α : Type} (first : Field α) (rest : Schema ρ) (node : Node) :
    (Schema.field first rest).fields node =
      (Fields.orElse first.codec first.absent first.name node).bind fun value =>
        (rest.fields node).map (value, ·) := by
  cases read : Fields.orElse first.codec first.absent first.name node with
  | error name => simp [Schema.fields, bind, ReaderT.bind, Except.bind, read]
  | ok value =>
      cases others : rest.fields node <;>
        simp [Schema.fields, bind, ReaderT.bind, Except.bind, read, others, Except.map, pure,
          ReaderT.pure, Except.pure]

section

variable {members : Members}

/-- Members that are named once each give the row that the schema reads. -/
theorem toOption_fields_object (schema : Schema ρ)
    (once : ∀ name ∈ schema.names, (members.named name).length ≤ 1) :
    (schema.fields (.object members)).toOption = schema.decodeMembers .top members := by
  induction schema with
  | done => rfl
  | field first rest inductionHypothesis =>
      rw [names, List.forall_mem_cons] at once
      rw [fields_field, Fields.orElse_object first once.1, decodeMembers_field,
        ← inductionHypothesis once.2]
      cases first.ofNamed .top (members.named first.name) with
      | none => rfl
      | some value => cases rest.fields (.object members) <;> rfl

/-- Where there is no row, the first field whose member is bad is named. -/
theorem fields_object_eq_error_iff (schema : Schema ρ)
    (once : ∀ name ∈ schema.names, (members.named name).length ≤ 1) (name : String) :
    schema.fields (.object members) = .error name ↔
      ∃ before wire after, schema.wireFields false = before ++ wire :: after ∧
        (∀ other ∈ before, other.field.Accepts .top members) ∧
        ¬ wire.field.Accepts .top members ∧ wire.field.name = name := by
  induction schema with
  | done => simp [Schema.fields, wireFields, pure, ReaderT.pure, Except.pure]
  | field first rest inductionHypothesis =>
      rw [names, List.forall_mem_cons] at once
      rw [fields_field, Fields.orElse_object first once.1, wireFields]
      have accepts := first.isSome_ofNamed_iff .top members
      cases read : first.ofNamed .top (members.named first.name) with
      | none =>
          have bad : ¬ first.Accepts .top members := by rw [← accepts, read]; simp
          constructor
          · intro failed
            exact ⟨[], ⟨first, false⟩, rest.wireFields false, rfl, by simp, bad,
              Except.error.inj failed⟩
          · rintro ⟨before, wire, after, parts, good, -, rfl⟩
            cases before with
            | nil =>
                obtain ⟨rfl, -⟩ := List.cons.inj parts
                rfl
            | cons other before =>
                obtain ⟨rfl, -⟩ := List.cons.inj parts
                exact absurd (good _ (.head _)) bad
      | some value =>
          have good : first.Accepts .top members := by rw [← accepts, read]; rfl
          have asRest : (rest.fields (.object members)).map (value, ·) = .error name ↔
              rest.fields (.object members) = .error name := by
            cases rest.fields (.object members) <;> simp [Except.map]
          show (rest.fields (.object members)).map (value, ·) = .error name ↔ _
          rw [asRest, inductionHypothesis once.2]
          constructor
          · rintro ⟨before, wire, after, parts, others, bad, named⟩
            refine ⟨⟨first, false⟩ :: before, wire, after, by rw [parts]; rfl, ?_, bad, named⟩
            rw [List.forall_mem_cons]
            exact ⟨good, others⟩
          · rintro ⟨before, wire, after, parts, others, bad, named⟩
            cases before with
            | nil =>
                obtain ⟨rfl, -⟩ := List.cons.inj parts
                exact absurd good bad
            | cons other before =>
                obtain ⟨-, parts⟩ := List.cons.inj parts
                exact ⟨before, wire, after, parts, (List.forall_mem_cons.1 others).2, bad, named⟩

end

/-- A settled object gives the row that the schema reads. -/
theorem toOption_fields_settled (schema : Schema ρ) (members : Members) :
    (schema.fields (Node.object members).settled).toOption =
      schema.decodeMembers .top (settledMembers members) := by
  rw [Node.settled]
  exact schema.toOption_fields_object fun name _ =>
    Members.length_named_settledMembers_le members name

/-- Of a settled object without a row the first field whose member is bad is named. -/
theorem fields_settled_eq_error_iff (schema : Schema ρ) (members : Members) (name : String) :
    schema.fields (Node.object members).settled = .error name ↔
      ∃ before wire after, schema.wireFields false = before ++ wire :: after ∧
        (∀ other ∈ before, other.field.Accepts .top (settledMembers members)) ∧
        ¬ wire.field.Accepts .top (settledMembers members) ∧ wire.field.name = name := by
  rw [Node.settled]
  exact schema.fields_object_eq_error_iff
    (fun name _ => Members.length_named_settledMembers_le members name) name

end Schema

/-- A record that is read member by member from a settled object. -/
theorem Record.toOption_fields_settled {σ : Type} (record : Record σ) (members : Members) :
    (record.fields (Node.object members).settled).toOption =
      (record.schema.decodeMembers .top (settledMembers members)).map record.ofRow := by
  rw [← Schema.toOption_fields_settled]
  show ((record.schema.fields _).map record.ofRow).toOption = _
  cases record.schema.fields (Node.object members).settled <;> rfl

/-! ## Bytes -/

namespace Codec

theorem hexBytes?_digits (bytes : List UInt8) :
    hexBytes? (bytes.flatMap fun byte =>
      [Text.lowerHexDigit (byte.toNat / 16), Text.lowerHexDigit (byte.toNat % 16)]) =
      some bytes := by
  induction bytes with
  | nil => rfl
  | cons byte rest inductionHypothesis =>
      have below := byte.toNat_lt
      have highSmall : byte.toNat / 16 < 16 := by omega
      have lowSmall : byte.toNat % 16 < 16 := Nat.mod_lt _ (by decide)
      have whole : byte.toNat / 16 * 16 + byte.toNat % 16 = byte.toNat := by omega
      rw [List.flatMap_cons]
      simp only [List.cons_append, List.nil_append, hexBytes?,
        Text.hexDigit?_lowerHexDigit highSmall, Text.hexDigit?_lowerHexDigit lowSmall,
        inductionHypothesis, Option.bind_eq_bind, Option.bind_some, whole, UInt8.ofNat_toNat]

instance : Faithful hex := .ofString fun bytes => by
  rw [String.toList_ofList]
  exact hexBytes?_digits bytes

end Codec

end BillingClient.Json
