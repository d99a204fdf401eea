import BillingClient.Proofs.Domain.Registry
import BillingClient.Proofs.Json.Omission

/-!
Contract: the round trip of every model through its JSON text.

Main statement: `FaithfulModel.roundTrip`, for the models of `Model.all`.
-/

namespace BillingClient.Domain

open BillingClient.Json
open BillingClient.Text

/-- An entry of an audit history promises that its free value, if any, is not `null` and
holds integers as its only numbers. -/
theorem AuditLog.admissible_iff (log : AuditLog) : Codec.Admissible AuditLog.codec log ↔
    ∀ history, log.history = some history → history.IsIntegral ∧ history ≠ .null := by
  constructor
  · intro admissible
    exact admissible.2.2.2.2.2.2.2.2.1
  · intro history
    repeat (refine ⟨fun _ _ => trivial, ?_⟩)
    exact ⟨history, trivial⟩

namespace FaithfulModel

/-- What a value of a model has to promise. -/
def Admissible (model : FaithfulModel) (value : model.Carrier) : Prop :=
  @Codec.Admissible model.Carrier model.beq model.codec model.faithful value

/-- The text of an admissible value of any model is an object without doubled keys, and is
read as an equal value. -/
theorem roundTrip :
    all.map (·.toModel) = Model.all ∧
    ∀ model ∈ all, ∀ value : model.Carrier, model.Admissible value →
      (model.codec.encode value).depth ≤ maxDepth →
      ∃ members, model.codec.encode value = .object members ∧
        (Value.object members).HasUniqueKeys ∧
        read (Utf8.encode (model.codec.text value)) = some (Value.object members).node ∧
        ∃ again, model.codec.ofBytes? (Utf8.encode (model.codec.text value)) = some again ∧
          model.beq.beq again value = true := by
  refine ⟨rfl, fun model _ value admissible fits => ?_⟩
  let _ := model.beq
  let _ := model.faithful
  obtain ⟨members, shape⟩ : ∃ members, model.codec.encode value = .object members := by
    rw [model.codec_eq, WireForm.encode_eq_object]
    exact ⟨_, rfl⟩
  have unique := (Codec.Faithful.isSound value admissible).hasUniqueKeys
  refine ⟨members, shape, shape ▸ unique, ?_, Codec.Faithful.ofBytes?_text admissible fits⟩
  rw [Codec.text, read_encode_text, shape]

/-- An item with an amount, a description that needs escapes, and a child item. -/
def adjustedItem : InvoiceItem :=
  { description := some "a \"b\" \\ \x01\n"
    amount := some ⟨true, 1050, 2, by decide, by decide⟩
    childItems := [{ quantity := some ⟨false, 3, 0, by decide, Number.Decimal.zero.scale_le⟩ }] }

theorem admissible_none (present : Number.Decimal) (absent : none = some present) :
    Codec.Admissible .decimal present := by
  cases absent

theorem adjustedItem_isAdmissible : adjustedItem.IsAdmissible := by
  have three : Codec.Admissible .decimal ⟨false, 3, 0, by decide, by decide⟩ :=
    ⟨⟨false, 3, 0, by decide, by decide⟩, by decide +kernel, by decide +kernel⟩
  have debit : Codec.Admissible .decimal ⟨true, 1050, 2, by decide, by decide⟩ :=
    ⟨⟨true, 105, 1, by decide, by decide⟩, by decide +kernel, by decide +kernel⟩
  have child : InvoiceItem.IsAdmissible
      { quantity := some ⟨false, 3, 0, by decide, by decide⟩ } := by
    refine InvoiceItem.isAdmissible_iff.2 ⟨admissible_none, admissible_none, ?_, ?_, trivial⟩
    · rintro _ ⟨⟩
      exact three
    · rintro _ ⟨⟩
  refine InvoiceItem.isAdmissible_iff.2 ⟨?_, admissible_none, admissible_none, ?_, child, trivial⟩
  · rintro _ ⟨⟩
    exact debit
  · rintro _ ⟨⟩

/-- The adjusted item is read back from its text. -/
theorem roundTrip_adjustedItem :
    adjustedItem.IsAdmissible ∧ (InvoiceItem.codec.encode adjustedItem).depth ≤ maxDepth ∧
    ∃ members, InvoiceItem.codec.encode adjustedItem = .object members ∧
      (Value.object members).HasUniqueKeys ∧
      read (Utf8.encode (InvoiceItem.codec.text adjustedItem)) =
        some (Value.object members).node ∧
      ∃ again, InvoiceItem.codec.ofBytes? (Utf8.encode (InvoiceItem.codec.text adjustedItem)) =
        some again ∧ (again == adjustedItem) = true := by
  have listed : FaithfulModel.ofWire InvoiceItem.wireModel ∈ all := by
    repeat first
      | exact .head _
      | refine .tail _ ?_
  have shallow : (InvoiceItem.codec.encode adjustedItem).depth ≤ maxDepth := by decide +kernel
  exact ⟨adjustedItem_isAdmissible, shallow,
    roundTrip.2 _ listed adjustedItem adjustedItem_isAdmissible shallow⟩

end FaithfulModel

end BillingClient.Domain
