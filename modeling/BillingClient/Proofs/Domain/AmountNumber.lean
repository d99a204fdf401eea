import BillingClient.Proofs.Domain.Amount
import BillingClient.Proofs.Json.FloatAmount
import BillingClient.Proofs.Json.Omission

/-!
Contract: how amounts travel in the numbers of models.

An amount that a model holds is written as the number of its field, once, whatever stands beside
it, and that number is read as an amount near it in the field for one of any model, or refused
there. Main statement: `amounts_asNumbers`.
-/

namespace BillingClient

open BillingClient.Domain
open BillingClient.Number
open BillingClient.Text

namespace Json

/-! ## Fields -/

/-- Whether the texts of a form have a node for an amount that it holds, as the only one of that
name. -/
def WireForm.WritesAmount {σ : Type} (form : WireForm σ) (amount : Decimal) (node : Node) : Prop :=
  ∀ value, ∀ cell ∈ form.wireCells value, cell.HoldsAmount amount →
    ∃ members : Members, read (Utf8.encode (form.codec.text value)) = some (.object members) ∧
      members.named cell.field.name = [node]

/-- Whether a form refuses a node in each field for an amount, whatever stands beside it. -/
def WireForm.RefusesAmount {σ : Type} (form : WireForm σ) (node : Node) : Prop :=
  ∀ wire ∈ form.wireFields, wire.IsAmount → ∀ place (members : Members),
    members.named wire.field.name = [node] → form.codec.decode place (.object members) = none

namespace WireForm

variable {σ : Type} (form : WireForm σ) (unique : form.names.Nodup)

include unique

theorem writesAmount
    (isWire : ∀ wire ∈ form.wireFields, wire.field.IsOptional ∨ wire.field.IsCollection)
    (amount : Decimal) : form.WritesAmount amount (Codec.decimal.encode amount).node := by
  intro value cell cellIn holds
  obtain ⟨members, encoded, writes⟩ := form.exists_writesHeld unique isWire value
  refine ⟨Value.memberNodes members, ?_, ?_⟩
  · rw [Codec.text, read_encode_text, encoded, Value.node]
  · refine Members.named_of_mem writes.keys_nodup ((writes.mem_iff _ _).2 ⟨cell, cellIn, ?_⟩)
    cases holds with
    | mk name isInner => exact ⟨.present name .decimal amount, rfl, rfl⟩

theorem refusesAmount {node : Node} (notNull : node ≠ .null)
    (refuses : ∀ place, Codec.decimal.decode place node = none) : form.RefusesAmount node := by
  intro wire wireIn isAmount place members named
  cases opens : place.inner? with
  | none => exact form.decode_object_closed opens members
  | some inner =>
      rw [← Option.not_isSome_iff_eq_none, isSome_decode_object_iff form unique opens]
      intro accepts
      have decoded := (accepts.2.2 wire wireIn).2 node (by rw [named]; exact .head _)
      cases isAmount with
      | mk name isInner =>
          have isNone (place : Place) : Codec.decimal.nullable.decode place node = none := by
            cases node with
            | null => exact absurd rfl notNull
            | bool | number | string | array | object =>
                unfold Codec.nullable
                dsimp only
                rw [refuses, Option.map_none]
          have isSome : (Codec.decimal.nullable.decode _ node).isSome = true := decoded
          rw [isNone] at isSome
          cases isSome

end WireForm

end Json

open Json

/-! ## Models -/

/-- Amounts are written in models as finite binary64 numbers. Just those that are rounded to
`2 ^ 96` are refused where they are read. Any other is read up to 23 units of its sixteenth digit
and half a unit of the 28th place. It is given back if it has at most fifteen digits and 22 places,
or is at most `2 / 10 ^ 14`. -/
theorem amounts_asNumbers (amount : Decimal) :
    let node := (Codec.decimal.encode amount).node
    Codec.decimal.encode amount = .number (.float amount.toBinary64) ∧
    amount.toBinary64.isFinite = true ∧
    (∀ model ∈ WireModel.all, model.form.WritesAmount amount node) ∧
    (|amount.value| < 2 ^ 96 - 2 ^ 42 →
      ∃ again, IsReadBackAs amount again ∧ node.IsAmount again ∧
        ∀ model ∈ WireModel.all, model.form.ReadsAmount node again) ∧
    (2 ^ 96 - 2 ^ 42 ≤ |amount.value| →
      ∀ model ∈ WireModel.all, model.form.RefusesAmount node) := by
  intro node
  have isNumber : node = .number (amountText amount) := rfl
  refine ⟨rfl, ?_, fun model _ => ?_, fun bounded => ?_, fun reached model _ => ?_⟩
  · exact isFinite_toBinary64 amount
  · exact model.form.writesAmount model.names_nodup model.isWire amount
  · obtain ⟨again, decoded, isBack⟩ := exists_decode_amountText amount bounded
    exact ⟨again, isBack, decoded, fun model _ =>
      model.form.readsAmount model.names_nodup decoded⟩
  · rw [isNumber]
    exact model.form.refusesAmount model.names_nodup nofun
      (decode_amountText_eq_none amount reached)

/-- An amount of sixteen digits that is not given back: with the zero behind its point its digits
have more than 53 bits. -/
theorem amounts_asNumbers_altered :
    let amount : Decimal := ⟨false, 3700000000000010, 0, by decide, by decide⟩
    let again : Decimal := ⟨false, 37000000000000095, 1, by decide, by decide⟩
    let text := UsageRecord.codec.text { amount := some amount }
    text = "\x7b\"amount\":3700000000000010.0\x7d" ∧
    (UsageRecord.codec.ofBytes? (Utf8.encode text)).map (·.amount) = some (some again) ∧
    (again == amount) = false := by
  dsimp only
  decide +kernel

/-- The greatest amount is refused. -/
example :
    let amount : Decimal := ⟨false, 2 ^ 96 - 1, 0, by decide, by decide⟩
    let text := UsageRecord.codec.text { amount := some amount }
    text = "\x7b\"amount\":7.922816251426434e28\x7d" ∧
    (UsageRecord.codec.ofBytes? (Utf8.encode text)).isNone = true := by
  dsimp only
  decide +kernel

end BillingClient
