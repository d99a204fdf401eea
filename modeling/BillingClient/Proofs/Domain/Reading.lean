import BillingClient.Proofs.Domain.Registry

/-!
Contract: what the decoder of every model accepts.

Main statement: `WireModel.readsExactly`, for the models of `Model.all` and the failure report.
-/

namespace BillingClient.Domain

open BillingClient.Json
open BillingClient.Text

namespace WireModel

/-- Each model is read exactly as the fields of its wire form say. -/
theorem readsExactly :
    all.map toModel = Model.fault :: Model.all ∧
    ∀ model ∈ all, model.codec = model.form.codec ∧ model.form.ReadsExactly := by
  refine ⟨rfl, fun model _ => ⟨model.codec_eq, ?_⟩⟩
  exact model.form.readsExactly_of_unique model.names_nodup model.isWire

/-- A payment of an invoice with a number, and a member of another name beside: the member
does not count. -/
theorem readsExactly_invoicePayment :
    InvoicePayment.wireModel ∈ all ∧
    InvoicePayment.codec.decode .top (.object
        [(StringText.of "paymentNumber", .string (StringText.of "7")),
          (StringText.of "x", .array [.null])]) =
      InvoicePayment.codec.decode .top (.object
        [(StringText.of "paymentNumber", .string (StringText.of "7"))]) := by
  have listed : InvoicePayment.wireModel ∈ all := by
    repeat first
      | exact .head _
      | refine .tail _ ?_
  obtain ⟨sameCodec, law⟩ := readsExactly.2 _ listed
  refine ⟨listed, ?_⟩
  show InvoicePayment.wireModel.codec.decode _ _ = InvoicePayment.wireModel.codec.decode _ _
  rw [sameCodec]
  refine law.unknown .top ⟨126, false⟩ [_] [_] rfl ?_ (by decide)
  intro member memberIn
  obtain rfl := List.mem_singleton.1 memberIn
  exact ⟨"x", StringText.string?_of "x", by decide⟩

/-- A member of no field's name, with a number that is out of range. -/
def outOfRange : StringText × Node :=
  ([.char 'x'], .number ⟨false, [1], none, some (false, [9, 9, 9])⟩)

theorem read_outOfRange :
    read (Utf8.encode "\x7b\"x\":1e999\x7d") = some (.object [outOfRange]) := by
  have chars : "\x7b\"x\":1e999\x7d".toList =
      ['{', '"', 'x', '"', ':', '1', 'e', '9', '9', '9', '}'] := by
    decide +kernel
  rw [Json.read, Utf8.symbols_encode, chars]
  rfl

/-- A payment of an invoice is refused for a member of another name, though each of its fields
accepts the object. -/
theorem invoicePayment_refuses_outOfRange :
    read (Utf8.encode "\x7b\"x\":1e999\x7d") = some (.object [outOfRange]) ∧
    (∀ wire ∈ InvoicePayment.wireModel.form.wireFields,
      wire.field.Accepts (wire.place ⟨126, false⟩) [outOfRange]) ∧
    (InvoicePayment.codec.decode .top (.object [])).isSome ∧
    InvoicePayment.codec.decode .top (.object [outOfRange]) = none := by
  have isX : StringText.string? outOfRange.1 = some "x" := by decide
  have notWire : "x" ∉ InvoicePayment.wireModel.form.names := by decide
  refine ⟨read_outOfRange, ?_, by decide +kernel, ?_⟩
  · intro wire wireIn
    have absent : Members.named [outOfRange] wire.field.name = [] := by
      apply Members.named_eq_nil
      intro member memberIn isName
      obtain rfl := List.mem_singleton.1 memberIn
      rw [isX] at isName
      apply notWire
      rw [Option.some.inj isName]
      exact List.mem_map_of_mem wireIn
    unfold Field.Accepts
    rw [absent]
    exact ⟨Nat.zero_le 1, fun _ none => by cases none⟩
  · rw [← Option.isNone_iff_eq_none]
    decide +kernel

end WireModel

end BillingClient.Domain
