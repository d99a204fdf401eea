import BillingClient.Proofs.Domain.Reading
import BillingClient.Proofs.Json.FreeValue
import BillingClient.Proofs.Number.DecimalText

/-!
Contract: how the fields of models read amounts.

An amount is read from a string that holds its text, and from a number. What the fields beside it
hold has no influence. Main statements: `WireModel.readsAmount` for any node, `decode_text` and
`decode_integer` for what is read exactly.
-/

namespace BillingClient

open BillingClient.Number
open BillingClient.Text

namespace Json

/-! ## Nodes -/

/-- Whether a node is read as an amount, wherever it stands. -/
def Node.IsAmount (node : Node) (amount : Decimal) : Prop :=
  ∀ place, Codec.decimal.decode place node = some amount

/-- A string with the text of an amount that is no negative zero, however it is escaped. -/
theorem StringText.isAmount {amount : Decimal} {text : StringText}
    (notNegativeZero : amount.negative = true → amount.mantissa ≠ 0)
    (isText : StringText.string? text = some amount.text) :
    (Node.string text).IsAmount amount := by
  intro place
  show (StringText.string? text).bind Decimal.ofText? = some amount
  rw [isText, Option.bind_some, Decimal.ofText?, amount.ofPlain?_text notNegativeZero,
    Option.some_or]

/-- The integer that the digits of a number before its point write. -/
def NumberText.integer (text : NumberText) : Int :=
  if text.negative then -digitsValue text.whole else digitsValue text.whole

/-- An integer of the 64-bit ranges fits an amount. -/
theorem NumberText.IsInteger64.exists_ofInt? {value : Int} (inRange : IsInteger64 value) :
    ∃ amount, Decimal.ofInt? value = some amount ∧ amount.signedMantissa = value ∧
      amount.scale = 0 := by
  obtain ⟨least, greatest⟩ := inRange
  have limit : Decimal.mantissaLimit = 79228162514264337593543950336 := rfl
  have fits : value.natAbs < Decimal.mantissaLimit ∧ 0 ≤ Decimal.maxScale := by omega
  refine ⟨⟨decide (value < 0), value.natAbs, 0, fits.1, fits.2⟩, dif_pos fits, ?_, rfl⟩
  unfold Decimal.signedMantissa
  by_cases negative : value < 0
  · simp only [decide_eq_true negative, if_true, Int.ofNat_eq_natCast]
    omega
  · simp only [decide_eq_false negative, Bool.false_eq_true, if_false, Int.ofNat_eq_natCast]
    omega

/-- A number that is an integer is read as an amount of that integer. -/
theorem NumberText.isAmount_of_number? {text : NumberText} {value : Int} {amount : Decimal}
    (isInteger : text.number? = some (.integer value))
    (isAmount : Decimal.ofInt? value = some amount) : (Node.number text).IsAmount amount := by
  intro place
  simp only [Codec.decimal, isInteger, isAmount]

/-- A number without point and exponent in the 64-bit ranges is read as that integer. -/
theorem NumberText.exists_isAmount {text : NumberText} (noFraction : text.fraction = none)
    (noExponent : text.exponent = none) (inRange : IsInteger64 text.integer) :
    ∃ amount, (Node.number text).IsAmount amount ∧ amount.signedMantissa = text.integer ∧
      amount.scale = 0 := by
  obtain ⟨negative, whole, fraction, exponent⟩ := text
  cases noFraction
  cases noExponent
  have unsigned : maxUnsigned64 = 0xFFFFFFFFFFFFFFFF := rfl
  obtain ⟨amount, isAmount, value, scale⟩ := inRange.exists_ofInt?
  obtain ⟨least, greatest⟩ := inRange
  cases negative with
  | false =>
      have isInteger : integer ⟨false, whole, none, none⟩ = valueAfter 0 whole := rfl
      rw [isInteger] at isAmount value greatest ⊢
      exact ⟨amount, isAmount_of_number? (number?_whole (by omega)) isAmount, value, scale⟩
  | true =>
      have isInteger : integer ⟨true, whole, none, none⟩ = -valueAfter 0 whole := rfl
      rw [isInteger] at isAmount value least ⊢
      by_cases zero : valueAfter 0 whole = 0
      · -- A zero behind a minus sign is read as a float without digits behind the point.
        refine ⟨Decimal.zero, fun place => ?_, by rw [zero]; rfl, rfl⟩
        have read : Decimal.ofBinary64? ⟨true, 0⟩ = some Decimal.zero := by decide +kernel
        simp only [Codec.decimal, number?_negativeZero zero, read]
      · exact ⟨amount, isAmount_of_number? (number?_negative (by omega) zero) isAmount, value,
          scale⟩

/-! ## Fields -/

/-- The fields that hold amounts. -/
inductive WireField.IsAmount : WireField → Prop
  | mk (name : String) (isInner : Bool) : IsAmount ⟨.optional name .decimal, isInner⟩

/-- A field that holds an amount, with it. -/
inductive WireCell.HoldsAmount (amount : Decimal) : WireCell → Prop
  | mk (name : String) (isInner : Bool) :
      HoldsAmount amount ⟨⟨.optional name .decimal, isInner⟩, some amount⟩

/-- What a field for amounts gives for its only member. -/
theorem WireField.IsAmount.decode {wire : WireField} (isAmount : wire.IsAmount) {node : Node}
    {amount : Decimal} (reads : node.IsAmount amount) (place : Place) :
    ∃ value, wire.field.codec.decode place node = some value ∧
      WireCell.HoldsAmount amount ⟨wire, value⟩ := by
  cases isAmount with
  | mk name isInner =>
      refine ⟨some amount, ?_, .mk name isInner⟩
      have decoded := reads place
      show Codec.decimal.nullable.decode place node = some (some amount)
      cases node with
      | null => cases decoded
      | bool | number | string | array | object =>
          unfold Codec.nullable
          dsimp only
          rw [decoded, Option.map_some]

/-- Whether a form reads a node as an amount in each field for one, whatever stands beside it. -/
def WireForm.ReadsAmount {σ : Type} (form : WireForm σ) (node : Node) (amount : Decimal) : Prop :=
  ∀ wire ∈ form.wireFields, wire.IsAmount → ∀ place inner (members : Members),
    place.inner? = some inner → members.named wire.field.name = [node] →
    ((form.codec.decode place (.object members)).isSome ↔
      members.haveKeys = true ∧ form.collectsValues inner members = true ∧
        ∀ other ∈ form.wireFields, other ≠ wire → other.field.Accepts (other.place inner) members) ∧
    ∀ value, form.codec.decode place (.object members) = some value →
      ∃ cell ∈ form.wireCells value, cell.toWireField = wire ∧ cell.HoldsAmount amount

theorem WireForm.readsAmount {σ : Type} (form : WireForm σ) (unique : form.names.Nodup)
    {node : Node} {amount : Decimal} (reads : node.IsAmount amount) :
    form.ReadsAmount node amount := by
  intro wire wireIn isAmount place inner members opens named
  constructor
  · have accepts : wire.field.Accepts (wire.place inner) members := by
      obtain ⟨value, decoded, _⟩ := isAmount.decode reads (wire.place inner)
      unfold Field.Accepts
      simp [named, decoded]
    rw [isSome_decode_object_iff form unique opens, AcceptsObject]
    refine and_congr_right fun _ => and_congr_right fun _ => ⟨fun all other otherIn _ =>
      all other otherIn, fun others other otherIn => ?_⟩
    by_cases same : other = wire
    · rw [same]
      exact accepts
    · exact others other otherIn same
  · intro value decoded
    have holds := ((decode_object_eq_some_iff form unique opens members value).1 decoded).2.2
    rw [← form.map_toWireField_wireCells value] at wireIn
    obtain ⟨cell, cellIn, rfl⟩ := List.mem_map.1 wireIn
    refine ⟨cell, cellIn, rfl, ?_⟩
    rcases holds cell cellIn with ⟨absent, _⟩ | ⟨other, isOther, given⟩
    · rw [named] at absent
      cases absent
    · cases named.symm.trans isOther
      obtain ⟨found, isFound, holdsFound⟩ := isAmount.decode reads (cell.place inner)
      cases given.symm.trans isFound
      exact holdsFound

end Json

end BillingClient
