import BillingClient.Proofs.Call.Delivery
import BillingClient.Proofs.Domain.Amount

/-!
Contract: amounts are exact wherever they are texts.

The amount of a payment is a parameter of its call, and a string may hold an amount in an object.
Both are plain texts, and are read as the amount with its scale. Integers are read as they are, too.
Main statement: `amounts_areExact`.
-/

namespace BillingClient

open BillingClient.Calendar
open BillingClient.Client
open BillingClient.Domain
open BillingClient.Http
open BillingClient.Json
open BillingClient.Number
open BillingClient.Text
open BillingClient.Url
open BillingClient.Vocabulary

/-! ## Payments -/

section

variable {id : AccountId} {paymentMethod : Option PaymentMethodId} {isExternal : Bool}
  {amount : Option Decimal} {targetDate : Option Date} {properties : List (String × String)}
  {options : Options} {request : Request}

/-- The only amount among the parameters of a payment is the one that is paid. -/
theorem getAll_paymentAmount
    (asked : (Call.account (.payAllInvoices id paymentMethod isExternal amount targetDate
      properties)).operation.request options = .ok request) :
    request.query.getAll "paymentAmount" = amount.toList.map Decimal.text := by
  cases Operation.request_of_authored asked
  simp [Operation.asking, Query.decimal, Option.toList_map]

end

/-- Amounts that are no negative zeros are written as plain texts, and read from these with their
scales: as the amount of a payment among its parameters, and from strings in the fields of every
model. There a number without point and exponent in the 64-bit ranges is that integer. -/
theorem amounts_areExact :
    (∀ amount : Decimal, (amount.negative = true → amount.mantissa ≠ 0) →
      (∃ whole fraction, amount.text.toList = plainText amount.negative whole fraction ∧
        whole ≠ [] ∧ fraction.length = amount.scale ∧ ∀ digit ∈ whole ++ fraction, digit < 10) ∧
      Decimal.ofPlain? amount.text.toList = some amount ∧
      Decimal.ofText? amount.text = some amount ∧
      (∀ (client : Client) id paymentMethod isExternal targetDate properties options network message,
        (client.call (.account (.payAllInvoices id paymentMethod isExternal (some amount)
          targetDate properties)) options network).messages.head? = some message →
        ∃ own sent, message.url.queryPairs = own ++ options.query.pairs ++ sent ∧
          (Query.mk sent).getAll "paymentAmount" = [amount.text] ∧
          ('?' ∉ client.config.serverUrl.toList → '#' ∉ client.config.serverUrl.toList →
            own = [])) ∧
      ∀ model ∈ WireModel.all, ∀ text : StringText,
        StringText.string? text = some amount.text → model.form.ReadsAmount (.string text) amount) ∧
    ∀ model ∈ WireModel.all, ∀ text : NumberText, text.fraction = none → text.exponent = none →
      NumberText.IsInteger64 text.integer →
      ∃ amount : Decimal, amount.signedMantissa = text.integer ∧ amount.scale = 0 ∧
        model.form.ReadsAmount (.number text) amount := by
  constructor
  · intro amount notNegativeZero
    have plain := amount.ofPlain?_text notNegativeZero
    refine ⟨?_, plain, ?_, ?_, ?_⟩
    · exact ⟨_, _, amount.toList_text, amount.wholeDigits_ne_nil, amount.length_fractionDigits,
        amount.areDigits_text⟩
    · rw [Decimal.ofText?, plain, Option.some_or]
    · intro client id paymentMethod isExternal targetDate properties options network message first
      obtain ⟨request, own, asked, pairs, nothing⟩ :=
        exists_queryPairs_of_head?_messages_call first
      exact ⟨own, request.query.pairs, pairs, getAll_paymentAmount asked,
        fun noQuery noFragment => nothing noQuery noFragment fun _ isPlugin => by cases isPlugin⟩
    · intro model modelIn text isText
      exact model.form.readsAmount model.names_nodup
        (StringText.isAmount notNegativeZero isText)
  · intro model modelIn text noFraction noExponent inRange
    obtain ⟨amount, isAmount, value, scale⟩ :=
      NumberText.exists_isAmount noFraction noExponent inRange
    exact ⟨amount, value, scale, model.form.readsAmount model.names_nodup isAmount⟩

/-- A negative amount with a zero behind the point is paid, and read from a record of usage. -/
theorem amounts_areExact_negative :
    let amount : Decimal := ⟨true, 5, 2, by decide, by decide⟩
    let call := Call.account (.payAllInvoices default none true (some amount) none [])
    let form := WireForm.plain UsageRecord.record
    (∃ message own sent,
      (standard.call call { createdBy := some "me" } (.answering [])).messages.head? =
        some message ∧
      message.url.queryPairs = own ++ sent ∧ (Query.mk sent).getAll "paymentAmount" = ["-0.05"]) ∧
    ∃ value, UsageRecord.codec.decode .top
        (.object [(StringText.of "amount", .string (StringText.of "-0.05"))]) = some value ∧
      ∃ cell ∈ form.wireCells value, cell.HoldsAmount amount := by
  intro amount call form
  have isText : amount.text = "-0.05" := by decide +kernel
  obtain ⟨_, _, _, pays, models⟩ := amounts_areExact.1 amount (by decide)
  constructor
  · have sends : (standard.call call { createdBy := some "me" }
        (.answering [])).messages.head?.isSome = true := by
      decide +kernel
    obtain ⟨message, first⟩ := Option.isSome_iff_exists.1 sends
    obtain ⟨own, sent, pairs, paid, _⟩ := pays standard _ _ _ _ _ _ _ message first
    rw [isText] at paid
    exact ⟨message, own ++ [], sent, first, pairs, paid⟩
  · have listed : WireModel.ofRecord "UsageRecord" UsageRecord.codec UsageRecord.record ∈
        WireModel.all := by
      repeat first
        | exact .head _
        | refine .tail _ ?_
    have reads := models _ listed (StringText.of "-0.05")
      (by rw [StringText.string?_of, isText])
    obtain ⟨accepts, holds⟩ := reads ⟨.optional "amount" .decimal, false⟩ (.tail _ (.head _))
      (.mk "amount" false) .top ⟨126, false⟩
      [(StringText.of "amount", .string (StringText.of "-0.05"))] rfl
      (Members.named_cons_self _ [] (StringText.string?_of "amount"))
    have isRead : (form.codec.decode .top
        (.object [(StringText.of "amount", .string (StringText.of "-0.05"))])).isSome = true := by
      refine accepts.2 ⟨by decide, rfl, fun other otherIn different => ?_⟩
      rcases List.mem_cons.1 otherIn with rfl | otherIn
      · exact ⟨by decide, by decide⟩
      · exact absurd (List.mem_singleton.1 otherIn) different
    obtain ⟨value, decoded⟩ := Option.isSome_iff_exists.1 isRead
    obtain ⟨cell, cellIn, _, holdsAmount⟩ := holds value decoded
    exact ⟨value, decoded, cell, cellIn, holdsAmount⟩

end BillingClient
