import BillingClient.Domain.Invoice
import BillingClient.Domain.Payment

/-!
Contract: payments of invoices, and their transactions.

Each is a payment or a transaction with members of its own, all written side by
side in one object.
-/

namespace BillingClient.Domain

open BillingClient.Json (Codec Record)
open BillingClient.Vocabulary

structure InvoicePayment extends Payment where
  targetInvoiceId : Option InvoiceId := none
deriving BEq, Inhabited

/-- The members that an invoice payment has beside those of a payment. -/
abbrev InvoicePayment.ownRecord : Record (Option InvoiceId) where
  schema :=
    .field (.optional "targetInvoiceId" Identifier.codec) <|
    .done
  toRow targetInvoiceId := (targetInvoiceId, ())
  ofRow row := row.1
  ofRow_toRow _ := rfl

/-- The wire form of a payment of an invoice. -/
def InvoicePayment.codec : Codec InvoicePayment :=
  (InvoicePayment.ownRecord.flattened Payment.record).refine
    (fun (targetInvoiceId, payment) => some { payment with targetInvoiceId })
    (fun payment => (payment.targetInvoiceId, payment.toPayment))

/-- A transaction of an invoice payment, which may adjust items of the invoice. -/
structure InvoicePaymentTransaction extends PaymentTransaction where
  isAdjusted : Option Bool := none
  adjustments : List InvoiceItem := []
deriving BEq, Inhabited

/-- The members that such a transaction has beside those of a payment's. -/
abbrev InvoicePaymentTransaction.ownRecord : Record (Option Bool × List InvoiceItem) where
  schema :=
    .field (.optional "isAdjusted" .bool) <|
    .field (.list "adjustments" InvoiceItem.codec) <|
    .done
  toRow value := (value.1, value.2, ())
  ofRow row := (row.1, row.2.1)

/-- The wire form of a transaction of an invoice payment. -/
def InvoicePaymentTransaction.codec : Codec InvoicePaymentTransaction :=
  (InvoicePaymentTransaction.ownRecord.flattened PaymentTransaction.record).refine
    (fun ((isAdjusted, adjustments), transaction) =>
      some { transaction with isAdjusted, adjustments })
    (fun value => ((value.isAdjusted, value.adjustments), value.toPaymentTransaction))

end BillingClient.Domain
