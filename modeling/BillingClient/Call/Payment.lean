import BillingClient.Call.Operation
import BillingClient.Domain.InvoicePayment

/-!
Contract: calls about payments and their transactions, and about payments of invoices.
-/

namespace BillingClient

open BillingClient.Client
open BillingClient.Domain
open BillingClient.Vocabulary

/-- What comes with a payment that is looked up. -/
structure PaymentLookup where
  withPluginInfo : Bool := false
  withAttempts : Bool := false
  properties : List (String × String) := []
  audit : AuditLevel := .none
deriving DecidableEq, Repr, Inhabited

def PaymentLookup.query (lookup : PaymentLookup) : Query :=
  .flag "withPluginInfo" lookup.withPluginInfo ++
    .flag "withAttempts" lookup.withAttempts ++
    .pluginProperties lookup.properties ++
    .audit lookup.audit

/-- Calls about payments. -/
inductive PaymentCall where
  | get (id : PaymentId) (lookup : PaymentLookup)
  | getByKey (externalKey : String) (lookup : PaymentLookup)
  | list (page : Page) (plugin : Option String) (lookup : PaymentLookup)
  | search (key : String) (page : Page) (plugin : Option String) (lookup : PaymentLookup)
  | capture (id : PaymentId) (transaction : PaymentTransaction)
      (properties : List (String × String))
  | refund (id : PaymentId) (transaction : PaymentTransaction)
      (properties : List (String × String))
  | chargeback (id : PaymentId) (transaction : PaymentTransaction)
      (properties : List (String × String))
  | reverseChargeback (id : PaymentId) (transaction : PaymentTransaction)
  | voiding (id : PaymentId) (transaction : PaymentTransaction)
      (properties : List (String × String))
  | refunds (id : PaymentId)
  | chargebacks (id : PaymentId) (audit : AuditLevel)

namespace PaymentCall

/-- The request that sends a transaction and fetches the payment. -/
def transactionRequest (method : Http.Method) (path : List String)
    (transaction : PaymentTransaction) (properties : List (String × String)) : Request :=
  { Operation.asking method path (.pluginProperties properties) with
    body := some (.json PaymentTransaction.codec transaction)
    followsLocation := true }

/-- An operation with a transaction that has to have an amount. -/
def amountOperation (name : String) (path : List String) (transaction : PaymentTransaction)
    (properties : List (String × String)) : Operation :=
  .authored name (do
      let _ ← required transaction.amount "amount" name
      return transactionRequest .post path transaction properties)
    (.required Payment.codec)

/-- The operation of a call. -/
def operation : PaymentCall → Operation
  | .get id lookup => .lookup ["payments", id.text] lookup.query (.optional Payment.codec)
  | .getByKey externalKey lookup =>
    .lookup ["payments"] (.value "externalKey" externalKey ++ lookup.query)
      (.optional Payment.codec)
  | .list page plugin lookup =>
    .lookup ["payments", "pagination"]
      (.page page ++ .optional "pluginName" plugin ++ lookup.query)
      (.listing Payment.codec)
  | .search key page plugin lookup =>
    .lookup ["payments", "search", key]
      (.page page ++ .optional "pluginName" plugin ++ lookup.query)
      (.listing Payment.codec)
  | .capture id transaction properties =>
    amountOperation "capture_authorization" ["payments", id.text] transaction properties
  | .refund id transaction properties =>
    amountOperation "refund_payment" ["payments", id.text, "refunds"] transaction properties
  | .chargeback id transaction properties =>
    amountOperation "chargeback_payment" ["payments", id.text, "chargebacks"] transaction
      properties
  | .reverseChargeback id transaction =>
    .authored "chargeback_reversal" (do
        let _ ← required transaction.transactionExternalKey "transactionExternalKey"
          "chargeback_reversal"
        return transactionRequest .post ["payments", id.text, "chargebackReversals"]
          transaction [])
      (.required Payment.codec)
  | .voiding id transaction properties =>
    .authored "void_payment"
      (.ok (transactionRequest .delete ["payments", id.text] transaction properties))
      (.required Payment.codec)
  | .refunds id =>
    .lookup ["payments", id.text] ({} : PaymentLookup).query
      (.parts Payment.codec (·.transactionsOfType .refund) PaymentTransaction.codec)
  | .chargebacks id audit =>
    .lookup ["payments", id.text, "chargebacks"] (.audit audit) (.listing Chargeback.codec)

end PaymentCall

/-- Calls about payments of invoices. -/
inductive InvoicePaymentCall where
  | get (id : PaymentId) (lookup : PaymentLookup)
  | refund (id : PaymentId) (transaction : InvoicePaymentTransaction) (isExternal : Bool)
      (paymentMethod : Option PaymentMethodId) (properties : List (String × String))
  | chargeback (id : PaymentId) (transaction : InvoicePaymentTransaction)

/-- The operation of a call. -/
def InvoicePaymentCall.operation : InvoicePaymentCall → Operation
  | .get id lookup =>
    .lookup ["invoicePayments", id.text] lookup.query (.optional InvoicePayment.codec)
  | .refund id transaction isExternal paymentMethod properties =>
    .authored "create_refund_with_adjustments" (do
        let _ ← required transaction.amount "amount" "create_refund_with_adjustments"
        return { Operation.asking .post ["invoicePayments", id.text, "refunds"]
            (.flag "externalPayment" isExternal ++
              .optional "paymentMethodId" (paymentMethod.map Identifier.text) ++
              .pluginProperties properties) with
          body := some (.json InvoicePaymentTransaction.codec transaction)
          followsLocation := true })
      (.required InvoicePayment.codec)
  | .chargeback id transaction =>
    .authored "create_chargeback" (do
        let _ ← required transaction.amount "amount" "create_chargeback"
        return { Operation.asking .post ["invoicePayments", id.text, "chargebacks"] with
          body := some (.json InvoicePaymentTransaction.codec transaction)
          followsLocation := true })
      (.required InvoicePayment.codec)

end BillingClient
