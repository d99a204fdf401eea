import BillingClient.Call.Operation
import BillingClient.Domain.Account
import BillingClient.Domain.PaymentMethod

/-!
Contract: calls about accounts and what belongs to them: addresses, bundles, invoices,
payments and payment methods.
-/

namespace BillingClient

open BillingClient.Calendar
open BillingClient.Client
open BillingClient.Domain
open BillingClient.Number (Decimal)
open BillingClient.Vocabulary

/-- What becomes of the open items of an account that is closed. -/
structure Closing where
  cancelsSubscriptions : Bool := false
  writesOffInvoices : Bool := false
  adjustsItems : Bool := false
  removesNotifications : Bool := false
deriving DecidableEq, Repr, Inhabited

def Closing.query (closing : Closing) : Query :=
  .flag "cancelAllSubscriptions" closing.cancelsSubscriptions ++
    .flag "writeOffUnpaidInvoices" closing.writesOffInvoices ++
    .flag "itemAdjustUnpaidInvoices" closing.adjustsItems ++
    .flag "removeFutureNotifications" closing.removesNotifications

/-- Which invoices of an account are listed, and with what. -/
structure InvoiceFilter where
  startDate : Option Date := none
  endDate : Option Date := none
  withMigration : Bool := false
  unpaidOnly : Bool := false
  includeVoided : Bool := false
  includeComponents : Bool := false
  /-- The identifiers of the only invoices to list, with commas between them. -/
  invoices : Option String := none
deriving DecidableEq, Repr, Inhabited

def InvoiceFilter.query (filter : InvoiceFilter) : Query :=
  .date "startDate" filter.startDate ++
    .date "endDate" filter.endDate ++
    .flag "withMigrationInvoices" filter.withMigration ++
    .flag "unpaidInvoicesOnly" filter.unpaidOnly ++
    .flag "includeVoidedInvoices" filter.includeVoided ++
    .flag "includeInvoiceComponents" filter.includeComponents ++
    .optional "invoicesFilter" filter.invoices

/-- Which balances come with an account. -/
def balanceQuery (withBalance withBalanceAndCba : Bool) : Query :=
  .flag "accountWithBalance" withBalance ++ .flag "accountWithBalanceAndCBA" withBalanceAndCba

def paymentQuery (withPluginInfo withAttempts : Bool) : Query :=
  .flag "withPluginInfo" withPluginInfo ++ .flag "withAttempts" withAttempts

/-- Calls about accounts. -/
inductive AccountCall where
  | list (page : Page) (withBalance withBalanceAndCba : Bool) (audit : AuditLevel)
  | get (id : AccountId) (withBalance withBalanceAndCba : Bool) (audit : AuditLevel)
  | getByKey (externalKey : String) (withBalance withBalanceAndCba : Bool) (audit : AuditLevel)
  | search (key : String) (page : Page) (audit : AuditLevel)
  | create (account : Account)
  | update (account : Account) (resetsAbsent : Bool)
  | close (id : AccountId) (closing : Closing)
  | timeline (id : AccountId) (audit : AuditLevel)
  | emails (id : AccountId) (audit : AuditLevel)
  | addEmail (email : AccountEmail)
  | removeEmail (email : AccountEmail)
  | invoiceEmail (id : AccountId)
  | setInvoiceEmail (choice : InvoiceEmail)
  | bundles (id : AccountId) (externalKey : Option String) (audit : AuditLevel)
  | invoices (id : AccountId) (filter : InvoiceFilter) (audit : AuditLevel)
  | payments (id : AccountId) (withPluginInfo withAttempts : Bool)
      (properties : List (String × String)) (audit : AuditLevel)
  | invoicePayments (id : AccountId) (withPluginInfo withAttempts : Bool) (audit : AuditLevel)
  | payAllInvoices (id : AccountId) (paymentMethod : Option PaymentMethodId) (isExternal : Bool)
      (amount : Option Decimal) (targetDate : Option Date) (properties : List (String × String))
  | startPayment (id : AccountId) (transaction : PaymentTransaction)
      (paymentMethod : Option PaymentMethodId) (properties : List (String × String))
  | paymentMethods (id : AccountId) (withPluginInfo includesDeleted : Bool) (audit : AuditLevel)
  | addPaymentMethod (paymentMethod : PaymentMethod) (isDefault paysUnpaidInvoices : Bool)
      (properties : List (String × String))
  | setDefaultPaymentMethod (id : AccountId) (paymentMethod : PaymentMethodId)
      (paysUnpaidInvoices : Bool)
  | chargebacks (id : AccountId) (audit : AuditLevel)
  | overdueState (id : AccountId)
  | exportData (id : AccountId)

namespace AccountCall

/-- The transactions that a payment can start with. -/
def startsPayment : TransactionType → Bool
  | .authorize => true
  | .credit => true
  | .purchase => true
  | _ => false

/-- The request that starts a payment. -/
def startRequest (id : AccountId) (transaction : PaymentTransaction)
    (paymentMethod : Option PaymentMethodId) (properties : List (String × String)) :
    Except Error Request := do
  let name := "process_payment"
  let type ← required transaction.transactionType "transactionType" name
  if !startsPayment type then .error (.invalidArgument (.transactionType type))
  else
    let _ ← required transaction.amount "amount" name
    let _ ← required transaction.currency "currency" name
    return { Operation.asking .post ["accounts", id.text, "payments"]
        (.optional "paymentMethodId" (paymentMethod.map Identifier.text) ++
          .pluginProperties properties) with
      body := some (.json PaymentTransaction.codec transaction)
      followsLocation := true }

/-- The operation of a call. -/
def operation : AccountCall → Operation
  | .list page withBalance withBalanceAndCba audit =>
    .lookup ["accounts", "pagination"]
      (.page page ++ balanceQuery withBalance withBalanceAndCba ++ .audit audit)
      (.listing Account.codec)
  | .get id withBalance withBalanceAndCba audit =>
    .lookup ["accounts", id.text]
      (balanceQuery withBalance withBalanceAndCba ++ .audit audit)
      (.optional Account.codec)
  | .getByKey externalKey withBalance withBalanceAndCba audit =>
    .lookup ["accounts"]
      (.value "externalKey" externalKey ++ balanceQuery withBalance withBalanceAndCba ++
        .audit audit)
      (.optional Account.codec)
  | .search key page audit =>
    .lookup ["accounts", "search", key] (.page page ++ .audit audit) (.listing Account.codec)
  | .create account =>
    .authored "create_account"
      (.ok { Operation.asking .post ["accounts"] with
        body := some (.json Account.codec account)
        followsLocation := true })
      (.required Account.codec)
  | .update account resetsAbsent =>
    .authored "update_account" (do
        let id ← required account.accountId "accountId" "update_account"
        return { Operation.asking .put ["accounts", id.text]
            (.flag "treatNullAsReset" resetsAbsent) with
          body := some (.json Account.codec account) })
      (.optional Account.codec)
  | .close id closing =>
    .authored "close_account"
      (.ok (Operation.asking .delete ["accounts", id.text] closing.query))
      .unit
  | .timeline id audit =>
    .lookup ["accounts", id.text, "timeline"] (.audit audit) (.optional AccountTimeline.codec)
  | .emails id audit =>
    .lookup ["accounts", id.text, "emails"] (.audit audit) (.listing AccountEmail.codec)
  | .addEmail email =>
    .authored "add_email" (do
        let id ← required email.accountId "accountId" "add_email"
        return { Operation.asking .post ["accounts", id.text, "emails"] with
          body := some (.json AccountEmail.codec email)
          followsLocation := true })
      (.listing AccountEmail.codec)
  | .removeEmail email =>
    .authored "remove_email" (do
        let id ← required email.accountId "accountId" "remove_email"
        let address ← required email.email "email" "remove_email"
        return Operation.asking .delete ["accounts", id.text, "emails", address])
      .unit
  | .invoiceEmail id =>
    .lookup ["accounts", id.text, "emailNotifications"] {} (.optional InvoiceEmail.codec)
  | .setInvoiceEmail choice =>
    .authored "update_email_notifications" (do
        let id ← required choice.accountId "accountId" "update_email_notifications"
        return { Operation.asking .put ["accounts", id.text, "emailNotifications"] with
          body := some (.json InvoiceEmail.codec choice) })
      .unit
  | .bundles id externalKey audit =>
    .lookup ["accounts", id.text, "bundles"]
      (.optional "externalKey" externalKey ++ .audit audit)
      (.listing Bundle.codec)
  | .invoices id filter audit =>
    .lookup ["accounts", id.text, "invoices"] (filter.query ++ .audit audit)
      (.listing Invoice.codec)
  | .payments id withPluginInfo withAttempts properties audit =>
    .lookup ["accounts", id.text, "payments"]
      (paymentQuery withPluginInfo withAttempts ++ .pluginProperties properties ++ .audit audit)
      (.listing Payment.codec)
  | .invoicePayments id withPluginInfo withAttempts audit =>
    .lookup ["accounts", id.text, "invoicePayments"]
      (paymentQuery withPluginInfo withAttempts ++ .audit audit)
      (.listing InvoicePayment.codec)
  | .payAllInvoices id paymentMethod isExternal amount targetDate properties =>
    .authored "pay_all_invoices"
      (.ok (Operation.asking .post ["accounts", id.text, "invoicePayments"]
        (.optional "paymentMethodId" (paymentMethod.map Identifier.text) ++
          .flag "externalPayment" isExternal ++ .decimal "paymentAmount" amount ++
          .date "targetDate" targetDate ++ .pluginProperties properties)))
      .unit
  | .startPayment id transaction paymentMethod properties =>
    .authored "process_payment" (startRequest id transaction paymentMethod properties)
      (.required Payment.codec)
  | .paymentMethods id withPluginInfo includesDeleted audit =>
    .lookup ["accounts", id.text, "paymentMethods"]
      (.flag "withPluginInfo" withPluginInfo ++ .flag "includedDeleted" includesDeleted ++
        .audit audit)
      (.listing PaymentMethod.codec)
  | .addPaymentMethod paymentMethod isDefault paysUnpaidInvoices properties =>
    .authored "create_payment_method" (do
        let id ← required paymentMethod.accountId "accountId" "create_payment_method"
        let _ ← required paymentMethod.pluginName "pluginName" "create_payment_method"
        return { Operation.asking .post ["accounts", id.text, "paymentMethods"]
            (.flag "isDefault" isDefault ++ .flag "payAllUnpaidInvoices" paysUnpaidInvoices ++
              .pluginProperties properties) with
          body := some (.json PaymentMethod.codec paymentMethod)
          followsLocation := true })
      (.required PaymentMethod.codec)
  | .setDefaultPaymentMethod id paymentMethod paysUnpaidInvoices =>
    .authored "set_default_payment_method"
      (.ok (Operation.asking .put
        ["accounts", id.text, "paymentMethods", paymentMethod.text, "setDefault"]
        (.flag "payAllUnpaidInvoices" paysUnpaidInvoices)))
      .unit
  | .chargebacks id audit =>
    .lookup ["accounts", id.text, "chargebacks"] (.audit audit) (.listing Chargeback.codec)
  | .overdueState id =>
    .lookup ["accounts", id.text, "overdue"] {} (.optional OverdueState.codec)
  | .exportData id =>
    .authored "export_data_for_account"
      (.ok { Operation.asking .get ["export", id.text] with accept := "text/plain" })
      .text

end AccountCall

end BillingClient
