import BillingClient.Call.Operation
import BillingClient.Domain.Invoice
import BillingClient.Domain.InvoicePayment

/-!
Contract: calls about invoices, their items and payments, and about credits.
-/

namespace BillingClient

open BillingClient.Calendar
open BillingClient.Client
open BillingClient.Domain
open BillingClient.Vocabulary

/-- The items that are added to the invoices of an account. -/
inductive ItemKind where
  | charge
  | tax
deriving DecidableEq, Repr

/-- The name of the operation that adds items. -/
def ItemKind.operationName : ItemKind → String
  | .charge => "create_external_charges"
  | .tax => "create_tax_items"

/-- The path segment of the items. -/
def ItemKind.segment : ItemKind → String
  | .charge => "charges"
  | .tax => "taxes"

/-- Calls about invoices. -/
inductive InvoiceCall where
  | get (id : InvoiceId) (withChildren : Bool) (audit : AuditLevel)
  | getByNumber (number : Nat) (withChildren : Bool) (audit : AuditLevel)
  | getByItem (item : InvoiceItemId) (withChildren : Bool) (audit : AuditLevel)
  | list (page : Page) (audit : AuditLevel)
  | search (key : String) (page : Page) (audit : AuditLevel)
  | html (id : InvoiceId)
  | createFuture (account : AccountId) (targetDate : Option Date)
  | dryRun (run : InvoiceDryRun) (account : AccountId) (targetDate : Option Date)
  | adjustItem (item : InvoiceItem) (requestedDate : Option Date)
  | addItems (kind : ItemKind) (account : AccountId) (items : List InvoiceItem)
      (requestedDate : Option Date) (commits : Bool)
  | commit (id : InvoiceId)
  | voiding (id : InvoiceId)
  | sendEmail (id : InvoiceId)
  | payments (id : InvoiceId) (withPluginInfo withAttempts : Bool) (audit : AuditLevel)
  | pay (payment : InvoicePayment) (isExternal : Bool) (properties : List (String × String))
  | removeCba (id : InvoiceId) (item : InvoiceItemId) (account : AccountId)

namespace InvoiceCall

/-- Refuses an item without amount or currency, or of another account. -/
def checkItem (name : String) (account : AccountId) (item : InvoiceItem) : Except Error Unit := do
  let _ ← required item.amount "amount" name
  let _ ← required item.currency "currency" name
  match item.accountId.filter (· ≠ account) with
  | some owner => .error (.invalidArgument (.itemOwner owner account))
  | none => .ok ()

def childrenQuery (withChildren : Bool) : Query :=
  .flag "withChildrenItems" withChildren

/-- The operation of a call. -/
def operation : InvoiceCall → Operation
  | .get id withChildren audit =>
    .lookup ["invoices", id.text] (childrenQuery withChildren ++ .audit audit)
      (.optional Invoice.codec)
  | .getByNumber number withChildren audit =>
    .lookup ["invoices", "byNumber", Query.naturalText number]
      (childrenQuery withChildren ++ .audit audit)
      (.optional Invoice.codec)
  | .getByItem item withChildren audit =>
    .lookup ["invoices", "byItemId", item.text] (childrenQuery withChildren ++ .audit audit)
      (.optional Invoice.codec)
  | .list page audit =>
    .lookup ["invoices", "pagination"] (.page page ++ .audit audit) (.listing Invoice.codec)
  | .search key page audit =>
    .lookup ["invoices", "search", key] (.page page ++ .audit audit) (.listing Invoice.codec)
  | .html id =>
    .free { Operation.asking .get ["invoices", id.text, "html"] with accept := "text/html" } .text
  | .createFuture account targetDate =>
    .authored "create_future_invoice"
      (.ok { Operation.asking .post ["invoices"]
          (.value "accountId" account.text ++ .date "targetDate" targetDate) with
        followsLocation := true })
      (.optional Invoice.codec)
  | .dryRun run account targetDate =>
    .authored "generate_dry_run_invoice"
      (.ok { Operation.asking .post ["invoices", "dryRun"]
          (.value "accountId" account.text ++ .date "targetDate" targetDate) with
        body := some (.json InvoiceDryRun.codec run) })
      (.optional Invoice.codec)
  | .adjustItem item requestedDate =>
    .authored "adjust_invoice_item" (do
        let _ ← required item.accountId "accountId" "adjust_invoice_item"
        let id ← required item.invoiceId "invoiceId" "adjust_invoice_item"
        let _ ← required item.invoiceItemId "invoiceItemId" "adjust_invoice_item"
        return { Operation.asking .post ["invoices", id.text]
            (.date "requestedDate" requestedDate) with
          body := some (.json InvoiceItem.codec item)
          followsLocation := true })
      (.required Invoice.codec)
  | .addItems kind account items requestedDate commits =>
    .authored kind.operationName (do
        items.forM (checkItem kind.operationName account)
        return { Operation.asking .post ["invoices", kind.segment, account.text]
            (.date "requestedDate" requestedDate ++ .flag "autoCommit" commits) with
          body := some (.json InvoiceItem.codec.list items) })
      (.listing InvoiceItem.codec)
  | .commit id =>
    .authored "commit_invoice"
      (.ok (Operation.asking .put ["invoices", id.text, "commitInvoice"]))
      .unit
  | .voiding id =>
    .authored "void_invoice"
      (.ok (Operation.asking .put ["invoices", id.text, "voidInvoice"]))
      .unit
  | .sendEmail id =>
    .authored "trigger_email_notification"
      (.ok (Operation.asking .post ["invoices", id.text, "emailNotifications"]))
      .unit
  | .payments id withPluginInfo withAttempts audit =>
    .lookup ["invoices", id.text, "payments"]
      (.flag "withPluginInfo" withPluginInfo ++ .flag "withAttempts" withAttempts ++
        .audit audit)
      (.listing InvoicePayment.codec)
  | .pay payment isExternal properties =>
    .authored "create_instant_payment" (do
        let id ← required payment.targetInvoiceId "targetInvoiceId" "create_instant_payment"
        let _ ← required payment.accountId "accountId" "create_instant_payment"
        let _ ← required payment.purchasedAmount "purchasedAmount" "create_instant_payment"
        return { Operation.asking .post ["invoices", id.text, "payments"]
            (.flag "externalPayment" isExternal ++ .pluginProperties properties) with
          body := some (.json InvoicePayment.codec payment)
          followsLocation := true })
      (.required InvoicePayment.codec)
  | .removeCba id item account =>
    .authored "delete_cba"
      (.ok (Operation.asking .delete ["invoices", id.text, item.text, "cba"]
        (.value "accountId" account.text)))
      .unit

end InvoiceCall

/-- Calls about credits. -/
inductive CreditCall where
  | get (id : CreditId) (audit : AuditLevel)
  | create (credit : Credit) (commits : Bool)

/-- The operation of a call. -/
def CreditCall.operation : CreditCall → Operation
  | .get id audit => .lookup ["credits", id.text] (.audit audit) (.optional Credit.codec)
  | .create credit commits =>
    .authored "create_credit" (do
        let _ ← required credit.accountId "accountId" "create_credit"
        let _ ← required credit.creditAmount "creditAmount" "create_credit"
        return { Operation.asking .post ["credits"] (.flag "autoCommit" commits) with
          body := some (.json Credit.codec credit)
          followsLocation := true })
      (.required Credit.codec)

end BillingClient
