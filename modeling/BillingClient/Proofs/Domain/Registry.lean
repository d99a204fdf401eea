import BillingClient.Domain.Registry
import BillingClient.Proofs.Domain.Faithful
import BillingClient.Proofs.Json.WireForm

/-!
Contract: every model, with the laws of its codec.

A model has a wire form: a record, or for payments of invoices and their transactions two records
side by side. `WireModel` ties the codec to the form, `FaithfulModel` adds that it reads back what
it writes. `FaithfulModel.all` are the models of `Model.all`; the failure report, which is only
read, stands before them in `WireModel.all`.
-/

namespace BillingClient.Domain

open BillingClient.Json

/-- A model with its wire form, whose names differ and whose fields may all be left out. -/
structure WireModel extends Model where
  form : WireForm Carrier
  codec_eq : codec = form.codec
  names_nodup : form.names.Nodup
  isWire : ∀ wire ∈ form.wireFields, wire.field.IsOptional ∨ wire.field.IsCollection

namespace WireModel

/-- The model of a record. -/
abbrev ofRecord {α : Type} [BEq α] [Inhabited α] (name : String) (codec : Codec α)
    (record : Record α) (isRecord : codec = record.codec := by rfl)
    [Schema.IsWire record.schema] (unique : (WireForm.plain record).names.Nodup := by decide) :
    WireModel where
  toModel := ⟨name, codec⟩
  form := .plain record
  codec_eq := isRecord
  names_nodup := unique
  isWire := Schema.IsWire.optional_or_collection false

/-- The model of two records side by side. -/
abbrev ofJoined {α ω ι : Type} [BEq α] [Inhabited α] (name : String) (codec : Codec α)
    (outer : Record ω) (inner : Record ι) (join : ω × ι → α) (split : α → ω × ι)
    (join_split : ∀ value, join (split value) = value)
    (split_join : ∀ pair, split (join pair) = pair)
    (isJoined : codec = (outer.flattened inner).refine (fun pair => some (join pair)) split)
    [Schema.IsWire outer.schema] [Schema.IsWire inner.schema]
    [strings : Schema.ReadsCollected inner.schema]
    (unique : (WireForm.joined outer inner join split join_split split_join strings).names.Nodup :=
      by decide) : WireModel where
  toModel := ⟨name, codec⟩
  form := .joined outer inner join split join_split split_join strings
  codec_eq := isJoined
  names_nodup := unique
  isWire := by
    unfold WireForm.wireFields
    rw [List.forall_mem_append]
    exact ⟨Schema.IsWire.optional_or_collection false, Schema.IsWire.optional_or_collection true⟩

end WireModel

/-! ## The models with an inner record -/

instance : Codec.ReadsCollected AuditLog.codec :=
  Record.readsCollected AuditLog.record

instance : Codec.ReadsCollected PluginProperty.codec :=
  Record.readsCollected PluginProperty.record

instance : Codec.ReadsCollected PaymentTransaction.codec :=
  Record.readsCollected PaymentTransaction.record

instance : Codec.ReadsCollected PaymentAttempt.codec :=
  Record.readsCollected PaymentAttempt.record

/-- Items, with their wire form. -/
abbrev InvoiceItem.wireModel : WireModel :=
  .ofRecord "InvoiceItem" InvoiceItem.codec (InvoiceItem.recordWith InvoiceItem.codec)
    InvoiceItem.codec_eq

/-- Payments of invoices: a payment, and its own members beside. -/
abbrev InvoicePayment.wireModel : WireModel :=
  .ofJoined "InvoicePayment" InvoicePayment.codec InvoicePayment.ownRecord Payment.record
    (fun (targetInvoiceId, payment) => { payment with targetInvoiceId })
    (fun payment => (payment.targetInvoiceId, payment.toPayment))
    (fun _ => rfl) (fun _ => rfl) rfl

/-- Transactions of such payments: a transaction, and its own members beside. -/
abbrev InvoicePaymentTransaction.wireModel : WireModel :=
  .ofJoined "InvoicePaymentTransaction" InvoicePaymentTransaction.codec
    InvoicePaymentTransaction.ownRecord PaymentTransaction.record
    (fun ((isAdjusted, adjustments), transaction) => { transaction with isAdjusted, adjustments })
    (fun value => ((value.isAdjusted, value.adjustments), value.toPaymentTransaction))
    (fun _ => rfl) (fun _ => rfl) rfl

/-- A model with its wire form, which reads back what it writes. -/
structure FaithfulModel extends WireModel where
  [faithful : Codec.Faithful codec]

namespace FaithfulModel

/-- A wire form that reads back what it writes. -/
abbrev ofWire (model : WireModel) [faithful : @Codec.Faithful model.Carrier model.beq model.codec] :
    FaithfulModel where
  toWireModel := model
  faithful := faithful

/-- The model of a record that reads back what it writes. -/
abbrev ofRecord {α : Type} [BEq α] [Inhabited α] (name : String) (codec : Codec α)
    (record : Record α) (isRecord : codec = record.codec := by rfl)
    [Schema.IsWire record.schema] [faithful : Codec.Faithful codec]
    (unique : (WireForm.plain record).names.Nodup := by decide) : FaithfulModel where
  toWireModel := .ofRecord name codec record isRecord unique
  faithful := faithful

/-- Every model, with its wire form and the law of its codec. -/
def all : List FaithfulModel := [
  .ofRecord "Account" Account.codec Account.record,
  .ofRecord "AccountEmail" AccountEmail.codec AccountEmail.record,
  .ofRecord "AccountTimeline" AccountTimeline.codec AccountTimeline.record,
  .ofRecord "AdminPayment" AdminPayment.codec AdminPayment.record,
  .ofRecord "AuditLog" AuditLog.codec AuditLog.record,
  .ofRecord "BlockPrice" BlockPrice.codec BlockPrice.record,
  .ofRecord "Bundle" Bundle.codec Bundle.record,
  .ofRecord "BundleTimeline" BundleTimeline.codec BundleTimeline.record,
  .ofRecord "Catalog" Catalog.codec Catalog.record,
  .ofRecord "CatalogDuration" CatalogDuration.codec CatalogDuration.record,
  .ofRecord "Chargeback" Chargeback.codec Chargeback.record,
  .ofRecord "Credit" Credit.codec Credit.record,
  .ofRecord "CustomField" CustomField.codec CustomField.record,
  .ofRecord "EventSubscription" EventSubscription.codec EventSubscription.record,
  .ofRecord "GatewayNotification" GatewayNotification.codec GatewayNotification.record,
  .ofRecord "HostedPaymentPageFields" HostedPaymentPageFields.codec HostedPaymentPageFields.record,
  .ofRecord "HostedPaymentPageFormDescriptor" HostedPaymentPageFormDescriptor.codec
    HostedPaymentPageFormDescriptor.record,
  .ofRecord "Invoice" Invoice.codec Invoice.record,
  .ofRecord "InvoiceDryRun" InvoiceDryRun.codec InvoiceDryRun.record,
  .ofRecord "InvoiceEmail" InvoiceEmail.codec InvoiceEmail.record,
  .ofWire InvoiceItem.wireModel,
  .ofWire InvoicePayment.wireModel,
  .ofWire InvoicePaymentTransaction.wireModel,
  .ofRecord "OverdueState" OverdueState.codec OverdueState.record,
  .ofRecord "Payment" Payment.codec Payment.record,
  .ofRecord "PaymentAttempt" PaymentAttempt.codec PaymentAttempt.record,
  .ofRecord "PaymentMethod" PaymentMethod.codec PaymentMethod.record,
  .ofRecord "PaymentMethodPluginDetail" PaymentMethodPluginDetail.codec
    PaymentMethodPluginDetail.record,
  .ofRecord "PaymentTransaction" PaymentTransaction.codec PaymentTransaction.record,
  .ofRecord "Phase" Phase.codec Phase.record,
  .ofRecord "PhasePrice" PhasePrice.codec PhasePrice.record,
  .ofRecord "Plan" Plan.codec Plan.record,
  .ofRecord "PlanDetail" PlanDetail.codec PlanDetail.record,
  .ofRecord "PluginProperty" PluginProperty.codec PluginProperty.record,
  .ofRecord "Price" Price.codec Price.record,
  .ofRecord "PriceList" PriceList.codec PriceList.record,
  .ofRecord "Product" Product.codec Product.record,
  .ofRecord "RolledUpUnit" RolledUpUnit.codec RolledUpUnit.record,
  .ofRecord "RolledUpUsage" RolledUpUsage.codec RolledUpUsage.record,
  .ofRecord "Subscription" Subscription.codec Subscription.record,
  .ofRecord "SubscriptionUsageRecord" SubscriptionUsageRecord.codec SubscriptionUsageRecord.record,
  .ofRecord "Tag" Tag.codec Tag.record,
  .ofRecord "TagDefinition" TagDefinition.codec TagDefinition.record,
  .ofRecord "Tenant" Tenant.codec Tenant.record,
  .ofRecord "TenantKeyValue" TenantKeyValue.codec TenantKeyValue.record,
  .ofRecord "TierPrice" TierPrice.codec TierPrice.record,
  .ofRecord "Unit" CatalogUnit.codec CatalogUnit.record,
  .ofRecord "UnitUsageRecord" UnitUsageRecord.codec UnitUsageRecord.record,
  .ofRecord "UsagePrice" UsagePrice.codec UsagePrice.record,
  .ofRecord "UsageRecord" UsageRecord.codec UsageRecord.record
]

end FaithfulModel

/-- Every model, with its wire form; the failure report first. -/
def WireModel.all : List WireModel :=
  .ofRecord "BillingException" BillingException.codec BillingException.record ::
    FaithfulModel.all.map FaithfulModel.toWireModel

end BillingClient.Domain
