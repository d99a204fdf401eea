import BillingClient.Domain.Account
import BillingClient.Domain.Catalog
import BillingClient.Domain.Fault
import BillingClient.Domain.Label
import BillingClient.Domain.PaymentMethod
import BillingClient.Domain.Tenant
import BillingClient.Domain.Usage

/-!
Contract: every model of the server's objects, by name.
-/

namespace BillingClient.Domain

open BillingClient.Json (Codec)

/-- A type of object, with its wire form, its equality and its empty value. -/
structure Model : Type 1 where
  name : String
  {Carrier : Type}
  codec : Codec Carrier
  [beq : BEq Carrier]
  [inhabited : Inhabited Carrier]

/-- The models of what the server stores and answers. -/
def Model.all : List Model := [
  ⟨"Account", Account.codec⟩,
  ⟨"AccountEmail", AccountEmail.codec⟩,
  ⟨"AccountTimeline", AccountTimeline.codec⟩,
  ⟨"AdminPayment", AdminPayment.codec⟩,
  ⟨"AuditLog", AuditLog.codec⟩,
  ⟨"BlockPrice", BlockPrice.codec⟩,
  ⟨"Bundle", Bundle.codec⟩,
  ⟨"BundleTimeline", BundleTimeline.codec⟩,
  ⟨"Catalog", Catalog.codec⟩,
  ⟨"CatalogDuration", CatalogDuration.codec⟩,
  ⟨"Chargeback", Chargeback.codec⟩,
  ⟨"Credit", Credit.codec⟩,
  ⟨"CustomField", CustomField.codec⟩,
  ⟨"EventSubscription", EventSubscription.codec⟩,
  ⟨"GatewayNotification", GatewayNotification.codec⟩,
  ⟨"HostedPaymentPageFields", HostedPaymentPageFields.codec⟩,
  ⟨"HostedPaymentPageFormDescriptor", HostedPaymentPageFormDescriptor.codec⟩,
  ⟨"Invoice", Invoice.codec⟩,
  ⟨"InvoiceDryRun", InvoiceDryRun.codec⟩,
  ⟨"InvoiceEmail", InvoiceEmail.codec⟩,
  ⟨"InvoiceItem", InvoiceItem.codec⟩,
  ⟨"InvoicePayment", InvoicePayment.codec⟩,
  ⟨"InvoicePaymentTransaction", InvoicePaymentTransaction.codec⟩,
  ⟨"OverdueState", OverdueState.codec⟩,
  ⟨"Payment", Payment.codec⟩,
  ⟨"PaymentAttempt", PaymentAttempt.codec⟩,
  ⟨"PaymentMethod", PaymentMethod.codec⟩,
  ⟨"PaymentMethodPluginDetail", PaymentMethodPluginDetail.codec⟩,
  ⟨"PaymentTransaction", PaymentTransaction.codec⟩,
  ⟨"Phase", Phase.codec⟩,
  ⟨"PhasePrice", PhasePrice.codec⟩,
  ⟨"Plan", Plan.codec⟩,
  ⟨"PlanDetail", PlanDetail.codec⟩,
  ⟨"PluginProperty", PluginProperty.codec⟩,
  ⟨"Price", Price.codec⟩,
  ⟨"PriceList", PriceList.codec⟩,
  ⟨"Product", Product.codec⟩,
  ⟨"RolledUpUnit", RolledUpUnit.codec⟩,
  ⟨"RolledUpUsage", RolledUpUsage.codec⟩,
  ⟨"Subscription", Subscription.codec⟩,
  ⟨"SubscriptionUsageRecord", SubscriptionUsageRecord.codec⟩,
  ⟨"Tag", Tag.codec⟩,
  ⟨"TagDefinition", TagDefinition.codec⟩,
  ⟨"Tenant", Tenant.codec⟩,
  ⟨"TenantKeyValue", TenantKeyValue.codec⟩,
  ⟨"TierPrice", TierPrice.codec⟩,
  ⟨"Unit", CatalogUnit.codec⟩,
  ⟨"UnitUsageRecord", UnitUsageRecord.codec⟩,
  ⟨"UsagePrice", UsagePrice.codec⟩,
  ⟨"UsageRecord", UsageRecord.codec⟩
]

/-- The model of the server's failure report. -/
def Model.fault : Model :=
  ⟨"BillingException", BillingException.codec⟩

end BillingClient.Domain
