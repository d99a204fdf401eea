import BillingClient.Call.Account
import BillingClient.Call.Catalog
import BillingClient.Call.Entitlement
import BillingClient.Call.Invoice
import BillingClient.Call.Label
import BillingClient.Call.Payment
import BillingClient.Call.PaymentMethod
import BillingClient.Call.Server
import BillingClient.Call.Tenant

/-!
Contract: all calls, and what becomes of them on a network.

`Client.perform` is what a client says to the server for a call; `Client.call` is the
outcome, whose result has the type that the call answers with.
-/

namespace BillingClient

open BillingClient.Client

/-- A call. -/
inductive Call where
  | account (call : AccountCall)
  | bundle (call : BundleCall)
  | subscription (call : SubscriptionCall)
  | invoice (call : InvoiceCall)
  | invoicePayment (call : InvoicePaymentCall)
  | credit (call : CreditCall)
  | payment (call : PaymentCall)
  | paymentMethod (call : PaymentMethodCall)
  | gateway (call : GatewayCall)
  | tagDefinition (call : TagDefinitionCall)
  | tag (call : TagCall)
  | customField (call : CustomFieldCall)
  | label (call : LabelCall)
  | catalog (call : CatalogCall)
  | usage (call : UsageCall)
  | tenant (call : TenantCall)
  /-- What the user may do. -/
  | permissions
  | admin (call : AdminCall)
  | plugin (call : PluginCall)

namespace Call

/-- The operation of a call. -/
def operation : Call → Operation
  | .account call => call.operation
  | .bundle call => call.operation
  | .subscription call => call.operation
  | .invoice call => call.operation
  | .invoicePayment call => call.operation
  | .credit call => call.operation
  | .payment call => call.operation
  | .paymentMethod call => call.operation
  | .gateway call => call.operation
  | .tagDefinition call => call.operation
  | .tag call => call.operation
  | .customField call => call.operation
  | .label call => call.operation
  | .catalog call => call.operation
  | .usage call => call.operation
  | .tenant call => call.operation
  | .permissions => .lookup ["security", "permissions"] {} (.listing .string)
  | .admin call => call.operation
  | .plugin call => call.operation

/-- What a call answers with. -/
abbrev Answer (call : Call) : Type :=
  call.operation.Answer

end Call

/-- What a client says to the server for a call. -/
def Client.perform (client : Client) (call : Call) (options : Options) : Talk call.Answer := do
  let request ← known (call.operation.request options)
  client.ask request call.operation.reply options

/-- The outcome of a call on a network. -/
def Client.call (client : Client) (call : Call) (options : Options) (network : Http.Network) :
    Outcome call.Answer :=
  (client.perform call options).outcome network

end BillingClient
