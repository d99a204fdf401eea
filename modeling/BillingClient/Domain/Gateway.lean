import BillingClient.Domain.Audit

/-!
Contract: what payment plugins and gateways exchange.
-/

namespace BillingClient.Domain

open BillingClient.Calendar
open BillingClient.Json (Codec Map Record Value)
open BillingClient.Number (Decimal)
open BillingClient.Vocabulary

/-- A property for a payment plugin, its value any JSON. -/
structure PluginProperty where
  key : Option String := none
  value : Option Value := none
  isUpdatable : Option Bool := none
deriving BEq, Inhabited

/-- The wire form of a property for a payment plugin. -/
abbrev PluginProperty.record : Record PluginProperty where
  schema :=
    .field (.optional "key" .string) <|
    .field (.optional "value" .free) <|
    .field (.optional "isUpdatable" .bool) <|
    .done
  toRow value := (value.key, value.value, value.isUpdatable, ())
  ofRow := fun (key, value, isUpdatable, ()) =>
    { key, value, isUpdatable }

@[inherit_doc PluginProperty.record]
def PluginProperty.codec : Codec PluginProperty :=
  PluginProperty.record.codec

/-- A set of fields for a hosted payment page. -/
structure HostedPaymentPageFields where
  formFields : List PluginProperty := []
deriving BEq, Inhabited

/-- The wire form of a set of fields for a hosted payment page. -/
abbrev HostedPaymentPageFields.record : Record HostedPaymentPageFields where
  schema :=
    .field (.list "formFields" PluginProperty.codec) <|
    .done
  toRow value := (value.formFields, ())
  ofRow := fun (formFields, ()) =>
    { formFields }

@[inherit_doc HostedPaymentPageFields.record]
def HostedPaymentPageFields.codec : Codec HostedPaymentPageFields :=
  HostedPaymentPageFields.record.codec

/-- A form that leads to a hosted payment page. -/
structure HostedPaymentPageFormDescriptor where
  kbAccountId : Option AccountId := none
  formMethod : Option String := none
  formUrl : Option String := none
  formFields : Map Value := .empty
  properties : Map Value := .empty
deriving BEq, Inhabited

/-- The wire form of a form that leads to a hosted payment page. -/
abbrev HostedPaymentPageFormDescriptor.record : Record HostedPaymentPageFormDescriptor where
  schema :=
    .field (.optional "kbAccountId" Identifier.codec) <|
    .field (.optional "formMethod" .string) <|
    .field (.optional "formUrl" .string) <|
    .field (.map "formFields" .free) <|
    .field (.map "properties" .free) <|
    .done
  toRow value := (value.kbAccountId, value.formMethod, value.formUrl, value.formFields,
    value.properties, ())
  ofRow := fun (kbAccountId, formMethod, formUrl, formFields, properties, ()) =>
    { kbAccountId, formMethod, formUrl, formFields, properties }

@[inherit_doc HostedPaymentPageFormDescriptor.record]
def HostedPaymentPageFormDescriptor.codec : Codec HostedPaymentPageFormDescriptor :=
  HostedPaymentPageFormDescriptor.record.codec

/-- A plugin's answer to a gateway notification. -/
structure GatewayNotification where
  kbPaymentId : Option PaymentId := none
  status : Option Int := none
  entity : Option String := none
  headers : Map (List String) := .empty
  properties : Map Value := .empty
  auditLogs : List AuditLog := []
deriving BEq, Inhabited

/-- The wire form of a plugin's answer to a gateway notification. -/
abbrev GatewayNotification.record : Record GatewayNotification where
  schema :=
    .field (.optional "kbPaymentId" Identifier.codec) <|
    .field (.optional "status" .int32) <|
    .field (.optional "entity" .string) <|
    .field (.map "headers" (.list .string)) <|
    .field (.map "properties" .free) <|
    .field (.list "auditLogs" AuditLog.codec) <|
    .done
  toRow value := (value.kbPaymentId, value.status, value.entity, value.headers, value.properties,
    value.auditLogs, ())
  ofRow := fun (kbPaymentId, status, entity, headers, properties, auditLogs, ()) =>
    { kbPaymentId, status, entity, headers, properties, auditLogs }

@[inherit_doc GatewayNotification.record]
def GatewayNotification.codec : Codec GatewayNotification :=
  GatewayNotification.record.codec

/-- A property whose value is a string. -/
def PluginProperty.ofStrings (key value : String) : PluginProperty :=
  { key := some key, value := some (.string value) }

end BillingClient.Domain
