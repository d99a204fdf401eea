import BillingClient.Domain.Gateway

/-!
Contract: the ways an account pays.
-/

namespace BillingClient.Domain

open BillingClient.Calendar
open BillingClient.Json (Codec Map Record Value)
open BillingClient.Number (Decimal)
open BillingClient.Vocabulary

/-- A payment method as its plugin knows it. -/
structure PaymentMethodPluginDetail where
  externalPaymentMethodId : Option String := none
  isDefaultPaymentMethod : Option Bool := none
  properties : List PluginProperty := []
deriving BEq, Inhabited

/-- The wire form of a payment method as its plugin knows it. -/
abbrev PaymentMethodPluginDetail.record : Record PaymentMethodPluginDetail where
  schema :=
    .field (.optional "externalPaymentMethodId" .string) <|
    .field (.optional "isDefaultPaymentMethod" .bool) <|
    .field (.list "properties" PluginProperty.codec) <|
    .done
  toRow value := (value.externalPaymentMethodId, value.isDefaultPaymentMethod, value.properties,
    ())
  ofRow := fun (externalPaymentMethodId, isDefaultPaymentMethod, properties, ()) =>
    { externalPaymentMethodId, isDefaultPaymentMethod, properties }

@[inherit_doc PaymentMethodPluginDetail.record]
def PaymentMethodPluginDetail.codec : Codec PaymentMethodPluginDetail :=
  PaymentMethodPluginDetail.record.codec

/-- A payment method of an account. -/
structure PaymentMethod where
  paymentMethodId : Option PaymentMethodId := none
  externalKey : Option String := none
  accountId : Option AccountId := none
  isDefault : Option Bool := none
  pluginName : Option String := none
  pluginInfo : Option PaymentMethodPluginDetail := none
  auditLogs : List AuditLog := []
deriving BEq, Inhabited

/-- The wire form of a payment method of an account. -/
abbrev PaymentMethod.record : Record PaymentMethod where
  schema :=
    .field (.optional "paymentMethodId" Identifier.codec) <|
    .field (.optional "externalKey" .string) <|
    .field (.optional "accountId" Identifier.codec) <|
    .field (.optional "isDefault" .bool) <|
    .field (.optional "pluginName" .string) <|
    .field (.optional "pluginInfo" PaymentMethodPluginDetail.codec) <|
    .field (.list "auditLogs" AuditLog.codec) <|
    .done
  toRow value := (value.paymentMethodId, value.externalKey, value.accountId, value.isDefault,
    value.pluginName, value.pluginInfo, value.auditLogs, ())
  ofRow := fun (paymentMethodId, externalKey, accountId, isDefault, pluginName, pluginInfo,
    auditLogs, ()) =>
    { paymentMethodId, externalKey, accountId, isDefault, pluginName, pluginInfo, auditLogs }

@[inherit_doc PaymentMethod.record]
def PaymentMethod.codec : Codec PaymentMethod :=
  PaymentMethod.record.codec

end BillingClient.Domain
