import BillingClient.Domain.Audit

/-!
Contract: tenants and the values stored for them.
-/

namespace BillingClient.Domain

open BillingClient.Calendar
open BillingClient.Json (Codec Map Record Value)
open BillingClient.Number (Decimal)
open BillingClient.Vocabulary

structure Tenant where
  tenantId : Option TenantId := none
  externalKey : Option String := none
  apiKey : Option String := none
  apiSecret : Option String := none
  auditLogs : List AuditLog := []
deriving BEq, Inhabited

/-- The wire form of a tenant. -/
abbrev Tenant.record : Record Tenant where
  schema :=
    .field (.optional "tenantId" Identifier.codec) <|
    .field (.optional "externalKey" .string) <|
    .field (.optional "apiKey" .string) <|
    .field (.optional "apiSecret" .string) <|
    .field (.list "auditLogs" AuditLog.codec) <|
    .done
  toRow value := (value.tenantId, value.externalKey, value.apiKey, value.apiSecret,
    value.auditLogs, ())
  ofRow := fun (tenantId, externalKey, apiKey, apiSecret, auditLogs, ()) =>
    { tenantId, externalKey, apiKey, apiSecret, auditLogs }

@[inherit_doc Tenant.record]
def Tenant.codec : Codec Tenant :=
  Tenant.record.codec

/-- A key of a tenant with its values. -/
structure TenantKeyValue where
  key : Option String := none
  values : List String := []
deriving BEq, Inhabited

/-- The wire form of a key of a tenant with its values. -/
abbrev TenantKeyValue.record : Record TenantKeyValue where
  schema :=
    .field (.optional "key" .string) <|
    .field (.fullList "values" .string) <|
    .done
  toRow value := (value.key, value.values, ())
  ofRow := fun (key, values, ()) =>
    { key, values }

@[inherit_doc TenantKeyValue.record]
def TenantKeyValue.codec : Codec TenantKeyValue :=
  TenantKeyValue.record.codec

/-- A tenant with an API key and its secret. -/
def Tenant.ofCredentials (apiKey apiSecret : String) : Tenant :=
  { apiKey := some apiKey, apiSecret := some apiSecret }

end BillingClient.Domain
