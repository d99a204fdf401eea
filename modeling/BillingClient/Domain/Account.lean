import BillingClient.Domain.Entitlement
import BillingClient.Domain.InvoicePayment

/-!
Contract: accounts, and what the server keeps about each.
-/

namespace BillingClient.Domain

open BillingClient.Calendar
open BillingClient.Json (Codec Map Record Value)
open BillingClient.Number (Decimal)
open BillingClient.Vocabulary

structure Account where
  accountId : Option AccountId := none
  name : Option String := none
  firstNameLength : Option Int := none
  externalKey : Option String := none
  email : Option String := none
  billCycleDayLocal : Option Int := none
  currency : Option Currency := none
  parentAccountId : Option AccountId := none
  isPaymentDelegatedToParent : Option Bool := none
  paymentMethodId : Option PaymentMethodId := none
  referenceTime : Option Instant := none
  timeZone : Option String := none
  address1 : Option String := none
  address2 : Option String := none
  postalCode : Option String := none
  company : Option String := none
  city : Option String := none
  state : Option String := none
  country : Option String := none
  locale : Option String := none
  phone : Option String := none
  notes : Option String := none
  isMigrated : Option Bool := none
  accountBalance : Option Decimal := none
  accountCba : Option Decimal := none
  auditLogs : List AuditLog := []
deriving BEq, Inhabited

/-- The wire form of an account. -/
abbrev Account.record : Record Account where
  schema :=
    .field (.optional "accountId" Identifier.codec) <|
    .field (.optional "name" .string) <|
    .field (.optional "firstNameLength" .int32) <|
    .field (.optional "externalKey" .string) <|
    .field (.optional "email" .string) <|
    .field (.optional "billCycleDayLocal" .int32) <|
    .field (.optional "currency" Currency.codec) <|
    .field (.optional "parentAccountId" Identifier.codec) <|
    .field (.optional "isPaymentDelegatedToParent" .bool) <|
    .field (.optional "paymentMethodId" Identifier.codec) <|
    .field (.optional "referenceTime" .instant) <|
    .field (.optional "timeZone" .string) <|
    .field (.optional "address1" .string) <|
    .field (.optional "address2" .string) <|
    .field (.optional "postalCode" .string) <|
    .field (.optional "company" .string) <|
    .field (.optional "city" .string) <|
    .field (.optional "state" .string) <|
    .field (.optional "country" .string) <|
    .field (.optional "locale" .string) <|
    .field (.optional "phone" .string) <|
    .field (.optional "notes" .string) <|
    .field (.optional "isMigrated" .bool) <|
    .field (.optional "accountBalance" .decimal) <|
    .field (.optional "accountCBA" .decimal) <|
    .field (.list "auditLogs" AuditLog.codec) <|
    .done
  toRow value := (value.accountId, value.name, value.firstNameLength, value.externalKey,
    value.email, value.billCycleDayLocal, value.currency, value.parentAccountId,
    value.isPaymentDelegatedToParent, value.paymentMethodId, value.referenceTime, value.timeZone,
    value.address1, value.address2, value.postalCode, value.company, value.city, value.state,
    value.country, value.locale, value.phone, value.notes, value.isMigrated, value.accountBalance,
    value.accountCba, value.auditLogs, ())
  ofRow := fun (accountId, name, firstNameLength, externalKey, email, billCycleDayLocal, currency,
    parentAccountId, isPaymentDelegatedToParent, paymentMethodId, referenceTime, timeZone,
    address1, address2, postalCode, company, city, state, country, locale, phone, notes,
    isMigrated, accountBalance, accountCba, auditLogs, ()) =>
    { accountId, name, firstNameLength, externalKey, email, billCycleDayLocal, currency,
      parentAccountId, isPaymentDelegatedToParent, paymentMethodId, referenceTime, timeZone,
      address1, address2, postalCode, company, city, state, country, locale, phone, notes,
      isMigrated, accountBalance, accountCba, auditLogs }

@[inherit_doc Account.record]
def Account.codec : Codec Account :=
  Account.record.codec

/-- A further e-mail address of an account. -/
structure AccountEmail where
  accountId : Option AccountId := none
  email : Option String := none
deriving BEq, Inhabited

/-- The wire form of a further e-mail address of an account. -/
abbrev AccountEmail.record : Record AccountEmail where
  schema :=
    .field (.optional "accountId" Identifier.codec) <|
    .field (.optional "email" .string) <|
    .done
  toRow value := (value.accountId, value.email, ())
  ofRow := fun (accountId, email, ()) =>
    { accountId, email }

@[inherit_doc AccountEmail.record]
def AccountEmail.codec : Codec AccountEmail :=
  AccountEmail.record.codec

/-- A choice whether invoices are sent by e-mail. -/
structure InvoiceEmail where
  accountId : Option AccountId := none
  isNotifiedForInvoices : Option Bool := none
deriving BEq, Inhabited

/-- The wire form of a choice whether invoices are sent by e-mail. -/
abbrev InvoiceEmail.record : Record InvoiceEmail where
  schema :=
    .field (.optional "accountId" Identifier.codec) <|
    .field (.optional "isNotifiedForInvoices" .bool) <|
    .done
  toRow value := (value.accountId, value.isNotifiedForInvoices, ())
  ofRow := fun (accountId, isNotifiedForInvoices, ()) =>
    { accountId, isNotifiedForInvoices }

@[inherit_doc InvoiceEmail.record]
def InvoiceEmail.codec : Codec InvoiceEmail :=
  InvoiceEmail.record.codec

/-- A full history of an account. -/
structure AccountTimeline where
  account : Option Account := none
  bundles : List Bundle := []
  invoices : List Invoice := []
  payments : List InvoicePayment := []
deriving BEq, Inhabited

/-- The wire form of a full history of an account. -/
abbrev AccountTimeline.record : Record AccountTimeline where
  schema :=
    .field (.optional "account" Account.codec) <|
    .field (.fullList "bundles" Bundle.codec) <|
    .field (.fullList "invoices" Invoice.codec) <|
    .field (.fullList "payments" InvoicePayment.codec) <|
    .done
  toRow value := (value.account, value.bundles, value.invoices, value.payments, ())
  ofRow := fun (account, bundles, invoices, payments, ()) =>
    { account, bundles, invoices, payments }

@[inherit_doc AccountTimeline.record]
def AccountTimeline.codec : Codec AccountTimeline :=
  AccountTimeline.record.codec

/-- A state of an account that is late in paying. -/
structure OverdueState where
  name : Option String := none
  externalMessage : Option String := none
  daysBetweenPaymentRetries : List Int := []
  isDisableEntitlementAndChangesBlocked : Option Bool := none
  isBlockChanges : Option Bool := none
  isClearState : Option Bool := none
  reevaluationIntervalDays : Option Int := none
deriving BEq, Inhabited

/-- The wire form of a state of an account that is late in paying. -/
abbrev OverdueState.record : Record OverdueState where
  schema :=
    .field (.optional "name" .string) <|
    .field (.optional "externalMessage" .string) <|
    .field (.list "daysBetweenPaymentRetries" .int32) <|
    .field (.optional "isDisableEntitlementAndChangesBlocked" .bool) <|
    .field (.optional "isBlockChanges" .bool) <|
    .field (.optional "isClearState" .bool) <|
    .field (.optional "reevaluationIntervalDays" .int32) <|
    .done
  toRow value := (value.name, value.externalMessage, value.daysBetweenPaymentRetries,
    value.isDisableEntitlementAndChangesBlocked, value.isBlockChanges, value.isClearState,
    value.reevaluationIntervalDays, ())
  ofRow := fun (name, externalMessage, daysBetweenPaymentRetries,
    isDisableEntitlementAndChangesBlocked, isBlockChanges, isClearState, reevaluationIntervalDays,
    ()) =>
    { name, externalMessage, daysBetweenPaymentRetries, isDisableEntitlementAndChangesBlocked,
      isBlockChanges, isClearState, reevaluationIntervalDays }

@[inherit_doc OverdueState.record]
def OverdueState.codec : Codec OverdueState :=
  OverdueState.record.codec

end BillingClient.Domain
