import BillingClient.Domain.Price

/-!
Contract: subscriptions, the bundles they come in, and their events.
-/

namespace BillingClient.Domain

open BillingClient.Calendar
open BillingClient.Json (Codec Map Record Value)
open BillingClient.Number (Decimal)
open BillingClient.Vocabulary

/-- An event in the life of a subscription. -/
structure EventSubscription where
  eventId : Option Uuid := none
  billingPeriod : Option BillingPeriod := none
  effectiveDate : Option Date := none
  catalogEffectiveDate : Option Instant := none
  plan : Option String := none
  product : Option String := none
  priceList : Option String := none
  eventType : Option String := none
  isBlockedBilling : Option Bool := none
  isBlockedEntitlement : Option Bool := none
  serviceName : Option String := none
  serviceStateName : Option String := none
  phase : Option String := none
  auditLogs : List AuditLog := []
deriving BEq, Inhabited

/-- The wire form of an event in the life of a subscription. -/
abbrev EventSubscription.record : Record EventSubscription where
  schema :=
    .field (.optional "eventId" Uuid.codec) <|
    .field (.optional "billingPeriod" Wordlist.codec) <|
    .field (.optional "effectiveDate" .date) <|
    .field (.optional "catalogEffectiveDate" .instant) <|
    .field (.optional "plan" .string) <|
    .field (.optional "product" .string) <|
    .field (.optional "priceList" .string) <|
    .field (.optional "eventType" .string) <|
    .field (.optional "isBlockedBilling" .bool) <|
    .field (.optional "isBlockedEntitlement" .bool) <|
    .field (.optional "serviceName" .string) <|
    .field (.optional "serviceStateName" .string) <|
    .field (.optional "phase" .string) <|
    .field (.list "auditLogs" AuditLog.codec) <|
    .done
  toRow value := (value.eventId, value.billingPeriod, value.effectiveDate,
    value.catalogEffectiveDate, value.plan, value.product, value.priceList, value.eventType,
    value.isBlockedBilling, value.isBlockedEntitlement, value.serviceName, value.serviceStateName,
    value.phase, value.auditLogs, ())
  ofRow := fun (eventId, billingPeriod, effectiveDate, catalogEffectiveDate, plan, product,
    priceList, eventType, isBlockedBilling, isBlockedEntitlement, serviceName, serviceStateName,
    phase, auditLogs, ()) =>
    { eventId, billingPeriod, effectiveDate, catalogEffectiveDate, plan, product, priceList,
      eventType, isBlockedBilling, isBlockedEntitlement, serviceName, serviceStateName, phase,
      auditLogs }

@[inherit_doc EventSubscription.record]
def EventSubscription.codec : Codec EventSubscription :=
  EventSubscription.record.codec

structure Subscription where
  accountId : Option AccountId := none
  bundleId : Option BundleId := none
  bundleExternalKey : Option String := none
  subscriptionId : Option SubscriptionId := none
  externalKey : Option String := none
  startDate : Option Date := none
  productName : Option String := none
  productCategory : Option ProductCategory := none
  billingPeriod : Option BillingPeriod := none
  phaseType : Option PhaseType := none
  priceList : Option String := none
  planName : Option String := none
  state : Option EntitlementState := none
  sourceType : Option String := none
  cancelledDate : Option Date := none
  chargedThroughDate : Option Date := none
  billingStartDate : Option Date := none
  billingEndDate : Option Date := none
  billCycleDayLocal : Option Int := none
  quantity : Option Int := none
  events : List EventSubscription := []
  priceOverrides : List PhasePrice := []
  prices : List PhasePrice := []
  auditLogs : List AuditLog := []
deriving BEq, Inhabited

/-- The wire form of a subscription. -/
abbrev Subscription.record : Record Subscription where
  schema :=
    .field (.optional "accountId" Identifier.codec) <|
    .field (.optional "bundleId" Identifier.codec) <|
    .field (.optional "bundleExternalKey" .string) <|
    .field (.optional "subscriptionId" Identifier.codec) <|
    .field (.optional "externalKey" .string) <|
    .field (.optional "startDate" .date) <|
    .field (.optional "productName" .string) <|
    .field (.optional "productCategory" Wordlist.codec) <|
    .field (.optional "billingPeriod" Wordlist.codec) <|
    .field (.optional "phaseType" Wordlist.codec) <|
    .field (.optional "priceList" .string) <|
    .field (.optional "planName" .string) <|
    .field (.optional "state" Wordlist.codec) <|
    .field (.optional "sourceType" .string) <|
    .field (.optional "cancelledDate" .date) <|
    .field (.optional "chargedThroughDate" .date) <|
    .field (.optional "billingStartDate" .date) <|
    .field (.optional "billingEndDate" .date) <|
    .field (.optional "billCycleDayLocal" .int32) <|
    .field (.optional "quantity" .int32) <|
    .field (.list "events" EventSubscription.codec) <|
    .field (.list "priceOverrides" PhasePrice.codec) <|
    .field (.list "prices" PhasePrice.codec) <|
    .field (.list "auditLogs" AuditLog.codec) <|
    .done
  toRow value := (value.accountId, value.bundleId, value.bundleExternalKey, value.subscriptionId,
    value.externalKey, value.startDate, value.productName, value.productCategory,
    value.billingPeriod, value.phaseType, value.priceList, value.planName, value.state,
    value.sourceType, value.cancelledDate, value.chargedThroughDate, value.billingStartDate,
    value.billingEndDate, value.billCycleDayLocal, value.quantity, value.events,
    value.priceOverrides, value.prices, value.auditLogs, ())
  ofRow := fun (accountId, bundleId, bundleExternalKey, subscriptionId, externalKey, startDate,
    productName, productCategory, billingPeriod, phaseType, priceList, planName, state,
    sourceType, cancelledDate, chargedThroughDate, billingStartDate, billingEndDate,
    billCycleDayLocal, quantity, events, priceOverrides, prices, auditLogs, ()) =>
    { accountId, bundleId, bundleExternalKey, subscriptionId, externalKey, startDate, productName,
      productCategory, billingPeriod, phaseType, priceList, planName, state, sourceType,
      cancelledDate, chargedThroughDate, billingStartDate, billingEndDate, billCycleDayLocal,
      quantity, events, priceOverrides, prices, auditLogs }

@[inherit_doc Subscription.record]
def Subscription.codec : Codec Subscription :=
  Subscription.record.codec

structure BundleTimeline where
  accountId : Option AccountId := none
  bundleId : Option BundleId := none
  externalKey : Option String := none
  events : List EventSubscription := []
deriving BEq, Inhabited

/-- The wire form of a history of a bundle. -/
abbrev BundleTimeline.record : Record BundleTimeline where
  schema :=
    .field (.optional "accountId" Identifier.codec) <|
    .field (.optional "bundleId" Identifier.codec) <|
    .field (.optional "externalKey" .string) <|
    .field (.fullList "events" EventSubscription.codec) <|
    .done
  toRow value := (value.accountId, value.bundleId, value.externalKey, value.events, ())
  ofRow := fun (accountId, bundleId, externalKey, events, ()) =>
    { accountId, bundleId, externalKey, events }

@[inherit_doc BundleTimeline.record]
def BundleTimeline.codec : Codec BundleTimeline :=
  BundleTimeline.record.codec

structure Bundle where
  accountId : Option AccountId := none
  bundleId : Option BundleId := none
  externalKey : Option String := none
  subscriptions : List Subscription := []
  timeline : Option BundleTimeline := none
  auditLogs : List AuditLog := []
deriving BEq, Inhabited

/-- The wire form of a bundle of subscriptions. -/
abbrev Bundle.record : Record Bundle where
  schema :=
    .field (.optional "accountId" Identifier.codec) <|
    .field (.optional "bundleId" Identifier.codec) <|
    .field (.optional "externalKey" .string) <|
    .field (.list "subscriptions" Subscription.codec) <|
    .field (.optional "timeline" BundleTimeline.codec) <|
    .field (.list "auditLogs" AuditLog.codec) <|
    .done
  toRow value := (value.accountId, value.bundleId, value.externalKey, value.subscriptions,
    value.timeline, value.auditLogs, ())
  ofRow := fun (accountId, bundleId, externalKey, subscriptions, timeline, auditLogs, ()) =>
    { accountId, bundleId, externalKey, subscriptions, timeline, auditLogs }

@[inherit_doc Bundle.record]
def Bundle.codec : Codec Bundle :=
  Bundle.record.codec

end BillingClient.Domain
