import BillingClient.Domain.Price

/-!
Contract: invoices, their items and credits.
-/

namespace BillingClient.Domain

open BillingClient.Calendar
open BillingClient.Json (Codec Map Record Value)
open BillingClient.Number (Decimal)
open BillingClient.Vocabulary

structure InvoiceItem where
  invoiceItemId : Option InvoiceItemId := none
  invoiceId : Option InvoiceId := none
  linkedInvoiceItemId : Option InvoiceItemId := none
  accountId : Option AccountId := none
  childAccountId : Option AccountId := none
  bundleId : Option BundleId := none
  subscriptionId : Option SubscriptionId := none
  productName : Option String := none
  planName : Option String := none
  phaseName : Option String := none
  usageName : Option String := none
  prettyProductName : Option String := none
  prettyPlanName : Option String := none
  prettyPhaseName : Option String := none
  prettyUsageName : Option String := none
  itemType : Option InvoiceItemType := none
  description : Option String := none
  startDate : Option Date := none
  endDate : Option Date := none
  amount : Option Decimal := none
  rate : Option Decimal := none
  currency : Option Currency := none
  quantity : Option Decimal := none
  itemDetails : Option String := none
  childItems : List InvoiceItem := []
  auditLogs : List AuditLog := []
deriving Inhabited

mutual

/-- Equality of items, child items included. -/
def InvoiceItem.same : InvoiceItem → InvoiceItem → Bool
  | { invoiceItemId, invoiceId, linkedInvoiceItemId, accountId, childAccountId, bundleId,
      subscriptionId, productName, planName, phaseName, usageName, prettyProductName,
      prettyPlanName, prettyPhaseName, prettyUsageName, itemType, description, startDate, endDate,
      amount, rate, currency, quantity, itemDetails, childItems, auditLogs }, other =>
    invoiceItemId == other.invoiceItemId && invoiceId == other.invoiceId &&
    linkedInvoiceItemId == other.linkedInvoiceItemId && accountId == other.accountId &&
    childAccountId == other.childAccountId && bundleId == other.bundleId &&
    subscriptionId == other.subscriptionId && productName == other.productName &&
    planName == other.planName && phaseName == other.phaseName && usageName == other.usageName &&
    prettyProductName == other.prettyProductName && prettyPlanName == other.prettyPlanName &&
    prettyPhaseName == other.prettyPhaseName && prettyUsageName == other.prettyUsageName &&
    itemType == other.itemType && description == other.description &&
    startDate == other.startDate && endDate == other.endDate && amount == other.amount &&
    rate == other.rate && currency == other.currency && quantity == other.quantity &&
    itemDetails == other.itemDetails && InvoiceItem.sameAll childItems other.childItems &&
    auditLogs == other.auditLogs

def InvoiceItem.sameAll : List InvoiceItem → List InvoiceItem → Bool
  | [], [] => true
  | item :: rest, other :: others => item.same other && InvoiceItem.sameAll rest others
  | _, _ => false

end

instance : BEq InvoiceItem := ⟨InvoiceItem.same⟩

/-- The wire form of an item of an invoice, given that of its child items. -/
abbrev InvoiceItem.recordWith (child : Codec InvoiceItem) : Record InvoiceItem where
  schema :=
    .field (.optional "invoiceItemId" Identifier.codec) <|
    .field (.optional "invoiceId" Identifier.codec) <|
    .field (.optional "linkedInvoiceItemId" Identifier.codec) <|
    .field (.optional "accountId" Identifier.codec) <|
    .field (.optional "childAccountId" Identifier.codec) <|
    .field (.optional "bundleId" Identifier.codec) <|
    .field (.optional "subscriptionId" Identifier.codec) <|
    .field (.optional "productName" .string) <|
    .field (.optional "planName" .string) <|
    .field (.optional "phaseName" .string) <|
    .field (.optional "usageName" .string) <|
    .field (.optional "prettyProductName" .string) <|
    .field (.optional "prettyPlanName" .string) <|
    .field (.optional "prettyPhaseName" .string) <|
    .field (.optional "prettyUsageName" .string) <|
    .field (.optional "itemType" Wordlist.codec) <|
    .field (.optional "description" .string) <|
    .field (.optional "startDate" .date) <|
    .field (.optional "endDate" .date) <|
    .field (.optional "amount" .decimal) <|
    .field (.optional "rate" .decimal) <|
    .field (.optional "currency" Currency.codec) <|
    .field (.optional "quantity" .decimal) <|
    .field (.optional "itemDetails" .string) <|
    .field (.list "childItems" child) <|
    .field (.list "auditLogs" AuditLog.codec) <|
    .done
  toRow value := (value.invoiceItemId, value.invoiceId, value.linkedInvoiceItemId,
    value.accountId, value.childAccountId, value.bundleId, value.subscriptionId,
    value.productName, value.planName, value.phaseName, value.usageName, value.prettyProductName,
    value.prettyPlanName, value.prettyPhaseName, value.prettyUsageName, value.itemType,
    value.description, value.startDate, value.endDate, value.amount, value.rate, value.currency,
    value.quantity, value.itemDetails, value.childItems, value.auditLogs, ())
  ofRow := fun (invoiceItemId, invoiceId, linkedInvoiceItemId, accountId, childAccountId,
    bundleId, subscriptionId, productName, planName, phaseName, usageName, prettyProductName,
    prettyPlanName, prettyPhaseName, prettyUsageName, itemType, description, startDate, endDate,
    amount, rate, currency, quantity, itemDetails, childItems, auditLogs, ()) =>
    { invoiceItemId, invoiceId, linkedInvoiceItemId, accountId, childAccountId, bundleId,
      subscriptionId, productName, planName, phaseName, usageName, prettyProductName,
      prettyPlanName, prettyPhaseName, prettyUsageName, itemType, description, startDate, endDate,
      amount, rate, currency, quantity, itemDetails, childItems, auditLogs }

mutual

/-- How many levels of items an item has, itself included. -/
def InvoiceItem.height : InvoiceItem → Nat
  | { childItems, .. } => InvoiceItem.heightOfAll childItems + 1

/-- The greatest height of some items. -/
def InvoiceItem.heightOfAll : List InvoiceItem → Nat
  | [] => 0
  | item :: rest => max item.height (InvoiceItem.heightOfAll rest)

end

/-- The codec of items that are at most some levels high. -/
def InvoiceItem.codecWithin : Nat → Codec InvoiceItem
  | 0 => ⟨fun _ _ => none, fun _ => .null⟩
  | levels + 1 => (InvoiceItem.recordWith (InvoiceItem.codecWithin levels)).codec

/-- The wire form of an item of any height. What a text can hold is bounded by the
depth that is left at its place. -/
def InvoiceItem.codec : Codec InvoiceItem where
  decode place := (InvoiceItem.codecWithin (place.room + 1)).decode place
  encode item := (InvoiceItem.codecWithin item.height).encode item

structure Invoice where
  amount : Option Decimal := none
  currency : Option Currency := none
  status : Option InvoiceStatus := none
  creditAdj : Option Decimal := none
  refundAdj : Option Decimal := none
  invoiceId : Option InvoiceId := none
  invoiceDate : Option Date := none
  targetDate : Option Date := none
  invoiceNumber : Option String := none
  balance : Option Decimal := none
  accountId : Option AccountId := none
  bundleKeys : Option String := none
  credits : List InvoiceItem := []
  items : List InvoiceItem := []
  trackingIds : List String := []
  isParentInvoice : Option Bool := none
  parentInvoiceId : Option InvoiceId := none
  parentAccountId : Option AccountId := none
  auditLogs : List AuditLog := []
deriving BEq, Inhabited

/-- The wire form of an invoice. -/
abbrev Invoice.record : Record Invoice where
  schema :=
    .field (.optional "amount" .decimal) <|
    .field (.optional "currency" Currency.codec) <|
    .field (.optional "status" Wordlist.codec) <|
    .field (.optional "creditAdj" .decimal) <|
    .field (.optional "refundAdj" .decimal) <|
    .field (.optional "invoiceId" Identifier.codec) <|
    .field (.optional "invoiceDate" .date) <|
    .field (.optional "targetDate" .date) <|
    .field (.optional "invoiceNumber" .string) <|
    .field (.optional "balance" .decimal) <|
    .field (.optional "accountId" Identifier.codec) <|
    .field (.optional "bundleKeys" .string) <|
    .field (.list "credits" InvoiceItem.codec) <|
    .field (.list "items" InvoiceItem.codec) <|
    .field (.list "trackingIds" .string) <|
    .field (.optional "isParentInvoice" .bool) <|
    .field (.optional "parentInvoiceId" Identifier.codec) <|
    .field (.optional "parentAccountId" Identifier.codec) <|
    .field (.list "auditLogs" AuditLog.codec) <|
    .done
  toRow value := (value.amount, value.currency, value.status, value.creditAdj, value.refundAdj,
    value.invoiceId, value.invoiceDate, value.targetDate, value.invoiceNumber, value.balance,
    value.accountId, value.bundleKeys, value.credits, value.items, value.trackingIds,
    value.isParentInvoice, value.parentInvoiceId, value.parentAccountId, value.auditLogs, ())
  ofRow := fun (amount, currency, status, creditAdj, refundAdj, invoiceId, invoiceDate,
    targetDate, invoiceNumber, balance, accountId, bundleKeys, credits, items, trackingIds,
    isParentInvoice, parentInvoiceId, parentAccountId, auditLogs, ()) =>
    { amount, currency, status, creditAdj, refundAdj, invoiceId, invoiceDate, targetDate,
      invoiceNumber, balance, accountId, bundleKeys, credits, items, trackingIds, isParentInvoice,
      parentInvoiceId, parentAccountId, auditLogs }

@[inherit_doc Invoice.record]
def Invoice.codec : Codec Invoice :=
  Invoice.record.codec

/-- A request for a trial run of an invoice. -/
structure InvoiceDryRun where
  dryRunType : Option DryRunType := none
  dryRunAction : Option String := none
  phaseType : Option PhaseType := none
  productName : Option String := none
  productCategory : Option ProductCategory := none
  billingPeriod : Option BillingPeriod := none
  priceListName : Option String := none
  subscriptionId : Option SubscriptionId := none
  bundleId : Option BundleId := none
  effectiveDate : Option Date := none
  billingPolicy : Option BillingActionPolicy := none
  priceOverrides : List PhasePrice := []
deriving BEq, Inhabited

/-- The wire form of a request for a trial run of an invoice. -/
abbrev InvoiceDryRun.record : Record InvoiceDryRun where
  schema :=
    .field (.optional "dryRunType" Wordlist.codec) <|
    .field (.optional "dryRunAction" .string) <|
    .field (.optional "phaseType" Wordlist.codec) <|
    .field (.optional "productName" .string) <|
    .field (.optional "productCategory" Wordlist.codec) <|
    .field (.optional "billingPeriod" Wordlist.codec) <|
    .field (.optional "priceListName" .string) <|
    .field (.optional "subscriptionId" Identifier.codec) <|
    .field (.optional "bundleId" Identifier.codec) <|
    .field (.optional "effectiveDate" .date) <|
    .field (.optional "billingPolicy" Wordlist.codec) <|
    .field (.list "priceOverrides" PhasePrice.codec) <|
    .done
  toRow value := (value.dryRunType, value.dryRunAction, value.phaseType, value.productName,
    value.productCategory, value.billingPeriod, value.priceListName, value.subscriptionId,
    value.bundleId, value.effectiveDate, value.billingPolicy, value.priceOverrides, ())
  ofRow := fun (dryRunType, dryRunAction, phaseType, productName, productCategory, billingPeriod,
    priceListName, subscriptionId, bundleId, effectiveDate, billingPolicy, priceOverrides, ()) =>
    { dryRunType, dryRunAction, phaseType, productName, productCategory, billingPeriod,
      priceListName, subscriptionId, bundleId, effectiveDate, billingPolicy, priceOverrides }

@[inherit_doc InvoiceDryRun.record]
def InvoiceDryRun.codec : Codec InvoiceDryRun :=
  InvoiceDryRun.record.codec

structure Credit where
  creditId : Option CreditId := none
  creditAmount : Option Decimal := none
  currency : Option Currency := none
  invoiceId : Option InvoiceId := none
  invoiceNumber : Option String := none
  effectiveDate : Option Date := none
  accountId : Option AccountId := none
  description : Option String := none
  itemDetails : Option String := none
  auditLogs : List AuditLog := []
deriving BEq, Inhabited

/-- The wire form of a credit of an account. -/
abbrev Credit.record : Record Credit where
  schema :=
    .field (.optional "creditId" Identifier.codec) <|
    .field (.optional "creditAmount" .decimal) <|
    .field (.optional "currency" Currency.codec) <|
    .field (.optional "invoiceId" Identifier.codec) <|
    .field (.optional "invoiceNumber" .string) <|
    .field (.optional "effectiveDate" .date) <|
    .field (.optional "accountId" Identifier.codec) <|
    .field (.optional "description" .string) <|
    .field (.optional "itemDetails" .string) <|
    .field (.list "auditLogs" AuditLog.codec) <|
    .done
  toRow value := (value.creditId, value.creditAmount, value.currency, value.invoiceId,
    value.invoiceNumber, value.effectiveDate, value.accountId, value.description,
    value.itemDetails, value.auditLogs, ())
  ofRow := fun (creditId, creditAmount, currency, invoiceId, invoiceNumber, effectiveDate,
    accountId, description, itemDetails, auditLogs, ()) =>
    { creditId, creditAmount, currency, invoiceId, invoiceNumber, effectiveDate, accountId,
      description, itemDetails, auditLogs }

@[inherit_doc Credit.record]
def Credit.codec : Codec Credit :=
  Credit.record.codec

end BillingClient.Domain
