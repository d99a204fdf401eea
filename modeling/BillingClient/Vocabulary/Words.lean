import BillingClient.Json.Codec
import BillingClient.Vocabulary.Term

/-!
Contract: the words of the wire format.

Each finite type lists its values with the word sent for them. All words are read
and written by the same `Wordlist` functions, and `Wordlist.codec` makes them JSON.
-/

namespace BillingClient.Vocabulary

def Wordlist.codec {α : Type} [Wordlist α] : Json.Codec α :=
  .name ofWord? word

/-- How much of the audit history comes with an object. -/
inductive AuditLevel where
  | none
  | minimal
  | full
deriving DecidableEq, Repr

instance : Wordlist AuditLevel where
  kind := "AuditLevel"
  values := [.none, .minimal, .full]
  spelling
    | .none => ⟨"NONE", "None"⟩
    | .minimal => ⟨"MINIMAL", "Minimal"⟩
    | .full => ⟨"FULL", "Full"⟩

/-- The kinds of object that tags, custom fields and audit entries are about. -/
inductive ObjectType where
  | account
  | accountEmail
  | blockingStates
  | bundle
  | customField
  | invoice
  | payment
  | transaction
  | invoiceItem
  | invoicePayment
  | subscription
  | subscriptionEvent
  | serviceBroadcast
  | paymentAttempt
  | paymentMethod
  | tag
  | tagDefinition
  | tenant
  | tenantKvs
deriving DecidableEq, Repr

instance : Wordlist ObjectType where
  kind := "ObjectType"
  values := [.account, .accountEmail, .blockingStates, .bundle, .customField, .invoice, .payment,
    .transaction, .invoiceItem, .invoicePayment, .subscription, .subscriptionEvent,
    .serviceBroadcast, .paymentAttempt, .paymentMethod, .tag, .tagDefinition, .tenant, .tenantKvs]
  spelling
    | .account => ⟨"ACCOUNT", "Account"⟩
    | .accountEmail => ⟨"ACCOUNT_EMAIL", "AccountEmail"⟩
    | .blockingStates => ⟨"BLOCKING_STATES", "BlockingStates"⟩
    | .bundle => ⟨"BUNDLE", "Bundle"⟩
    | .customField => ⟨"CUSTOM_FIELD", "CustomField"⟩
    | .invoice => ⟨"INVOICE", "Invoice"⟩
    | .payment => ⟨"PAYMENT", "Payment"⟩
    | .transaction => ⟨"TRANSACTION", "Transaction"⟩
    | .invoiceItem => ⟨"INVOICE_ITEM", "InvoiceItem"⟩
    | .invoicePayment => ⟨"INVOICE_PAYMENT", "InvoicePayment"⟩
    | .subscription => ⟨"SUBSCRIPTION", "Subscription"⟩
    | .subscriptionEvent => ⟨"SUBSCRIPTION_EVENT", "SubscriptionEvent"⟩
    | .serviceBroadcast => ⟨"SERVICE_BROADCAST", "ServiceBroadcast"⟩
    | .paymentAttempt => ⟨"PAYMENT_ATTEMPT", "PaymentAttempt"⟩
    | .paymentMethod => ⟨"PAYMENT_METHOD", "PaymentMethod"⟩
    | .tag => ⟨"TAG", "Tag"⟩
    | .tagDefinition => ⟨"TAG_DEFINITION", "TagDefinition"⟩
    | .tenant => ⟨"TENANT", "Tenant"⟩
    | .tenantKvs => ⟨"TENANT_KVS", "TenantKvs"⟩

inductive ProductCategory where
  | base
  | addOn
  | standalone
deriving DecidableEq, Repr

instance : Wordlist ProductCategory where
  kind := "ProductCategory"
  values := [.base, .addOn, .standalone]
  spelling
    | .base => ⟨"BASE", "Base"⟩
    | .addOn => ⟨"ADD_ON", "AddOn"⟩
    | .standalone => ⟨"STANDALONE", "Standalone"⟩

/-- How often a plan phase is billed. -/
inductive BillingPeriod where
  | daily
  | weekly
  | biweekly
  | thirtyDays
  | thirtyOneDays
  | sixtyDays
  | ninetyDays
  | monthly
  | bimestrial
  | quarterly
  | triannual
  | biannual
  | annual
  | sesquiennial
  | biennial
  | triennial
  | noBillingPeriod
deriving DecidableEq, Repr

instance : Wordlist BillingPeriod where
  kind := "BillingPeriod"
  values := [.daily, .weekly, .biweekly, .thirtyDays, .thirtyOneDays, .sixtyDays, .ninetyDays,
    .monthly, .bimestrial, .quarterly, .triannual, .biannual, .annual, .sesquiennial, .biennial,
    .triennial, .noBillingPeriod]
  spelling
    | .daily => ⟨"DAILY", "Daily"⟩
    | .weekly => ⟨"WEEKLY", "Weekly"⟩
    | .biweekly => ⟨"BIWEEKLY", "Biweekly"⟩
    | .thirtyDays => ⟨"THIRTY_DAYS", "ThirtyDays"⟩
    | .thirtyOneDays => ⟨"THIRTY_ONE_DAYS", "ThirtyOneDays"⟩
    | .sixtyDays => ⟨"SIXTY_DAYS", "SixtyDays"⟩
    | .ninetyDays => ⟨"NINETY_DAYS", "NinetyDays"⟩
    | .monthly => ⟨"MONTHLY", "Monthly"⟩
    | .bimestrial => ⟨"BIMESTRIAL", "Bimestrial"⟩
    | .quarterly => ⟨"QUARTERLY", "Quarterly"⟩
    | .triannual => ⟨"TRIANNUAL", "Triannual"⟩
    | .biannual => ⟨"BIANNUAL", "Biannual"⟩
    | .annual => ⟨"ANNUAL", "Annual"⟩
    | .sesquiennial => ⟨"SESQUIENNIAL", "Sesquiennial"⟩
    | .biennial => ⟨"BIENNIAL", "Biennial"⟩
    | .triennial => ⟨"TRIENNIAL", "Triennial"⟩
    | .noBillingPeriod => ⟨"NO_BILLING_PERIOD", "NoBillingPeriod"⟩

inductive PhaseType where
  | trial
  | discount
  | fixedTerm
  | evergreen
deriving DecidableEq, Repr

instance : Wordlist PhaseType where
  kind := "PhaseType"
  values := [.trial, .discount, .fixedTerm, .evergreen]
  spelling
    | .trial => ⟨"TRIAL", "Trial"⟩
    | .discount => ⟨"DISCOUNT", "Discount"⟩
    | .fixedTerm => ⟨"FIXEDTERM", "FixedTerm"⟩
    | .evergreen => ⟨"EVERGREEN", "Evergreen"⟩

/-- When a change of billing takes effect. -/
inductive BillingActionPolicy where
  | startOfTerm
  | endOfTerm
  | immediate
  | illegal
deriving DecidableEq, Repr

instance : Wordlist BillingActionPolicy where
  kind := "BillingActionPolicy"
  values := [.startOfTerm, .endOfTerm, .immediate, .illegal]
  spelling
    | .startOfTerm => ⟨"START_OF_TERM", "StartOfTerm"⟩
    | .endOfTerm => ⟨"END_OF_TERM", "EndOfTerm"⟩
    | .immediate => ⟨"IMMEDIATE", "Immediate"⟩
    | .illegal => ⟨"ILLEGAL", "Illegal"⟩

/-- When a change of entitlement takes effect. -/
inductive EntitlementActionPolicy where
  | immediate
  | endOfTerm
deriving DecidableEq, Repr

instance : Wordlist EntitlementActionPolicy where
  kind := "EntitlementActionPolicy"
  values := [.immediate, .endOfTerm]
  spelling
    | .immediate => ⟨"IMMEDIATE", "Immediate"⟩
    | .endOfTerm => ⟨"END_OF_TERM", "EndOfTerm"⟩

inductive EntitlementState where
  | pending
  | active
  | blocked
  | cancelled
  | expired
deriving DecidableEq, Repr

instance : Wordlist EntitlementState where
  kind := "EntitlementState"
  values := [.pending, .active, .blocked, .cancelled, .expired]
  spelling
    | .pending => ⟨"PENDING", "Pending"⟩
    | .active => ⟨"ACTIVE", "Active"⟩
    | .blocked => ⟨"BLOCKED", "Blocked"⟩
    | .cancelled => ⟨"CANCELLED", "Cancelled"⟩
    | .expired => ⟨"EXPIRED", "Expired"⟩

inductive InvoiceStatus where
  | draft
  | committed
  | void
deriving DecidableEq, Repr

instance : Wordlist InvoiceStatus where
  kind := "InvoiceStatus"
  values := [.draft, .committed, .void]
  spelling
    | .draft => ⟨"DRAFT", "Draft"⟩
    | .committed => ⟨"COMMITTED", "Committed"⟩
    | .void => ⟨"VOID", "Void"⟩

inductive InvoiceItemType where
  | externalCharge
  | fixed
  | recurring
  | repairAdj
  | cbaAdj
  | creditAdj
  | itemAdj
  | usage
  | tax
  | parentSummary
deriving DecidableEq, Repr

instance : Wordlist InvoiceItemType where
  kind := "InvoiceItemType"
  values := [.externalCharge, .fixed, .recurring, .repairAdj, .cbaAdj, .creditAdj, .itemAdj,
    .usage, .tax, .parentSummary]
  spelling
    | .externalCharge => ⟨"EXTERNAL_CHARGE", "ExternalCharge"⟩
    | .fixed => ⟨"FIXED", "Fixed"⟩
    | .recurring => ⟨"RECURRING", "Recurring"⟩
    | .repairAdj => ⟨"REPAIR_ADJ", "RepairAdj"⟩
    | .cbaAdj => ⟨"CBA_ADJ", "CbaAdj"⟩
    | .creditAdj => ⟨"CREDIT_ADJ", "CreditAdj"⟩
    | .itemAdj => ⟨"ITEM_ADJ", "ItemAdj"⟩
    | .usage => ⟨"USAGE", "Usage"⟩
    | .tax => ⟨"TAX", "Tax"⟩
    | .parentSummary => ⟨"PARENT_SUMMARY", "ParentSummary"⟩

inductive TransactionType where
  | authorize
  | capture
  | chargeback
  | credit
  | purchase
  | refund
  | void
deriving DecidableEq, Repr

instance : Wordlist TransactionType where
  kind := "TransactionType"
  values := [.authorize, .capture, .chargeback, .credit, .purchase, .refund, .void]
  spelling
    | .authorize => ⟨"AUTHORIZE", "Authorize"⟩
    | .capture => ⟨"CAPTURE", "Capture"⟩
    | .chargeback => ⟨"CHARGEBACK", "Chargeback"⟩
    | .credit => ⟨"CREDIT", "Credit"⟩
    | .purchase => ⟨"PURCHASE", "Purchase"⟩
    | .refund => ⟨"REFUND", "Refund"⟩
    | .void => ⟨"VOID", "Void"⟩

/-- The outcomes of a payment transaction. -/
inductive TransactionStatus where
  | success
  | unknown
  | pending
  | paymentFailure
  | pluginFailure
  | paymentSystemOff
deriving DecidableEq, Repr

instance : Wordlist TransactionStatus where
  kind := "TransactionStatus"
  values := [.success, .unknown, .pending, .paymentFailure, .pluginFailure, .paymentSystemOff]
  spelling
    | .success => ⟨"SUCCESS", "Success"⟩
    | .unknown => ⟨"UNKNOWN", "Unknown"⟩
    | .pending => ⟨"PENDING", "Pending"⟩
    | .paymentFailure => ⟨"PAYMENT_FAILURE", "PaymentFailure"⟩
    | .pluginFailure => ⟨"PLUGIN_FAILURE", "PluginFailure"⟩
    | .paymentSystemOff => ⟨"PAYMENT_SYSTEM_OFF", "PaymentSystemOff"⟩

inductive UsageType where
  | capacity
  | consumable
deriving DecidableEq, Repr

instance : Wordlist UsageType where
  kind := "UsageType"
  values := [.capacity, .consumable]
  spelling
    | .capacity => ⟨"CAPACITY", "Capacity"⟩
    | .consumable => ⟨"CONSUMABLE", "Consumable"⟩

/-- Whether a period is billed at its start or at its end. -/
inductive BillingMode where
  | inAdvance
  | inArrear
deriving DecidableEq, Repr

instance : Wordlist BillingMode where
  kind := "BillingMode"
  values := [.inAdvance, .inArrear]
  spelling
    | .inAdvance => ⟨"IN_ADVANCE", "InAdvance"⟩
    | .inArrear => ⟨"IN_ARREAR", "InArrear"⟩

inductive TierBlockPolicy where
  | allTiers
  | topTier
deriving DecidableEq, Repr

instance : Wordlist TierBlockPolicy where
  kind := "TierBlockPolicy"
  values := [.allTiers, .topTier]
  spelling
    | .allTiers => ⟨"ALL_TIERS", "AllTiers"⟩
    | .topTier => ⟨"TOP_TIER", "TopTier"⟩

/-- What a trial run of an invoice starts from. -/
inductive DryRunType where
  | targetDate
  | upcomingInvoice
  | subscriptionAction
deriving DecidableEq, Repr

instance : Wordlist DryRunType where
  kind := "DryRunType"
  values := [.targetDate, .upcomingInvoice, .subscriptionAction]
  spelling
    | .targetDate => ⟨"TARGET_DATE", "TargetDate"⟩
    | .upcomingInvoice => ⟨"UPCOMING_INVOICE", "UpcomingInvoice"⟩
    | .subscriptionAction => ⟨"SUBSCRIPTION_ACTION", "SubscriptionAction"⟩

/-- No audit history is the default. -/
instance : Inhabited AuditLevel := ⟨.none⟩

end BillingClient.Vocabulary
