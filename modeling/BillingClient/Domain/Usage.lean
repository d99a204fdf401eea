import BillingClient.Domain.Audit

/-!
Contract: recorded usage of a subscription, and usage rolled up over a period.
-/

namespace BillingClient.Domain

open BillingClient.Calendar
open BillingClient.Json (Codec Map Record Value)
open BillingClient.Number (Decimal)
open BillingClient.Vocabulary

/-- An amount used on a day. -/
structure UsageRecord where
  recordDate : Option Date := none
  amount : Option Decimal := none
deriving BEq, Inhabited

/-- The wire form of an amount used on a day. -/
abbrev UsageRecord.record : Record UsageRecord where
  schema :=
    .field (.optional "recordDate" .date) <|
    .field (.optional "amount" .decimal) <|
    .done
  toRow value := (value.recordDate, value.amount, ())
  ofRow := fun (recordDate, amount, ()) =>
    { recordDate, amount }

@[inherit_doc UsageRecord.record]
def UsageRecord.codec : Codec UsageRecord :=
  UsageRecord.record.codec

/-- A list of amounts used of one unit. -/
structure UnitUsageRecord where
  unitType : Option String := none
  usageRecords : List UsageRecord := []
deriving BEq, Inhabited

/-- The wire form of a list of amounts used of one unit. -/
abbrev UnitUsageRecord.record : Record UnitUsageRecord where
  schema :=
    .field (.optional "unitType" .string) <|
    .field (.fullList "usageRecords" UsageRecord.codec) <|
    .done
  toRow value := (value.unitType, value.usageRecords, ())
  ofRow := fun (unitType, usageRecords, ()) =>
    { unitType, usageRecords }

@[inherit_doc UnitUsageRecord.record]
def UnitUsageRecord.codec : Codec UnitUsageRecord :=
  UnitUsageRecord.record.codec

/-- A report of the usage of a subscription. -/
structure SubscriptionUsageRecord where
  subscriptionId : Option SubscriptionId := none
  trackingId : Option String := none
  unitUsageRecords : List UnitUsageRecord := []
deriving BEq, Inhabited

/-- The wire form of a report of the usage of a subscription. -/
abbrev SubscriptionUsageRecord.record : Record SubscriptionUsageRecord where
  schema :=
    .field (.optional "subscriptionId" Identifier.codec) <|
    .field (.optional "trackingId" .string) <|
    .field (.fullList "unitUsageRecords" UnitUsageRecord.codec) <|
    .done
  toRow value := (value.subscriptionId, value.trackingId, value.unitUsageRecords, ())
  ofRow := fun (subscriptionId, trackingId, unitUsageRecords, ()) =>
    { subscriptionId, trackingId, unitUsageRecords }

@[inherit_doc SubscriptionUsageRecord.record]
def SubscriptionUsageRecord.codec : Codec SubscriptionUsageRecord :=
  SubscriptionUsageRecord.record.codec

/-- A total used of one unit. -/
structure RolledUpUnit where
  unitType : Option String := none
  amount : Option Decimal := none
deriving BEq, Inhabited

/-- The wire form of a total used of one unit. -/
abbrev RolledUpUnit.record : Record RolledUpUnit where
  schema :=
    .field (.optional "unitType" .string) <|
    .field (.optional "amount" .decimal) <|
    .done
  toRow value := (value.unitType, value.amount, ())
  ofRow := fun (unitType, amount, ()) =>
    { unitType, amount }

@[inherit_doc RolledUpUnit.record]
def RolledUpUnit.codec : Codec RolledUpUnit :=
  RolledUpUnit.record.codec

/-- A summary of the usage of a subscription over a period. -/
structure RolledUpUsage where
  subscriptionId : Option SubscriptionId := none
  startDate : Option Date := none
  endDate : Option Date := none
  rolledUpUnits : List RolledUpUnit := []
deriving BEq, Inhabited

/-- The wire form of a summary of the usage of a subscription over a period. -/
abbrev RolledUpUsage.record : Record RolledUpUsage where
  schema :=
    .field (.optional "subscriptionId" Identifier.codec) <|
    .field (.optional "startDate" .date) <|
    .field (.optional "endDate" .date) <|
    .field (.fullList "rolledUpUnits" RolledUpUnit.codec) <|
    .done
  toRow value := (value.subscriptionId, value.startDate, value.endDate, value.rolledUpUnits, ())
  ofRow := fun (subscriptionId, startDate, endDate, rolledUpUnits, ()) =>
    { subscriptionId, startDate, endDate, rolledUpUnits }

@[inherit_doc RolledUpUsage.record]
def RolledUpUsage.codec : Codec RolledUpUsage :=
  RolledUpUsage.record.codec

end BillingClient.Domain
