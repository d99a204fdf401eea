import BillingClient.Domain.Audit

/-!
Contract: prices of plan phases, and of usage by tiers of blocks.
-/

namespace BillingClient.Domain

open BillingClient.Calendar
open BillingClient.Json (Codec Map Record Value)
open BillingClient.Number (Decimal)
open BillingClient.Vocabulary

structure Price where
  currency : Option Currency := none
  value : Option Decimal := none
deriving BEq, Inhabited

/-- The wire form of an amount in a currency. -/
abbrev Price.record : Record Price where
  schema :=
    .field (.optional "currency" Currency.codec) <|
    .field (.optional "value" .decimal) <|
    .done
  toRow value := (value.currency, value.value, ())
  ofRow := fun (currency, value, ()) =>
    { currency, value }

@[inherit_doc Price.record]
def Price.codec : Codec Price :=
  Price.record.codec

/-- A price of a block of units within a tier. -/
structure BlockPrice where
  unitName : Option String := none
  size : Option Decimal := none
  price : Option Decimal := none
  max : Option Decimal := none
deriving BEq, Inhabited

/-- The wire form of a price of a block of units within a tier. -/
abbrev BlockPrice.record : Record BlockPrice where
  schema :=
    .field (.optional "unitName" .string) <|
    .field (.optional "size" .decimal) <|
    .field (.optional "price" .decimal) <|
    .field (.optional "max" .decimal) <|
    .done
  toRow value := (value.unitName, value.size, value.price, value.max, ())
  ofRow := fun (unitName, size, price, max, ()) =>
    { unitName, size, price, max }

@[inherit_doc BlockPrice.record]
def BlockPrice.codec : Codec BlockPrice :=
  BlockPrice.record.codec

structure TierPrice where
  blockPrices : List BlockPrice := []
deriving BEq, Inhabited

/-- The wire form of a tier of block prices. -/
abbrev TierPrice.record : Record TierPrice where
  schema :=
    .field (.list "blockPrices" BlockPrice.codec) <|
    .done
  toRow value := (value.blockPrices, ())
  ofRow := fun (blockPrices, ()) =>
    { blockPrices }

@[inherit_doc TierPrice.record]
def TierPrice.codec : Codec TierPrice :=
  TierPrice.record.codec

structure UsagePrice where
  usageName : Option String := none
  usageType : Option UsageType := none
  billingMode : Option BillingMode := none
  tierBlockPolicy : Option TierBlockPolicy := none
  tierPrices : List TierPrice := []
deriving BEq, Inhabited

/-- The wire form of a usage price by tiers. -/
abbrev UsagePrice.record : Record UsagePrice where
  schema :=
    .field (.optional "usageName" .string) <|
    .field (.optional "usageType" Wordlist.codec) <|
    .field (.optional "billingMode" Wordlist.codec) <|
    .field (.optional "tierBlockPolicy" Wordlist.codec) <|
    .field (.list "tierPrices" TierPrice.codec) <|
    .done
  toRow value := (value.usageName, value.usageType, value.billingMode, value.tierBlockPolicy,
    value.tierPrices, ())
  ofRow := fun (usageName, usageType, billingMode, tierBlockPolicy, tierPrices, ()) =>
    { usageName, usageType, billingMode, tierBlockPolicy, tierPrices }

@[inherit_doc UsagePrice.record]
def UsagePrice.codec : Codec UsagePrice :=
  UsagePrice.record.codec

/-- A price of a plan phase. -/
structure PhasePrice where
  planName : Option String := none
  phaseName : Option String := none
  phaseType : Option PhaseType := none
  fixedPrice : Option Decimal := none
  recurringPrice : Option Decimal := none
  usagePrices : List UsagePrice := []
deriving BEq, Inhabited

/-- The wire form of a price of a plan phase. -/
abbrev PhasePrice.record : Record PhasePrice where
  schema :=
    .field (.optional "planName" .string) <|
    .field (.optional "phaseName" .string) <|
    .field (.optional "phaseType" Wordlist.codec) <|
    .field (.optional "fixedPrice" .decimal) <|
    .field (.optional "recurringPrice" .decimal) <|
    .field (.list "usagePrices" UsagePrice.codec) <|
    .done
  toRow value := (value.planName, value.phaseName, value.phaseType, value.fixedPrice,
    value.recurringPrice, value.usagePrices, ())
  ofRow := fun (planName, phaseName, phaseType, fixedPrice, recurringPrice, usagePrices, ()) =>
    { planName, phaseName, phaseType, fixedPrice, recurringPrice, usagePrices }

@[inherit_doc PhasePrice.record]
def PhasePrice.codec : Codec PhasePrice :=
  PhasePrice.record.codec

end BillingClient.Domain
