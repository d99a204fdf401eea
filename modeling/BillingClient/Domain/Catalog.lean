import BillingClient.Domain.Price

/-!
Contract: the catalog, its products, their plans and the phases of a plan.
-/

namespace BillingClient.Domain

open BillingClient.Calendar
open BillingClient.Json (Codec Map Record Value)
open BillingClient.Number (Decimal)
open BillingClient.Vocabulary

structure CatalogDuration where
  unit : Option String := none
  number : Option Int := none
deriving BEq, Inhabited

/-- The wire form of a length of a phase. -/
abbrev CatalogDuration.record : Record CatalogDuration where
  schema :=
    .field (.optional "unit" .string) <|
    .field (.optional "number" .int32) <|
    .done
  toRow value := (value.unit, value.number, ())
  ofRow := fun (unit, number, ()) =>
    { unit, number }

@[inherit_doc CatalogDuration.record]
def CatalogDuration.codec : Codec CatalogDuration :=
  CatalogDuration.record.codec

structure Phase where
  phaseType : Option PhaseType := none
  prices : List Price := []
  fixedPrices : List Price := []
  duration : Option CatalogDuration := none
  usages : List UsagePrice := []
deriving BEq, Inhabited

/-- The wire form of a phase of a plan. -/
abbrev Phase.record : Record Phase where
  schema :=
    .field (.optional "type" Wordlist.codec) <|
    .field (.list "prices" Price.codec) <|
    .field (.list "fixedPrices" Price.codec) <|
    .field (.optional "duration" CatalogDuration.codec) <|
    .field (.list "usages" UsagePrice.codec) <|
    .done
  toRow value := (value.phaseType, value.prices, value.fixedPrices, value.duration, value.usages,
    ())
  ofRow := fun (phaseType, prices, fixedPrices, duration, usages, ()) =>
    { phaseType, prices, fixedPrices, duration, usages }

@[inherit_doc Phase.record]
def Phase.codec : Codec Phase :=
  Phase.record.codec

structure Plan where
  name : Option String := none
  prettyName : Option String := none
  billingPeriod : Option BillingPeriod := none
  phases : List Phase := []
deriving BEq, Inhabited

/-- The wire form of a plan of a product. -/
abbrev Plan.record : Record Plan where
  schema :=
    .field (.optional "name" .string) <|
    .field (.optional "prettyName" .string) <|
    .field (.optional "billingPeriod" Wordlist.codec) <|
    .field (.list "phases" Phase.codec) <|
    .done
  toRow value := (value.name, value.prettyName, value.billingPeriod, value.phases, ())
  ofRow := fun (name, prettyName, billingPeriod, phases, ()) =>
    { name, prettyName, billingPeriod, phases }

@[inherit_doc Plan.record]
def Plan.codec : Codec Plan :=
  Plan.record.codec

structure Product where
  productType : Option ProductCategory := none
  name : Option String := none
  prettyName : Option String := none
  plans : List Plan := []
  included : List String := []
  available : List String := []
deriving BEq, Inhabited

/-- The wire form of a product. -/
abbrev Product.record : Record Product where
  schema :=
    .field (.optional "type" Wordlist.codec) <|
    .field (.optional "name" .string) <|
    .field (.optional "prettyName" .string) <|
    .field (.list "plans" Plan.codec) <|
    .field (.list "included" .string) <|
    .field (.list "available" .string) <|
    .done
  toRow value := (value.productType, value.name, value.prettyName, value.plans, value.included,
    value.available, ())
  ofRow := fun (productType, name, prettyName, plans, included, available, ()) =>
    { productType, name, prettyName, plans, included, available }

@[inherit_doc Product.record]
def Product.codec : Codec Product :=
  Product.record.codec

structure PriceList where
  name : Option String := none
  plans : List String := []
deriving BEq, Inhabited

/-- The wire form of a price list. -/
abbrev PriceList.record : Record PriceList where
  schema :=
    .field (.optional "name" .string) <|
    .field (.list "plans" .string) <|
    .done
  toRow value := (value.name, value.plans, ())
  ofRow := fun (name, plans, ()) =>
    { name, plans }

@[inherit_doc PriceList.record]
def PriceList.codec : Codec PriceList :=
  PriceList.record.codec

/-- A unit that usage is counted in. -/
structure CatalogUnit where
  name : Option String := none
  prettyName : Option String := none
deriving BEq, Inhabited

/-- The wire form of a unit that usage is counted in. -/
abbrev CatalogUnit.record : Record CatalogUnit where
  schema :=
    .field (.optional "name" .string) <|
    .field (.optional "prettyName" .string) <|
    .done
  toRow value := (value.name, value.prettyName, ())
  ofRow := fun (name, prettyName, ()) =>
    { name, prettyName }

@[inherit_doc CatalogUnit.record]
def CatalogUnit.codec : Codec CatalogUnit :=
  CatalogUnit.record.codec

structure Catalog where
  name : Option String := none
  effectiveDate : Option Instant := none
  currencies : List Currency := []
  units : List CatalogUnit := []
  products : List Product := []
  priceLists : List PriceList := []
deriving BEq, Inhabited

/-- The wire form of a version of the catalog. -/
abbrev Catalog.record : Record Catalog where
  schema :=
    .field (.optional "name" .string) <|
    .field (.optional "effectiveDate" .instant) <|
    .field (.list "currencies" Currency.codec) <|
    .field (.list "units" CatalogUnit.codec) <|
    .field (.list "products" Product.codec) <|
    .field (.list "priceLists" PriceList.codec) <|
    .done
  toRow value := (value.name, value.effectiveDate, value.currencies, value.units, value.products,
    value.priceLists, ())
  ofRow := fun (name, effectiveDate, currencies, units, products, priceLists, ()) =>
    { name, effectiveDate, currencies, units, products, priceLists }

@[inherit_doc Catalog.record]
def Catalog.codec : Codec Catalog :=
  Catalog.record.codec

/-- A plan as it is offered to a customer. -/
structure PlanDetail where
  product : Option String := none
  plan : Option String := none
  priceList : Option String := none
  finalPhaseBillingPeriod : Option BillingPeriod := none
  finalPhaseRecurringPrice : List Price := []
deriving BEq, Inhabited

/-- The wire form of a plan as it is offered to a customer. -/
abbrev PlanDetail.record : Record PlanDetail where
  schema :=
    .field (.optional "product" .string) <|
    .field (.optional "plan" .string) <|
    .field (.optional "priceList" .string) <|
    .field (.optional "finalPhaseBillingPeriod" Wordlist.codec) <|
    .field (.list "finalPhaseRecurringPrice" Price.codec) <|
    .done
  toRow value := (value.product, value.plan, value.priceList, value.finalPhaseBillingPeriod,
    value.finalPhaseRecurringPrice, ())
  ofRow := fun (product, plan, priceList, finalPhaseBillingPeriod, finalPhaseRecurringPrice,
    ()) =>
    { product, plan, priceList, finalPhaseBillingPeriod, finalPhaseRecurringPrice }

@[inherit_doc PlanDetail.record]
def PlanDetail.codec : Codec PlanDetail :=
  PlanDetail.record.codec

/-- The first product with a name. -/
def Catalog.product? (catalog : Catalog) (name : String) : Option Product :=
  catalog.products.find? (·.name = some name)

end BillingClient.Domain
