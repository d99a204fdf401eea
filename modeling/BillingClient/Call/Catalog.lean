import BillingClient.Call.Operation
import BillingClient.Domain.Catalog
import BillingClient.Domain.Usage

/-!
Contract: calls about the catalog of what is sold, and about what was used of it.
-/

namespace BillingClient

open BillingClient.Calendar
open BillingClient.Client
open BillingClient.Domain
open BillingClient.Vocabulary

/-- Calls about the catalog. -/
inductive CatalogCall where
  | list (requestedDate : Option Date) (account : Option AccountId)
  | xml (requestedDate : Option Date) (account : Option AccountId)
  | upload (content : String)
  | delete
  | availableAddOns (baseProduct priceList : Option String) (account : Option AccountId)
  | availableBasePlans (account : Option AccountId)

namespace CatalogCall

/-- The account that the catalog is asked for. -/
def accountQuery (account : Option AccountId) : Query :=
  .optional "accountId" (account.map Identifier.text)

/-- The operation of a call. -/
def operation : CatalogCall → Operation
  | .list requestedDate account =>
    .lookup ["catalog"] (.date "requestedDate" requestedDate ++ accountQuery account)
      (.listing Catalog.codec)
  | .xml requestedDate account =>
    .free { Operation.asking .get ["catalog", "xml"]
        (.date "requestedDate" requestedDate ++ accountQuery account) with
      accept := "text/xml" } .text
  | .upload content =>
    .authored "upload_catalog_xml"
      (.ok { Operation.asking .post ["catalog", "xml"] with body := some (.xml content) })
      .unit
  | .delete => .authored "delete_catalog" (.ok (Operation.asking .delete ["catalog"])) .unit
  | .availableAddOns baseProduct priceList account =>
    .lookup ["catalog", "availableAddons"]
      (.optional "baseProductName" baseProduct ++ .optional "priceListName" priceList ++
        accountQuery account)
      (.listing PlanDetail.codec)
  | .availableBasePlans account =>
    .lookup ["catalog", "availableBasePlans"] (accountQuery account) (.listing PlanDetail.codec)

end CatalogCall

/-- Calls about usage. -/
inductive UsageCall where
  | record (usage : SubscriptionUsageRecord)
  | get (subscription : SubscriptionId) (unitType : String) (start finish : Date)
  | getAll (subscription : SubscriptionId) (start finish : Date)

namespace UsageCall

/-- The days that usage is asked for. -/
def daysQuery (start finish : Date) : Query :=
  .date "startDate" (some start) ++ .date "endDate" (some finish)

/-- The operation of a call. -/
def operation : UsageCall → Operation
  | .record usage =>
    .authored "record_usage" (do
        let _ ← required usage.subscriptionId "subscriptionId" "record_usage"
        let _ ← required usage.unitUsageRecords.head? "unitUsageRecords" "record_usage"
        return { Operation.asking .post ["usages"] with
          body := some (.json SubscriptionUsageRecord.codec usage) })
      .unit
  | .get subscription unitType start finish =>
    .lookup ["usages", subscription.text, unitType] (daysQuery start finish)
      (.optional RolledUpUsage.codec)
  | .getAll subscription start finish =>
    .lookup ["usages", subscription.text] (daysQuery start finish)
      (.optional RolledUpUsage.codec)

end UsageCall

end BillingClient
