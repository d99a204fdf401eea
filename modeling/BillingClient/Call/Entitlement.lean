import BillingClient.Call.Operation
import BillingClient.Domain.Entitlement

/-!
Contract: calls about bundles and the subscriptions in them.

The server makes changes of a subscription one after the other; a call may wait until
its own is complete.
-/

namespace BillingClient

open BillingClient.Calendar
open BillingClient.Client
open BillingClient.Domain
open BillingClient.Vocabulary

/-- Calls about bundles. -/
inductive BundleCall where
  | get (id : BundleId) (audit : AuditLevel)
  | listByKey (externalKey : String) (includesDeleted : Bool) (audit : AuditLevel)
  | list (page : Page) (audit : AuditLevel)
  | search (key : String) (page : Page) (audit : AuditLevel)
  | transfer (bundle : Bundle) (requestedDate : Option Date)
      (billingPolicy : Option BillingActionPolicy)
  | pause (id : BundleId) (requestedDate : Option Date)
  | resume (id : BundleId) (requestedDate : Option Date)

/-- The operation of a call. -/
def BundleCall.operation : BundleCall → Operation
  | .get id audit => .lookup ["bundles", id.text] (.audit audit) (.optional Bundle.codec)
  | .listByKey externalKey includesDeleted audit =>
    .lookup ["bundles"]
      (.value "externalKey" externalKey ++ .flag "includedDeleted" includesDeleted ++
        .audit audit)
      (.listing Bundle.codec)
  | .list page audit =>
    .lookup ["bundles", "pagination"] (.page page ++ .audit audit) (.listing Bundle.codec)
  | .search key page audit =>
    .lookup ["bundles", "search", key] (.page page ++ .audit audit) (.listing Bundle.codec)
  | .transfer bundle requestedDate billingPolicy =>
    .authored "transfer_bundle" (do
        let id ← required bundle.bundleId "bundleId" "transfer_bundle"
        let _ ← required bundle.accountId "accountId" "transfer_bundle"
        return { Operation.asking .post ["bundles", id.text]
            (.date "requestedDate" requestedDate ++ .word "billingPolicy" billingPolicy) with
          body := some (.json Bundle.codec bundle)
          followsLocation := true })
      (.required Bundle.codec)
  | .pause id requestedDate =>
    .authored "pause_bundle"
      (.ok (Operation.asking .put ["bundles", id.text, "pause"]
        (.date "requestedDate" requestedDate)))
      .unit
  | .resume id requestedDate =>
    .authored "resume_bundle"
      (.ok (Operation.asking .put ["bundles", id.text, "resume"]
        (.date "requestedDate" requestedDate)))
      .unit

/-- When and how a subscription ends. -/
structure CancelPolicy where
  requestedDate : Option Date := none
  entitlementPolicy : Option EntitlementActionPolicy := none
  billingPolicy : Option BillingActionPolicy := none
  usesRequestedDateForBilling : Bool := false
deriving DecidableEq, Repr, Inhabited

def CancelPolicy.query (policy : CancelPolicy) : Query :=
  .date "requestedDate" policy.requestedDate ++
    .word "entitlementPolicy" policy.entitlementPolicy ++
    .word "billingPolicy" policy.billingPolicy ++
    .flag "useRequestedDateForBilling" policy.usesRequestedDateForBilling

/-- Calls about subscriptions. -/
inductive SubscriptionCall where
  | get (id : SubscriptionId) (audit : AuditLevel)
  | getByKey (externalKey : String) (audit : AuditLevel)
  | create (subscription : Subscription) (entitlementDate billingDate : Option Date)
      (completion : Completion)
  | changePlan (subscription : Subscription) (requestedDate : Option Date)
      (billingPolicy : Option BillingActionPolicy) (completion : Completion)
  | cancel (id : SubscriptionId) (policy : CancelPolicy) (completion : Completion)
  | uncancel (id : SubscriptionId)
  | setBillCycleDay (subscription : Subscription) (effectiveFrom : Option Date)
      (allowsPast : Bool)

namespace SubscriptionCall

/-- Refuses a new subscription that does not say what is subscribed to: either a plan,
or a product with its category, billing period and price list. -/
def checkNew (subscription : Subscription) : Except Error Unit := do
  let name := "create_subscription"
  if subscription.planName.isNone then
    let _ ← required subscription.productName "productName" name
    let _ ← required subscription.productCategory "productCategory" name
    let _ ← required subscription.billingPeriod "billingPeriod" name
    let _ ← required subscription.priceList "priceList" name
  .ok ()

/-- Refuses a change of plan that does not say what is changed to: either a plan, or a
product with its billing period and price list. -/
def checkChange (subscription : Subscription) : Except Error Unit := do
  let name := "change_subscription_plan"
  if subscription.planName.isNone then
    let _ ← required subscription.productName "productName" name
    let _ ← required subscription.billingPeriod "billingPeriod" name
    let _ ← required subscription.priceList "priceList" name
  .ok ()

/-- The operation of a call. -/
def operation : SubscriptionCall → Operation
  | .get id audit =>
    .lookup ["subscriptions", id.text] (.audit audit) (.optional Subscription.codec)
  | .getByKey externalKey audit =>
    .lookup ["subscriptions"] (.value "externalKey" externalKey ++ .audit audit)
      (.optional Subscription.codec)
  | .create subscription entitlementDate billingDate completion =>
    .authored "create_subscription" (do
        let _ ← required subscription.accountId "accountId" "create_subscription"
        checkNew subscription
        return { (Operation.asking .post ["subscriptions"]
            (.date "entitlementDate" entitlementDate ++ .date "billingDate" billingDate ++
              .completion completion)).outlasting completion with
          body := some (.json Subscription.codec subscription)
          followsLocation := true })
      (.required Subscription.codec)
  | .changePlan subscription requestedDate billingPolicy completion =>
    .authored "change_subscription_plan" (do
        let id ← required subscription.subscriptionId "subscriptionId" "change_subscription_plan"
        checkChange subscription
        return { (Operation.asking .put ["subscriptions", id.text]
            (.date "requestedDate" requestedDate ++ .word "billingPolicy" billingPolicy ++
              .completion completion)).outlasting completion with
          body := some (.json Subscription.codec subscription) })
      (.optional Subscription.codec)
  | .cancel id policy completion =>
    .authored "cancel_subscription"
      (.ok ((Operation.asking .delete ["subscriptions", id.text]
        (policy.query ++ .completion completion)).outlasting completion))
      .unit
  | .uncancel id =>
    .authored "uncancel_subscription"
      (.ok (Operation.asking .put ["subscriptions", id.text, "uncancel"]))
      .unit
  | .setBillCycleDay subscription effectiveFrom allowsPast =>
    .authored "update_subscription_bcd" (do
        let name := "update_subscription_bcd"
        let id ← required subscription.subscriptionId "subscriptionId" name
        let _ ← required subscription.billCycleDayLocal "billCycleDayLocal" name
        return { Operation.asking .put ["subscriptions", id.text, "bcd"]
            (.date "effectiveFromDate" effectiveFrom ++
              .flag "forceNewBcdWithPastEffectiveDate" allowsPast) with
          body := some (.json Subscription.codec subscription) })
      .unit

end SubscriptionCall

end BillingClient
