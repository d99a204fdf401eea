import BillingClient.Proofs.Call.Operation
import BillingClient.Proofs.Client.Address
import BillingClient.Proofs.Client.Query

/-!
Contract: what a look-up asks for says what its arguments are.

Calls of one operation have the same arguments when they look up the same resource with the same
parameters. Main statement: `Call.eq_of_askAlike`.
-/

namespace BillingClient

open BillingClient.Client
open BillingClient.Operation
open BillingClient.Url
open BillingClient.Vocabulary

/-! ## Operations -/

namespace Operation

/-- Whether operations ask for the same resource with the same parameters. -/
def AskAlike (options : Options) (left right : Operation) : Prop :=
  ∃ leftRequest rightRequest, left.request options = .ok leftRequest ∧
    right.request options = .ok rightRequest ∧ leftRequest.path = rightRequest.path ∧
    leftRequest.query = rightRequest.query

section

variable {α β : Type} {options : Options} {leftRequest rightRequest : Request}
  {leftReply : Reply α} {rightReply : Reply β} {leftPath rightPath : List String}
  {leftQuery rightQuery : Query}

@[simp] theorem askAlike_free :
    AskAlike options (free leftRequest leftReply) (free rightRequest rightReply) ↔
      leftRequest.path = rightRequest.path ∧ leftRequest.query = rightRequest.query := by
  constructor
  · rintro ⟨_, _, ⟨⟩, ⟨⟩, same⟩
    exact same
  · intro same
    exact ⟨_, _, rfl, rfl, same⟩

@[simp] theorem askAlike_lookup :
    AskAlike options (lookup leftPath leftQuery leftReply)
      (lookup rightPath rightQuery rightReply) ↔ leftPath = rightPath ∧ leftQuery = rightQuery := by
  rw [lookup, lookup, askAlike_free, asking, asking, resource_inj]

theorem askAlike_of_authored {leftName rightName : String}
    (alike : AskAlike options (authored leftName (.ok leftRequest) leftReply)
      (authored rightName (.ok rightRequest) rightReply)) :
    leftRequest.path = rightRequest.path ∧ leftRequest.query = rightRequest.query := by
  obtain ⟨_, _, leftAsked, rightAsked, same⟩ := alike
  cases request_of_authored leftAsked
  cases request_of_authored rightAsked
  exact same

end

end Operation

/-! ## Parameters of look-ups -/

section

variable {leftRest rightRest : Query}

@[simp] theorem balanceQuery_append_inj {left right leftCba rightCba : Bool} :
    balanceQuery left leftCba ++ leftRest = balanceQuery right rightCba ++ rightRest ↔
      left = right ∧ leftCba = rightCba ∧ leftRest = rightRest := by
  simp [balanceQuery]

@[simp] theorem paymentQuery_append_inj {left right leftAttempts rightAttempts : Bool} :
    paymentQuery left leftAttempts ++ leftRest = paymentQuery right rightAttempts ++ rightRest ↔
      left = right ∧ leftAttempts = rightAttempts ∧ leftRest = rightRest := by
  simp [paymentQuery]

@[simp] theorem InvoiceFilter.query_append_inj {left right : InvoiceFilter}
    {leftAudit rightAudit : AuditLevel} :
    left.query ++ .audit leftAudit = right.query ++ .audit rightAudit ↔
      left = right ∧ leftAudit = rightAudit := by
  cases left
  cases right
  simp [InvoiceFilter.query, and_assoc]

@[simp] theorem PaymentLookup.query_inj {left right : PaymentLookup} :
    left.query = right.query ↔ left = right := by
  cases left
  cases right
  simp [PaymentLookup.query]

@[simp] theorem PaymentLookup.avoids_query (lookup : PaymentLookup) :
    lookup.query.Avoids "pluginName" := by
  simp [PaymentLookup.query]

@[simp] theorem PaymentMethodCall.pageQuery_inj {left right : Page}
    {leftPlugin rightPlugin : Option String} {leftInfo rightInfo : Bool}
    {leftAudit rightAudit : AuditLevel} :
    pageQuery left leftPlugin leftInfo leftAudit =
        pageQuery right rightPlugin rightInfo rightAudit ↔
      left = right ∧ leftPlugin = rightPlugin ∧ leftInfo = rightInfo ∧
        leftAudit = rightAudit := by
  simp [pageQuery]

@[simp] theorem CatalogCall.accountQuery_inj {left right : Option AccountId} :
    accountQuery left = accountQuery right ↔ left = right := by
  cases left <;> cases right <;> simp [accountQuery]

@[simp] theorem CatalogCall.avoids_accountQuery {key : String} (different : "accountId" ≠ key)
    (account : Option AccountId) : (accountQuery account).Avoids key :=
  Query.avoids_optional different _

@[simp] theorem UsageCall.daysQuery_inj {left right leftFinish rightFinish : Calendar.Date} :
    daysQuery left leftFinish = daysQuery right rightFinish ↔
      left = right ∧ leftFinish = rightFinish := by
  simp [daysQuery, Query.date]

end

@[simp] theorem Taggable.path_inj {left right : Taggable} :
    left.path = right.path ↔ left = right := by
  cases left <;> cases right <;> simp [path]

@[simp] theorem Annotatable.path_inj {left right : Annotatable} :
    left.path = right.path ↔ left = right := by
  cases left with
  | taggable left =>
      cases right with
      | taggable right => simp [path]
      | paymentMethod right => cases left <;> simp [path, Taggable.path]
  | paymentMethod left =>
      cases right with
      | taggable right => cases right <;> simp [path, Taggable.path]
      | paymentMethod right => simp [path]

/-! ## Arguments of look-ups -/

section

variable {options : Options}

theorem AccountCall.eq_of_askAlike {left right : AccountCall} (isLookup : left.isLookup = true)
    (same : left.ctorIdx = right.ctorIdx)
    (alike : AskAlike options left.operation right.operation) : left = right := by
  cases left with
  | list | get | getByKey | search | timeline | emails | invoiceEmail | bundles | invoices
  | payments | invoicePayments | paymentMethods | chargebacks | overdueState =>
      cases right <;> cases same
      simpa [operation] using alike
  | exportData =>
      cases right <;> cases same
      simpa [asking] using askAlike_of_authored alike
  | _ => cases isLookup

theorem BundleCall.eq_of_askAlike {left right : BundleCall} (isLookup : left.isLookup = true)
    (same : left.ctorIdx = right.ctorIdx)
    (alike : AskAlike options left.operation right.operation) : left = right := by
  cases left with
  | get | listByKey | list | search =>
      cases right <;> cases same
      simpa [operation] using alike
  | _ => cases isLookup

theorem SubscriptionCall.eq_of_askAlike {left right : SubscriptionCall}
    (isLookup : left.isLookup = true) (same : left.ctorIdx = right.ctorIdx)
    (alike : AskAlike options left.operation right.operation) : left = right := by
  cases left with
  | get | getByKey =>
      cases right <;> cases same
      simpa [operation] using alike
  | _ => cases isLookup

theorem InvoiceCall.eq_of_askAlike {left right : InvoiceCall} (isLookup : left.isLookup = true)
    (same : left.ctorIdx = right.ctorIdx)
    (alike : AskAlike options left.operation right.operation) : left = right := by
  cases left with
  | get | getByNumber | getByItem | list | search | payments =>
      cases right <;> cases same
      simpa [operation, childrenQuery] using alike
  | html =>
      cases right <;> cases same
      simpa [operation, asking] using alike
  | _ => cases isLookup

theorem InvoicePaymentCall.eq_of_askAlike {left right : InvoicePaymentCall}
    (isLookup : left.isLookup = true) (same : left.ctorIdx = right.ctorIdx)
    (alike : AskAlike options left.operation right.operation) : left = right := by
  cases left with
  | get =>
      cases right <;> cases same
      simpa [operation] using alike
  | _ => cases isLookup

theorem CreditCall.eq_of_askAlike {left right : CreditCall} (isLookup : left.isLookup = true)
    (same : left.ctorIdx = right.ctorIdx)
    (alike : AskAlike options left.operation right.operation) : left = right := by
  cases left with
  | get =>
      cases right <;> cases same
      simpa [operation] using alike
  | create => cases isLookup

theorem PaymentCall.eq_of_askAlike {left right : PaymentCall} (isLookup : left.isLookup = true)
    (same : left.ctorIdx = right.ctorIdx)
    (alike : AskAlike options left.operation right.operation) : left = right := by
  cases left with
  | get | getByKey | list | search | refunds | chargebacks =>
      cases right <;> cases same
      simpa [operation] using alike
  | _ => cases isLookup

theorem PaymentMethodCall.eq_of_askAlike {left right : PaymentMethodCall}
    (isLookup : left.isLookup = true) (same : left.ctorIdx = right.ctorIdx)
    (alike : AskAlike options left.operation right.operation) : left = right := by
  cases left with
  | get | getByKey | list | search =>
      cases right <;> cases same
      simpa [operation] using alike
  | delete => cases isLookup

theorem TagDefinitionCall.eq_of_askAlike {left right : TagDefinitionCall}
    (isLookup : left.isLookup = true) (same : left.ctorIdx = right.ctorIdx)
    (alike : AskAlike options left.operation right.operation) : left = right := by
  cases left with
  | list | get =>
      cases right <;> cases same
      simpa [operation] using alike
  | _ => cases isLookup

theorem TagCall.eq_of_askAlike {left right : TagCall} (same : left.ctorIdx = right.ctorIdx)
    (alike : AskAlike options left.operation right.operation) : left = right := by
  cases left with
  | list | search =>
      cases right <;> cases same
      simpa [operation] using alike

theorem CustomFieldCall.eq_of_askAlike {left right : CustomFieldCall}
    (same : left.ctorIdx = right.ctorIdx)
    (alike : AskAlike options left.operation right.operation) : left = right := by
  cases left with
  | list | search =>
      cases right <;> cases same
      simpa [operation] using alike

theorem LabelCall.eq_of_askAlike {left right : LabelCall} (isLookup : left.isLookup = true)
    (same : left.ctorIdx = right.ctorIdx)
    (alike : AskAlike options left.operation right.operation) : left = right := by
  cases left with
  | customFields | tags =>
      cases right <;> cases same
      simpa [operation] using alike
  | _ => cases isLookup

theorem CatalogCall.eq_of_askAlike {left right : CatalogCall} (isLookup : left.isLookup = true)
    (same : left.ctorIdx = right.ctorIdx)
    (alike : AskAlike options left.operation right.operation) : left = right := by
  cases left with
  | list | availableAddOns | availableBasePlans =>
      cases right <;> cases same
      simpa [operation] using alike
  | xml =>
      cases right <;> cases same
      simpa [operation, asking] using alike
  | _ => cases isLookup

theorem UsageCall.eq_of_askAlike {left right : UsageCall} (isLookup : left.isLookup = true)
    (same : left.ctorIdx = right.ctorIdx)
    (alike : AskAlike options left.operation right.operation) : left = right := by
  cases left with
  | get | getAll =>
      cases right <;> cases same
      simpa [operation, and_assoc] using alike
  | record => cases isLookup

theorem TenantCall.eq_of_askAlike {left right : TenantCall} (isLookup : left.isLookup = true)
    (same : left.ctorIdx = right.ctorIdx)
    (alike : AskAlike options left.operation right.operation) : left = right := by
  cases left with
  | get | getByApiKey | pluginConfiguration =>
      cases right <;> cases same
      simpa [operation, pluginPath] using alike
  | callbacks =>
      cases right <;> cases same
      rfl
  | _ => cases isLookup

namespace Call

/-- Whether calls are of one operation, and may differ in their arguments alone. -/
inductive SameOperation : Call → Call → Prop where
  | account {left right : AccountCall} (same : left.ctorIdx = right.ctorIdx) :
      SameOperation (.account left) (.account right)
  | bundle {left right : BundleCall} (same : left.ctorIdx = right.ctorIdx) :
      SameOperation (.bundle left) (.bundle right)
  | subscription {left right : SubscriptionCall} (same : left.ctorIdx = right.ctorIdx) :
      SameOperation (.subscription left) (.subscription right)
  | invoice {left right : InvoiceCall} (same : left.ctorIdx = right.ctorIdx) :
      SameOperation (.invoice left) (.invoice right)
  | invoicePayment {left right : InvoicePaymentCall} (same : left.ctorIdx = right.ctorIdx) :
      SameOperation (.invoicePayment left) (.invoicePayment right)
  | credit {left right : CreditCall} (same : left.ctorIdx = right.ctorIdx) :
      SameOperation (.credit left) (.credit right)
  | payment {left right : PaymentCall} (same : left.ctorIdx = right.ctorIdx) :
      SameOperation (.payment left) (.payment right)
  | paymentMethod {left right : PaymentMethodCall} (same : left.ctorIdx = right.ctorIdx) :
      SameOperation (.paymentMethod left) (.paymentMethod right)
  | gateway {left right : GatewayCall} (same : left.ctorIdx = right.ctorIdx) :
      SameOperation (.gateway left) (.gateway right)
  | tagDefinition {left right : TagDefinitionCall} (same : left.ctorIdx = right.ctorIdx) :
      SameOperation (.tagDefinition left) (.tagDefinition right)
  | tag {left right : TagCall} (same : left.ctorIdx = right.ctorIdx) :
      SameOperation (.tag left) (.tag right)
  | customField {left right : CustomFieldCall} (same : left.ctorIdx = right.ctorIdx) :
      SameOperation (.customField left) (.customField right)
  | label {left right : LabelCall} (same : left.ctorIdx = right.ctorIdx) :
      SameOperation (.label left) (.label right)
  | catalog {left right : CatalogCall} (same : left.ctorIdx = right.ctorIdx) :
      SameOperation (.catalog left) (.catalog right)
  | usage {left right : UsageCall} (same : left.ctorIdx = right.ctorIdx) :
      SameOperation (.usage left) (.usage right)
  | tenant {left right : TenantCall} (same : left.ctorIdx = right.ctorIdx) :
      SameOperation (.tenant left) (.tenant right)
  | permissions : SameOperation .permissions .permissions
  | admin {left right : AdminCall} (same : left.ctorIdx = right.ctorIdx) :
      SameOperation (.admin left) (.admin right)
  | plugin {left right : PluginCall} (same : left.ctorIdx = right.ctorIdx) :
      SameOperation (.plugin left) (.plugin right)

theorem SameOperation.isLookup_eq {left right : Call} (same : left.SameOperation right) :
    left.isLookup = right.isLookup := by
  cases same with
  | permissions => rfl
  | @account left right same | @bundle left right same | @subscription left right same
  | @invoice left right same | @invoicePayment left right same | @credit left right same
  | @payment left right same | @paymentMethod left right same | @gateway left right same
  | @tagDefinition left right same | @tag left right same | @customField left right same
  | @label left right same | @catalog left right same | @usage left right same
  | @tenant left right same | @admin left right same | @plugin left right same =>
      cases left <;> cases right <;> first | rfl | cases same

theorem eq_of_askAlike {left right : Call} (isLookup : left.isLookup = true)
    (same : left.SameOperation right)
    (alike : AskAlike options left.operation right.operation) : left = right := by
  cases same with
  | account same => rw [AccountCall.eq_of_askAlike isLookup same alike]
  | bundle same => rw [BundleCall.eq_of_askAlike isLookup same alike]
  | subscription same => rw [SubscriptionCall.eq_of_askAlike isLookup same alike]
  | invoice same => rw [InvoiceCall.eq_of_askAlike isLookup same alike]
  | invoicePayment same => rw [InvoicePaymentCall.eq_of_askAlike isLookup same alike]
  | credit same => rw [CreditCall.eq_of_askAlike isLookup same alike]
  | payment same => rw [PaymentCall.eq_of_askAlike isLookup same alike]
  | paymentMethod same => rw [PaymentMethodCall.eq_of_askAlike isLookup same alike]
  | tagDefinition same => rw [TagDefinitionCall.eq_of_askAlike isLookup same alike]
  | tag same => rw [TagCall.eq_of_askAlike same alike]
  | customField same => rw [CustomFieldCall.eq_of_askAlike same alike]
  | label same => rw [LabelCall.eq_of_askAlike isLookup same alike]
  | catalog same => rw [CatalogCall.eq_of_askAlike isLookup same alike]
  | usage same => rw [UsageCall.eq_of_askAlike isLookup same alike]
  | tenant same => rw [TenantCall.eq_of_askAlike isLookup same alike]
  | permissions => rfl
  | gateway same | admin same | plugin same => cases isLookup

end Call

end

end BillingClient
