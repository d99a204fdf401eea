import BillingClient.Proofs.Call.Result

/-!
Contract: which calls are refused before anything is sent, and for what.

Each operation has a list of needs, in the order in which they are looked at: parameters that have
to be given, and values that it accepts. A call is refused for the first need that is not met
(`Call.isChecked`). Main statements: `Call.request_eq_error_iff` and `Call.needsAuthor_iff`.
-/

namespace BillingClient

open BillingClient.Client
open BillingClient.Domain
open BillingClient.Vocabulary

/-! ## Needs -/

/-- What an operation needs before it sends anything. -/
inductive Need where
  /-- A parameter, given or not. -/
  | given (parameter : String) (isGiven : Bool)
  /-- A transaction that starts a payment. -/
  | startsPayment (type : TransactionType)
  /-- An item of the account that it is posted to. -/
  | ownedBy (account owner : AccountId)
deriving DecidableEq, Repr

namespace Need

def isMet : Need → Bool
  | .given _ isGiven => isGiven
  | .startsPayment type => AccountCall.startsPayment type
  | .ownedBy account owner => owner = account

/-- The failure of an operation whose need is not met. -/
def failure (operation : String) : Need → Error
  | .given parameter _ => .missingParameter parameter operation
  | .startsPayment type => .invalidArgument (.transactionType type)
  | .ownedBy account owner => .invalidArgument (.itemOwner owner account)

def refusal? (operation : String) (need : Need) : Option Error :=
  if need.isMet then none else some (need.failure operation)

end Need

/-- The first failure among those of some needs. -/
def firstRefusal? (operation : String) (needs : List Need) : Option Error :=
  needs.findSome? (Need.refusal? operation)

/-- What an operation needs, in order, beside an author. -/
structure Checklist where
  operation : String
  needs : List Need := []
deriving DecidableEq, Repr

/-- All that an operation needs, in order. -/
def Checklist.all (checklist : Checklist) (options : Options) : List Need :=
  .given "createdBy" options.createdBy.isSome :: checklist.needs

/-! ## The calls that need something -/

/-- The needs of a subscription that names no plan: the parts of its description. -/
def planNeeds (subscription : Subscription) (parts : List Need) : List Need :=
  if subscription.planName.isSome then [] else parts

/-- The needs of an item that is posted to an account. -/
def itemNeeds (account : AccountId) (item : InvoiceItem) : List Need :=
  [.given "amount" item.amount.isSome, .given "currency" item.currency.isSome] ++
    item.accountId.toList.map (.ownedBy account)

def AccountCall.checklist? : AccountCall → Option Checklist
  | .create _ => some ⟨"create_account", []⟩
  | .update account _ =>
      some ⟨"update_account", [.given "accountId" account.accountId.isSome]⟩
  | .close _ _ => some ⟨"close_account", []⟩
  | .addEmail email => some ⟨"add_email", [.given "accountId" email.accountId.isSome]⟩
  | .removeEmail email =>
      some ⟨"remove_email",
        [.given "accountId" email.accountId.isSome, .given "email" email.email.isSome]⟩
  | .setInvoiceEmail choice =>
      some ⟨"update_email_notifications", [.given "accountId" choice.accountId.isSome]⟩
  | .payAllInvoices _ _ _ _ _ _ => some ⟨"pay_all_invoices", []⟩
  | .startPayment _ transaction _ _ =>
      some ⟨"process_payment",
        .given "transactionType" transaction.transactionType.isSome ::
          (transaction.transactionType.toList.map .startsPayment ++
            [.given "amount" transaction.amount.isSome,
              .given "currency" transaction.currency.isSome])⟩
  | .addPaymentMethod paymentMethod _ _ _ =>
      some ⟨"create_payment_method",
        [.given "accountId" paymentMethod.accountId.isSome,
          .given "pluginName" paymentMethod.pluginName.isSome]⟩
  | .setDefaultPaymentMethod _ _ _ => some ⟨"set_default_payment_method", []⟩
  | .exportData _ => some ⟨"export_data_for_account", []⟩
  | _ => none

def BundleCall.checklist? : BundleCall → Option Checklist
  | .transfer bundle _ _ =>
      some ⟨"transfer_bundle",
        [.given "bundleId" bundle.bundleId.isSome, .given "accountId" bundle.accountId.isSome]⟩
  | .pause _ _ => some ⟨"pause_bundle", []⟩
  | .resume _ _ => some ⟨"resume_bundle", []⟩
  | _ => none

def SubscriptionCall.checklist? : SubscriptionCall → Option Checklist
  | .create subscription _ _ _ =>
      some ⟨"create_subscription",
        .given "accountId" subscription.accountId.isSome :: planNeeds subscription
          [.given "productName" subscription.productName.isSome,
            .given "productCategory" subscription.productCategory.isSome,
            .given "billingPeriod" subscription.billingPeriod.isSome,
            .given "priceList" subscription.priceList.isSome]⟩
  | .changePlan subscription _ _ _ =>
      some ⟨"change_subscription_plan",
        .given "subscriptionId" subscription.subscriptionId.isSome :: planNeeds subscription
          [.given "productName" subscription.productName.isSome,
            .given "billingPeriod" subscription.billingPeriod.isSome,
            .given "priceList" subscription.priceList.isSome]⟩
  | .cancel _ _ _ => some ⟨"cancel_subscription", []⟩
  | .uncancel _ => some ⟨"uncancel_subscription", []⟩
  | .setBillCycleDay subscription _ _ =>
      some ⟨"update_subscription_bcd",
        [.given "subscriptionId" subscription.subscriptionId.isSome,
          .given "billCycleDayLocal" subscription.billCycleDayLocal.isSome]⟩
  | _ => none

def InvoiceCall.checklist? : InvoiceCall → Option Checklist
  | .createFuture _ _ => some ⟨"create_future_invoice", []⟩
  | .dryRun _ _ _ => some ⟨"generate_dry_run_invoice", []⟩
  | .adjustItem item _ =>
      some ⟨"adjust_invoice_item",
        [.given "accountId" item.accountId.isSome, .given "invoiceId" item.invoiceId.isSome,
          .given "invoiceItemId" item.invoiceItemId.isSome]⟩
  | .addItems kind account items _ _ =>
      some ⟨kind.operationName, items.flatMap (itemNeeds account)⟩
  | .commit _ => some ⟨"commit_invoice", []⟩
  | .voiding _ => some ⟨"void_invoice", []⟩
  | .sendEmail _ => some ⟨"trigger_email_notification", []⟩
  | .pay payment _ _ =>
      some ⟨"create_instant_payment",
        [.given "targetInvoiceId" payment.targetInvoiceId.isSome,
          .given "accountId" payment.accountId.isSome,
          .given "purchasedAmount" payment.purchasedAmount.isSome]⟩
  | .removeCba _ _ _ => some ⟨"delete_cba", []⟩
  | _ => none

def CreditCall.checklist? : CreditCall → Option Checklist
  | .create credit _ =>
      some ⟨"create_credit",
        [.given "accountId" credit.accountId.isSome,
          .given "creditAmount" credit.creditAmount.isSome]⟩
  | _ => none

def PaymentCall.checklist? : PaymentCall → Option Checklist
  | .capture _ transaction _ =>
      some ⟨"capture_authorization", [.given "amount" transaction.amount.isSome]⟩
  | .refund _ transaction _ =>
      some ⟨"refund_payment", [.given "amount" transaction.amount.isSome]⟩
  | .chargeback _ transaction _ =>
      some ⟨"chargeback_payment", [.given "amount" transaction.amount.isSome]⟩
  | .reverseChargeback _ transaction =>
      some ⟨"chargeback_reversal",
        [.given "transactionExternalKey" transaction.transactionExternalKey.isSome]⟩
  | .voiding _ _ _ => some ⟨"void_payment", []⟩
  | _ => none

def InvoicePaymentCall.checklist? : InvoicePaymentCall → Option Checklist
  | .refund _ transaction _ _ _ =>
      some ⟨"create_refund_with_adjustments", [.given "amount" transaction.amount.isSome]⟩
  | .chargeback _ transaction =>
      some ⟨"create_chargeback", [.given "amount" transaction.amount.isSome]⟩
  | _ => none

def PaymentMethodCall.checklist? : PaymentMethodCall → Option Checklist
  | .delete _ _ _ _ => some ⟨"delete_payment_method", []⟩
  | _ => none

def GatewayCall.checklist : GatewayCall → Checklist
  | .formDescriptor _ _ _ _ => ⟨"build_form_descriptor", []⟩
  | .notify _ _ _ => ⟨"process_notification", []⟩

def TagDefinitionCall.checklist? : TagDefinitionCall → Option Checklist
  | .create definition =>
      some ⟨"create_tag_definition", [.given "name" definition.name.isSome]⟩
  | .delete _ => some ⟨"delete_tag_definition", []⟩
  | _ => none

def LabelCall.checklist? : LabelCall → Option Checklist
  | .addCustomFields _ _ => some ⟨"create_custom_fields", []⟩
  | .changeCustomFields _ fields =>
      some ⟨"modify_custom_fields",
        fields.map fun field => .given "customFieldId" field.customFieldId.isSome⟩
  | .deleteCustomFields _ _ => some ⟨"delete_custom_fields", []⟩
  | .addTags _ _ => some ⟨"create_tags", []⟩
  | .deleteTags _ _ => some ⟨"delete_tags", []⟩
  | _ => none

def CatalogCall.checklist? : CatalogCall → Option Checklist
  | .upload _ => some ⟨"upload_catalog_xml", []⟩
  | .delete => some ⟨"delete_catalog", []⟩
  | _ => none

def UsageCall.checklist? : UsageCall → Option Checklist
  | .record usage =>
      some ⟨"record_usage",
        [.given "subscriptionId" usage.subscriptionId.isSome,
          .given "unitUsageRecords" (!usage.unitUsageRecords.isEmpty)]⟩
  | _ => none

def TenantCall.checklist? : TenantCall → Option Checklist
  | .create tenant _ =>
      some ⟨"create_tenant",
        [.given "apiKey" tenant.apiKey.isSome, .given "apiSecret" tenant.apiSecret.isSome]⟩
  | .registerCallback _ => some ⟨"register_push_notification_callback", []⟩
  | .deleteCallbacks => some ⟨"delete_push_notification_callbacks", []⟩
  | .uploadPluginConfiguration _ _ => some ⟨"upload_plugin_configuration", []⟩
  | .deletePluginConfiguration _ => some ⟨"delete_plugin_configuration", []⟩
  | _ => none

/-- What a call needs, if it is one that may be refused. -/
def Call.checklist? : Call → Option Checklist
  | .account call => call.checklist?
  | .bundle call => call.checklist?
  | .subscription call => call.checklist?
  | .invoice call => call.checklist?
  | .invoicePayment call => call.checklist?
  | .credit call => call.checklist?
  | .payment call => call.checklist?
  | .paymentMethod call => call.checklist?
  | .gateway call => some call.checklist
  | .tagDefinition call => call.checklist?
  | .label call => call.checklist?
  | .catalog call => call.checklist?
  | .usage call => call.checklist?
  | .tenant call => call.checklist?
  | .tag _ | .customField _ | .permissions | .admin _ | .plugin _ => none

/-! ## Checks -/

/-- Whether a request or value is refused for the first need that is not met, and made when all
are. -/
def Checks {β : Type} (operation : String) (needs : List Need) (made : Except Error β) : Prop :=
  match made with
  | .ok _ => firstRefusal? operation needs = none
  | .error error => firstRefusal? operation needs = some error

section

variable {β γ : Type} {operation : String} {needs more : List Need}

theorem firstRefusal?_append (needs more : List Need) :
    firstRefusal? operation (needs ++ more) =
      (firstRefusal? operation needs).or (firstRefusal? operation more) :=
  List.findSome?_append

theorem firstRefusal?_of_met {need : Need} (met : need.isMet = true) :
    firstRefusal? operation (need :: needs) = firstRefusal? operation needs := by
  have accepted : need.refusal? operation = none := if_pos met
  unfold firstRefusal?
  rw [List.findSome?_cons, accepted]

theorem firstRefusal?_of_unmet {need : Need} (unmet : ¬ need.isMet = true) :
    firstRefusal? operation (need :: needs) = some (need.failure operation) := by
  have refused : need.refusal? operation = some (need.failure operation) := if_neg unmet
  unfold firstRefusal?
  rw [List.findSome?_cons, refused]

theorem Checks.ok (value : β) : Checks operation [] (.ok value) :=
  rfl

theorem Checks.required (value : Option β) (parameter : String) :
    Checks operation [.given parameter value.isSome] (required value parameter operation) := by
  cases value <;> rfl

theorem Checks.bind {first : Except Error β} {next : β → Except Error γ}
    (firstChecks : Checks operation needs first)
    (nextChecks : ∀ value, first = .ok value → Checks operation more (next value)) :
    Checks operation (needs ++ more) (first >>= next) := by
  cases first with
  | error error =>
      show firstRefusal? operation (needs ++ more) = some error
      have refused : firstRefusal? operation needs = some error := firstChecks
      rw [firstRefusal?_append, refused, Option.some_or]
  | ok value =>
      have passed : firstRefusal? operation needs = none := firstChecks
      have later := nextChecks value rfl
      show Checks operation (needs ++ more) (next value)
      unfold Checks at later ⊢
      rw [firstRefusal?_append, passed, Option.none_or]
      exact later

/-- What is made once a check has passed is refused for nothing else. -/
theorem Checks.thenMade {first : Except Error β} (firstChecks : Checks operation needs first)
    (made : β → γ) : Checks operation needs (first >>= fun value => .ok (made value)) := by
  have both := firstChecks.bind fun value _ => Checks.ok (made value)
  rw [List.append_nil] at both
  exact both

/-- A parameter that is looked at before anything else. -/
theorem Checks.requiredThen {value : Option β} {parameter : String} {next : β → Except Error γ}
    (nextChecks : ∀ given, value = some given → Checks operation more (next given)) :
    Checks operation (.given parameter value.isSome :: more)
      (Client.required value parameter operation >>= next) := by
  refine Checks.bind (Checks.required value parameter) fun given isGiven => ?_
  cases value with
  | none => cases isGiven
  | some value =>
      cases isGiven
      exact nextChecks _ rfl

/-- Items that are looked at one after the other. -/
theorem Checks.forM {α : Type} {check : α → Except Error Unit} {itemNeeds : α → List Need}
    (each : ∀ item, Checks operation (itemNeeds item) (check item)) (items : List α) :
    Checks operation (items.flatMap itemNeeds) (items.forM check) := by
  induction items with
  | nil => exact .ok ()
  | cons item items inductionHypothesis =>
      rw [List.flatMap_cons]
      exact .bind (each item) fun _ _ => inductionHypothesis

end

/-- Whether an operation is refused for the first need of a checklist that is not met, and for
nothing else. -/
def Operation.IsChecked (operation : Operation) (checklist? : Option Checklist) : Prop :=
  match checklist? with
  | none => ∀ options, ∃ request, operation.request options = .ok request
  | some checklist =>
      ∀ options, Checks checklist.operation (checklist.all options) (operation.request options)

namespace Operation

variable {α : Type} {reply : Reply α}

theorem isChecked_free {request : Request} : (free request reply).IsChecked none :=
  fun _ => ⟨request, rfl⟩

theorem isChecked_lookup {path : List String} {query : Query} :
    (lookup path query reply).IsChecked none :=
  isChecked_free

theorem isChecked_authored {name : String} {needs : List Need} {made : Except Error Request}
    (checks : Checks name needs made) : (authored name made reply).IsChecked (some ⟨name, needs⟩) :=
  fun _ => .requiredThen fun _ _ => checks

end Operation

open Operation

/-! ## The calls and their checklists -/

theorem AccountCall.checks_startRequest (id : AccountId) (transaction : PaymentTransaction)
    (paymentMethod : Option PaymentMethodId) (properties : List (String × String)) :
    Checks "process_payment"
      (.given "transactionType" transaction.transactionType.isSome ::
        (transaction.transactionType.toList.map .startsPayment ++
          [.given "amount" transaction.amount.isSome,
            .given "currency" transaction.currency.isSome]))
      (startRequest id transaction paymentMethod properties) := by
  unfold startRequest
  refine .requiredThen fun type isType => ?_
  rw [isType, Option.toList_some, List.map_singleton, List.singleton_append]
  by_cases starts : startsPayment type = true
  · rw [starts, Bool.not_true, if_neg Bool.false_ne_true]
    have met : (Need.startsPayment type).isMet = true := starts
    unfold Checks
    rw [firstRefusal?_of_met met]
    exact Checks.requiredThen fun _ _ => .requiredThen fun _ _ => .ok _
  · rw [Bool.eq_false_iff.2 starts, Bool.not_false, if_pos rfl]
    exact firstRefusal?_of_unmet starts

theorem AccountCall.isChecked (call : AccountCall) : call.operation.IsChecked call.checklist? := by
  cases call with
  | list | get | getByKey | search | timeline | emails | invoiceEmail | bundles | invoices
  | payments | invoicePayments | paymentMethods | chargebacks | overdueState =>
      exact isChecked_lookup
  | create | close | payAllInvoices | setDefaultPaymentMethod | exportData =>
      exact isChecked_authored (.ok _)
  | update | addEmail | setInvoiceEmail =>
      exact isChecked_authored (.requiredThen fun _ _ => .ok _)
  | removeEmail | addPaymentMethod =>
      exact isChecked_authored (.requiredThen fun _ _ => .requiredThen fun _ _ => .ok _)
  | startPayment id transaction paymentMethod properties =>
      exact isChecked_authored (checks_startRequest id transaction paymentMethod properties)

theorem BundleCall.isChecked (call : BundleCall) : call.operation.IsChecked call.checklist? := by
  cases call with
  | get | listByKey | list | search => exact isChecked_lookup
  | transfer =>
      exact isChecked_authored (.requiredThen fun _ _ => .requiredThen fun _ _ => .ok _)
  | pause | resume => exact isChecked_authored (.ok _)

theorem SubscriptionCall.checks_checkNew (subscription : Subscription) :
    Checks "create_subscription" (planNeeds subscription
      [.given "productName" subscription.productName.isSome,
        .given "productCategory" subscription.productCategory.isSome,
        .given "billingPeriod" subscription.billingPeriod.isSome,
        .given "priceList" subscription.priceList.isSome]) (checkNew subscription) := by
  unfold checkNew planNeeds
  cases subscription.planName with
  | some name => exact .ok ()
  | none =>
      exact Checks.requiredThen fun _ _ => .requiredThen fun _ _ => .requiredThen fun _ _ =>
        .requiredThen fun _ _ => .ok _

theorem SubscriptionCall.checks_checkChange (subscription : Subscription) :
    Checks "change_subscription_plan" (planNeeds subscription
      [.given "productName" subscription.productName.isSome,
        .given "billingPeriod" subscription.billingPeriod.isSome,
        .given "priceList" subscription.priceList.isSome]) (checkChange subscription) := by
  unfold checkChange planNeeds
  cases subscription.planName with
  | some name => exact .ok ()
  | none =>
      exact Checks.requiredThen fun _ _ => .requiredThen fun _ _ => .requiredThen fun _ _ => .ok _

theorem SubscriptionCall.isChecked (call : SubscriptionCall) :
    call.operation.IsChecked call.checklist? := by
  cases call with
  | get | getByKey => exact isChecked_lookup
  | create subscription =>
      exact isChecked_authored (.requiredThen fun _ _ => (checks_checkNew subscription).thenMade _)
  | changePlan subscription =>
      exact isChecked_authored (.requiredThen fun _ _ =>
        (checks_checkChange subscription).thenMade _)
  | cancel | uncancel => exact isChecked_authored (.ok _)
  | setBillCycleDay =>
      exact isChecked_authored (.requiredThen fun _ _ => .requiredThen fun _ _ => .ok _)

theorem InvoiceCall.checks_checkItem (name : String) (account : AccountId) (item : InvoiceItem) :
    Checks name (itemNeeds account item) (checkItem name account item) := by
  unfold checkItem itemNeeds
  refine Checks.requiredThen fun _ _ => .requiredThen fun _ _ => ?_
  cases item.accountId with
  | none => exact .ok ()
  | some owner =>
      rw [Option.toList_some, List.map_singleton]
      by_cases same : owner = account
      · have isOwned : (some owner).filter (· ≠ account) = none := by simp [same]
        rw [isOwned]
        exact firstRefusal?_of_met (decide_eq_true same)
      · have isOther : (some owner).filter (· ≠ account) = some owner := by simp [same]
        rw [isOther]
        exact firstRefusal?_of_unmet fun owned => same (of_decide_eq_true owned)

theorem InvoiceCall.isChecked (call : InvoiceCall) : call.operation.IsChecked call.checklist? := by
  cases call with
  | get | getByNumber | getByItem | list | search | payments => exact isChecked_lookup
  | html => exact isChecked_free
  | createFuture | dryRun | sendEmail | commit | voiding | removeCba =>
      exact isChecked_authored (.ok _)
  | adjustItem | pay =>
      exact isChecked_authored (.requiredThen fun _ _ => .requiredThen fun _ _ =>
        .requiredThen fun _ _ => .ok _)
  | addItems kind account items =>
      exact isChecked_authored
        ((Checks.forM (checks_checkItem kind.operationName account) items).thenMade _)

theorem CreditCall.isChecked (call : CreditCall) : call.operation.IsChecked call.checklist? := by
  cases call with
  | get => exact isChecked_lookup
  | create =>
      exact isChecked_authored (.requiredThen fun _ _ => .requiredThen fun _ _ => .ok _)

theorem PaymentCall.isChecked (call : PaymentCall) : call.operation.IsChecked call.checklist? := by
  cases call with
  | get | getByKey | list | search | refunds | chargebacks => exact isChecked_lookup
  | capture | refund | chargeback | reverseChargeback =>
      exact isChecked_authored (.requiredThen fun _ _ => .ok _)
  | voiding => exact isChecked_authored (.ok _)

theorem InvoicePaymentCall.isChecked (call : InvoicePaymentCall) :
    call.operation.IsChecked call.checklist? := by
  cases call with
  | get => exact isChecked_lookup
  | refund | chargeback => exact isChecked_authored (.requiredThen fun _ _ => .ok _)

theorem PaymentMethodCall.isChecked (call : PaymentMethodCall) :
    call.operation.IsChecked call.checklist? := by
  cases call with
  | get | getByKey | list | search => exact isChecked_lookup
  | delete => exact isChecked_authored (.ok _)

theorem GatewayCall.isChecked (call : GatewayCall) :
    call.operation.IsChecked (some call.checklist) := by
  cases call with
  | formDescriptor | notify => exact isChecked_authored (.ok _)

theorem TagDefinitionCall.isChecked (call : TagDefinitionCall) :
    call.operation.IsChecked call.checklist? := by
  cases call with
  | list | get => exact isChecked_lookup
  | create => exact isChecked_authored (.requiredThen fun _ _ => .ok _)
  | delete => exact isChecked_authored (.ok _)

theorem LabelCall.checks_field (field : CustomField) :
    Checks "modify_custom_fields" [.given "customFieldId" field.customFieldId.isSome] (do
      let _ ← required field.customFieldId "customFieldId" "modify_custom_fields") :=
  .requiredThen fun _ _ => .ok _

theorem LabelCall.isChecked (call : LabelCall) : call.operation.IsChecked call.checklist? := by
  cases call with
  | customFields | tags => exact isChecked_lookup
  | addCustomFields | addTags | deleteCustomFields | deleteTags =>
      exact isChecked_authored (.ok _)
  | changeCustomFields object fields =>
      have checks := Checks.forM checks_field fields
      rw [← List.map_eq_flatMap] at checks
      exact isChecked_authored (checks.thenMade _)

theorem CatalogCall.isChecked (call : CatalogCall) : call.operation.IsChecked call.checklist? := by
  cases call with
  | list | availableAddOns | availableBasePlans => exact isChecked_lookup
  | xml => exact isChecked_free
  | upload | delete => exact isChecked_authored (.ok _)

theorem UsageCall.isChecked (call : UsageCall) : call.operation.IsChecked call.checklist? := by
  cases call with
  | get | getAll => exact isChecked_lookup
  | record usage =>
      have given : (!usage.unitUsageRecords.isEmpty) = usage.unitUsageRecords.head?.isSome := by
        cases usage.unitUsageRecords <;> rfl
      dsimp only [checklist?]
      rw [given]
      exact isChecked_authored (.requiredThen fun _ _ => .requiredThen fun _ _ => .ok _)

theorem TenantCall.isChecked (call : TenantCall) : call.operation.IsChecked call.checklist? := by
  cases call with
  | get | getByApiKey | callbacks | pluginConfiguration => exact isChecked_lookup
  | create =>
      exact isChecked_authored (.requiredThen fun _ _ => .requiredThen fun _ _ => .ok _)
  | registerCallback | uploadPluginConfiguration | deleteCallbacks | deletePluginConfiguration =>
      exact isChecked_authored (.ok _)

/-- A call is refused for the first need of its checklist that is not met, and for nothing else. -/
theorem Call.isChecked (call : Call) : call.operation.IsChecked call.checklist? := by
  cases call with
  | account call => exact call.isChecked
  | bundle call => exact call.isChecked
  | subscription call => exact call.isChecked
  | invoice call => exact call.isChecked
  | invoicePayment call => exact call.isChecked
  | credit call => exact call.isChecked
  | payment call => exact call.isChecked
  | paymentMethod call => exact call.isChecked
  | gateway call => exact call.isChecked
  | tagDefinition call => exact call.isChecked
  | label call => exact call.isChecked
  | catalog call => exact call.isChecked
  | usage call => exact call.isChecked
  | tenant call => exact call.isChecked
  | permissions => exact isChecked_lookup
  | tag call | customField call => cases call <;> exact isChecked_lookup
  | admin call | plugin call => cases call <;> exact isChecked_free

/-! ## Refused requests -/

theorem Need.refusal?_eq_none_iff (operation : String) (need : Need) :
    need.refusal? operation = none ↔ need.isMet = true := by
  unfold refusal?
  by_cases met : need.isMet = true <;> simp [met]

theorem firstRefusal?_eq_none_iff {operation : String} {needs : List Need} :
    firstRefusal? operation needs = none ↔ ∀ need ∈ needs, need.isMet = true := by
  unfold firstRefusal?
  simp only [List.findSome?_eq_none_iff, Need.refusal?_eq_none_iff]

theorem firstRefusal?_eq_some_iff {operation : String} {needs : List Need} {error : Error} :
    firstRefusal? operation needs = some error ↔ ∃ before need after,
      needs = before ++ need :: after ∧ need.isMet = false ∧ error = need.failure operation ∧
        ∀ earlier ∈ before, earlier.isMet = true := by
  have unmet (need : Need) : need.refusal? operation = some error ↔
      need.isMet = false ∧ error = need.failure operation := by
    unfold Need.refusal?
    by_cases met : need.isMet = true
    · simp [met]
    · simp [met, eq_comm]
  unfold firstRefusal?
  rw [List.findSome?_eq_some_iff]
  simp only [unmet, Need.refusal?_eq_none_iff, and_assoc]

/-- A request is refused for the first need that is not met. -/
theorem Call.request_eq_error_iff (call : Call) (options : Options) (error : Error) :
    call.operation.request options = .error error ↔ ∃ checklist,
      call.checklist? = some checklist ∧
        firstRefusal? checklist.operation (checklist.all options) = some error := by
  have checked := call.isChecked
  cases shape : call.checklist? with
  | none =>
      rw [shape] at checked
      obtain ⟨request, made⟩ := checked options
      rw [made]
      simp
  | some checklist =>
      rw [shape] at checked
      have checks := checked options
      unfold Checks at checks
      cases made : call.operation.request options with
      | error other =>
          rw [made] at checks
          simp [checks]
      | ok request =>
          rw [made] at checks
          simp [checks]

/-- The calls that need something are audited and no look-ups, or export the data of an account. -/
theorem Call.isSome_checklist?_iff (call : Call) : call.checklist?.isSome = true ↔
    (call.isAudited = true ∧ call.isLookup = false) ∨ ∃ id, call = .account (.exportData id) := by
  cases call with
  | account call =>
      cases call <;>
        simp [checklist?, AccountCall.checklist?, isAudited, isLookup, AccountCall.isLookup]
  | bundle call =>
      cases call <;>
        simp [checklist?, BundleCall.checklist?, isAudited, isLookup, BundleCall.isLookup]
  | subscription call =>
      cases call <;>
        simp [checklist?, SubscriptionCall.checklist?, isAudited, isLookup,
          SubscriptionCall.isLookup]
  | invoice call =>
      cases call <;>
        simp [checklist?, InvoiceCall.checklist?, isAudited, isLookup, InvoiceCall.isLookup]
  | invoicePayment call =>
      cases call <;>
        simp [checklist?, InvoicePaymentCall.checklist?, isAudited, isLookup,
          InvoicePaymentCall.isLookup]
  | credit call =>
      cases call <;>
        simp [checklist?, CreditCall.checklist?, isAudited, isLookup, CreditCall.isLookup]
  | payment call =>
      cases call <;>
        simp [checklist?, PaymentCall.checklist?, isAudited, isLookup, PaymentCall.isLookup]
  | paymentMethod call =>
      cases call <;>
        simp [checklist?, PaymentMethodCall.checklist?, isAudited, isLookup,
          PaymentMethodCall.isLookup]
  | tagDefinition call =>
      cases call <;>
        simp [checklist?, TagDefinitionCall.checklist?, isAudited, isLookup,
          TagDefinitionCall.isLookup]
  | label call =>
      cases call <;>
        simp [checklist?, LabelCall.checklist?, isAudited, isLookup, LabelCall.isLookup]
  | catalog call =>
      cases call <;>
        simp [checklist?, CatalogCall.checklist?, isAudited, isLookup, CatalogCall.isLookup]
  | usage call =>
      cases call <;>
        simp [checklist?, UsageCall.checklist?, isAudited, isLookup, UsageCall.isLookup]
  | tenant call =>
      cases call <;>
        simp [checklist?, TenantCall.checklist?, isAudited, isLookup, TenantCall.isLookup]
  | gateway | tag | customField | permissions | admin | plugin =>
      simp [checklist?, isAudited, isLookup]

/-- The calls that need an author change something that is audited, or export the data of an
account. -/
theorem Call.needsAuthor_iff (call : Call) : call.checklist?.isSome = true ↔
    (call.isAudited = true ∧ call.operation.Changes) ∨ ∃ id, call = .account (.exportData id) := by
  constructor
  · intro needs
    rcases call.isSome_checklist?_iff.1 needs with ⟨audited, noLookup⟩ | exports
    · have accountable := isAccountable audited
      rw [noLookup] at accountable
      exact .inl ⟨audited, accountable.1⟩
    · exact .inr exports
  · rintro (⟨audited, changes⟩ | exports)
    · cases isLookup : call.isLookup with
      | false => exact call.isSome_checklist?_iff.2 (.inl ⟨audited, isLookup⟩)
      | true =>
          cases noNeeds : call.checklist? with
          | some checklist => rfl
          | none =>
              -- Nothing refuses this look-up: it has a request, which changes nothing.
              have checked := call.isChecked
              rw [noNeeds] at checked
              obtain ⟨request, asked⟩ := checked {}
              exact absurd ((looksUp isLookup).method {} request asked)
                (changes {} request asked).ne_get
    · exact call.isSome_checklist?_iff.2 (.inr exports)

end BillingClient
