import BillingClient.Call.Basic
import BillingClient.Proofs.Client.Reply
import BillingClient.Proofs.Url.Authority

/-!
Contract: look-ups and changes.

A call looks something up that there may not be, or it changes something, unless it is up to a
plugin: `Call.looksUp`, `Call.changes`. A change that is audited needs an author:
`Call.isAccountable`.
-/

namespace BillingClient

open BillingClient.Client
open BillingClient.Domain
open BillingClient.Http
open BillingClient.Url (exists_of_bind_eq_ok)

/-- Whether a method changes something. -/
inductive Http.Method.IsChange : Method → Prop where
  | post : IsChange .post
  | put : IsChange .put
  | delete : IsChange .delete

theorem Http.Method.IsChange.ne_get {method : Method} (change : method.IsChange) :
    method ≠ .get := by
  rintro rfl
  cases change

namespace Operation

/-- Whether an operation looks something up that there may not be. -/
structure LooksUp (operation : Operation) : Prop where
  method : ∀ options request, operation.request options = .ok request → request.method = .get
  mayMiss : operation.reply.nothing?.isSome = true

/-- Whether an operation changes something. -/
def Changes (operation : Operation) : Prop :=
  ∀ options request, operation.request options = .ok request → request.method.IsChange

/-- Whether an operation is refused without an author. -/
def NeedsAuthor (operation : Operation) : Prop :=
  ∀ options request, operation.request options = .ok request → options.createdBy.isSome = true

/-- Whether an operation looks something up or, if it is no look-up, changes something in the name
of an author. -/
def IsAccountable (operation : Operation) (isLookup : Bool) : Prop :=
  if isLookup then operation.LooksUp else operation.Changes ∧ operation.NeedsAuthor

section

variable {α : Type} {reply : Reply α} {request : Request} {made : Except Error Request}

theorem looksUp_free (method : request.method = .get) (mayMiss : reply.nothing?.isSome = true) :
    (free request reply).LooksUp where
  method := by
    rintro options _ ⟨⟩
    exact method
  mayMiss := mayMiss

theorem changes_free (change : request.method.IsChange) : (free request reply).Changes := by
  rintro options _ ⟨⟩
  exact change

/-- The request of an operation that needs an author, when there is one. -/
theorem request_of_authored {name : String} {options : Options}
    (asked : (authored name made reply).request options = .ok request) : made = .ok request := by
  obtain ⟨_, _, asked⟩ := exists_of_bind_eq_ok asked
  exact asked

theorem needsAuthor_authored (name : String) (made : Except Error Request) (reply : Reply α) :
    (authored name made reply).NeedsAuthor := by
  intro options request asked
  obtain ⟨author, isAuthor, _⟩ := exists_of_bind_eq_ok asked
  unfold Options.author required at isAuthor
  cases created : options.createdBy with
  | none =>
      rw [created] at isAuthor
      cases isAuthor
  | some author => rfl

theorem looksUp_authored {name : String} (method : request.method = .get)
    (mayMiss : reply.nothing?.isSome = true) : (authored name (.ok request) reply).LooksUp where
  method := by
    intro options other asked
    cases request_of_authored asked
    exact method
  mayMiss := mayMiss

end

/-! ## Requests that may be refused -/

/-- Whether a request has a property, unless it is refused. -/
def Makes (holds : Request → Prop) (made : Except Error Request) : Prop :=
  ∀ request, made = .ok request → holds request

/-- Whether all requests of an operation have a property. -/
def Asks (holds : Request → Prop) (operation : Operation) : Prop :=
  ∀ options, Makes holds (operation.request options)

section

variable {holds : Request → Prop}

theorem Makes.ok {request : Request} (has : holds request) : Makes holds (.ok request) := by
  rintro _ ⟨⟩
  exact has

theorem Makes.error (error : Error) : Makes holds (.error error) := by
  rintro _ ⟨⟩

theorem Makes.bind {β : Type} {first : Except Error β} {next : β → Except Error Request}
    (nextMakes : ∀ value, Makes holds (next value)) : Makes holds (first >>= next) := by
  intro request made
  obtain ⟨value, _, made⟩ := exists_of_bind_eq_ok made
  exact nextMakes value request made

variable {α : Type} {reply : Reply α}

theorem asks_free {request : Request} (has : holds request) : (free request reply).Asks holds :=
  fun _ => .ok has

theorem asks_lookup {path : List String} {query : Query} (has : holds (asking .get path query)) :
    (lookup path query reply).Asks holds :=
  asks_free has

theorem asks_authored {name : String} {made : Except Error Request} (makes : Makes holds made) :
    (authored name made reply).Asks holds :=
  fun _ => .bind fun _ => makes

end

section

variable {α : Type} {reply : Reply α} {request : Request} {made : Except Error Request}

/-- Whether a request that is not refused changes something. -/
abbrev MakesChange (made : Except Error Request) : Prop :=
  Makes (·.method.IsChange) made

theorem isChange_outlasting (change : request.method.IsChange) (completion : Completion) :
    (request.outlasting completion).method.IsChange := by
  unfold Request.outlasting
  split
  · exact change
  · exact change

theorem isAccountable_lookup {path : List String} {query : Query}
    (mayMiss : reply.nothing?.isSome = true) : (lookup path query reply).IsAccountable true :=
  looksUp_free rfl mayMiss

theorem isAccountable_authored {name : String} (change : MakesChange made) :
    (authored name made reply).IsAccountable false := by
  refine ⟨fun options request asked => ?_, needsAuthor_authored name made reply⟩
  exact change request (request_of_authored asked)

end

end Operation

open Operation

/-! ## The calls -/

theorem AccountCall.makesChange_startRequest (id : Vocabulary.AccountId)
    (transaction : PaymentTransaction) (paymentMethod : Option Vocabulary.PaymentMethodId)
    (properties : List (String × String)) :
    MakesChange (startRequest id transaction paymentMethod properties) := by
  unfold startRequest
  refine .bind fun type => ?_
  split
  · rintro request ⟨⟩
  · exact .bind fun _ => .bind fun _ => .ok .post

def AccountCall.isLookup : AccountCall → Bool
  | .create .. | .update .. | .close .. | .addEmail .. | .removeEmail .. | .setInvoiceEmail .. |
    .payAllInvoices .. | .startPayment .. | .addPaymentMethod .. |
    .setDefaultPaymentMethod .. => false
  | _ => true

theorem AccountCall.isAccountable (call : AccountCall) :
    call.operation.IsAccountable call.isLookup := by
  cases call with
  | list | get | getByKey | search | timeline | emails | invoiceEmail | bundles | invoices
  | payments | invoicePayments | paymentMethods | chargebacks | overdueState =>
      exact isAccountable_lookup rfl
  | exportData => exact looksUp_authored rfl rfl
  | create => exact isAccountable_authored (.ok .post)
  | update => exact isAccountable_authored (.bind fun _ => .ok .put)
  | close => exact isAccountable_authored (.ok .delete)
  | addEmail => exact isAccountable_authored (.bind fun _ => .ok .post)
  | removeEmail =>
      exact isAccountable_authored (.bind fun _ => .bind fun _ => .ok .delete)
  | setInvoiceEmail =>
      exact isAccountable_authored (.bind fun _ => .ok .put)
  | payAllInvoices => exact isAccountable_authored (.ok .post)
  | startPayment id transaction paymentMethod properties =>
      exact isAccountable_authored
        (makesChange_startRequest id transaction paymentMethod properties)
  | addPaymentMethod =>
      exact isAccountable_authored (.bind fun _ => .bind fun _ => .ok .post)
  | setDefaultPaymentMethod => exact isAccountable_authored (.ok .put)

def BundleCall.isLookup : BundleCall → Bool
  | .transfer .. | .pause .. | .resume .. => false
  | _ => true

theorem BundleCall.isAccountable (call : BundleCall) :
    call.operation.IsAccountable call.isLookup := by
  cases call with
  | get | listByKey | list | search => exact isAccountable_lookup rfl
  | transfer =>
      exact isAccountable_authored (.bind fun _ => .bind fun _ => .ok .post)
  | pause | resume => exact isAccountable_authored (.ok .put)

def SubscriptionCall.isLookup : SubscriptionCall → Bool
  | .create .. | .changePlan .. | .cancel .. | .uncancel .. | .setBillCycleDay .. => false
  | _ => true

theorem SubscriptionCall.isAccountable (call : SubscriptionCall) :
    call.operation.IsAccountable call.isLookup := by
  cases call with
  | get | getByKey => exact isAccountable_lookup rfl
  | create subscription entitlementDate billingDate completion =>
      exact isAccountable_authored (.bind fun _ => .bind fun _ =>
        .ok (isChange_outlasting .post completion))
  | changePlan subscription requestedDate billingPolicy completion =>
      exact isAccountable_authored (.bind fun _ => .bind fun _ =>
        .ok (isChange_outlasting .put completion))
  | cancel id policy completion =>
      exact isAccountable_authored (.ok (isChange_outlasting .delete completion))
  | uncancel => exact isAccountable_authored (.ok .put)
  | setBillCycleDay =>
      exact isAccountable_authored (.bind fun _ => .bind fun _ => .ok .put)

def InvoiceCall.isLookup : InvoiceCall → Bool
  | .createFuture .. | .dryRun .. | .adjustItem .. | .addItems .. | .commit .. | .voiding .. |
    .sendEmail .. | .pay .. | .removeCba .. => false
  | _ => true

theorem InvoiceCall.isAccountable (call : InvoiceCall) :
    call.operation.IsAccountable call.isLookup := by
  cases call with
  | get | getByNumber | getByItem | list | search | payments =>
      exact isAccountable_lookup rfl
  | html => exact looksUp_free rfl rfl
  | createFuture | dryRun | sendEmail =>
      exact isAccountable_authored (.ok .post)
  | adjustItem | pay =>
      exact isAccountable_authored (.bind fun _ => .bind fun _ =>
        .bind fun _ => .ok .post)
  | addItems => exact isAccountable_authored (.bind fun _ => .ok .post)
  | commit | voiding => exact isAccountable_authored (.ok .put)
  | removeCba => exact isAccountable_authored (.ok .delete)

def CreditCall.isLookup : CreditCall → Bool
  | .create .. => false
  | _ => true

theorem CreditCall.isAccountable (call : CreditCall) :
    call.operation.IsAccountable call.isLookup := by
  cases call with
  | get => exact isAccountable_lookup rfl
  | create =>
      exact isAccountable_authored (.bind fun _ => .bind fun _ => .ok .post)

def PaymentCall.isLookup : PaymentCall → Bool
  | .capture .. | .refund .. | .chargeback .. | .reverseChargeback .. | .voiding .. => false
  | _ => true

theorem PaymentCall.isAccountable (call : PaymentCall) :
    call.operation.IsAccountable call.isLookup := by
  cases call with
  | get | getByKey | list | search | refunds | chargebacks => exact isAccountable_lookup rfl
  | capture | refund | chargeback | reverseChargeback =>
      exact isAccountable_authored (.bind fun _ => .ok .post)
  | voiding => exact isAccountable_authored (.ok .delete)

def InvoicePaymentCall.isLookup : InvoicePaymentCall → Bool
  | .refund .. | .chargeback .. => false
  | _ => true

theorem InvoicePaymentCall.isAccountable (call : InvoicePaymentCall) :
    call.operation.IsAccountable call.isLookup := by
  cases call with
  | get => exact isAccountable_lookup rfl
  | refund | chargeback =>
      exact isAccountable_authored (.bind fun _ => .ok .post)

def PaymentMethodCall.isLookup : PaymentMethodCall → Bool
  | .delete .. => false
  | _ => true

theorem PaymentMethodCall.isAccountable (call : PaymentMethodCall) :
    call.operation.IsAccountable call.isLookup := by
  cases call with
  | get | getByKey | list | search => exact isAccountable_lookup rfl
  | delete => exact isAccountable_authored (.ok .delete)

theorem GatewayCall.isAccountable (call : GatewayCall) : call.operation.IsAccountable false := by
  cases call with
  | formDescriptor | notify => exact isAccountable_authored (.ok .post)

def TagDefinitionCall.isLookup : TagDefinitionCall → Bool
  | .create .. | .delete .. => false
  | _ => true

theorem TagDefinitionCall.isAccountable (call : TagDefinitionCall) :
    call.operation.IsAccountable call.isLookup := by
  cases call with
  | list | get => exact isAccountable_lookup rfl
  | create => exact isAccountable_authored (.bind fun _ => .ok .post)
  | delete => exact isAccountable_authored (.ok .delete)

def LabelCall.isLookup : LabelCall → Bool
  | .addCustomFields .. | .changeCustomFields .. | .deleteCustomFields .. | .addTags .. |
    .deleteTags .. => false
  | _ => true

theorem LabelCall.isAccountable (call : LabelCall) :
    call.operation.IsAccountable call.isLookup := by
  cases call with
  | customFields | tags => exact isAccountable_lookup rfl
  | addCustomFields | addTags => exact isAccountable_authored (.ok .post)
  | changeCustomFields =>
      exact isAccountable_authored (.bind fun _ => .ok .put)
  | deleteCustomFields | deleteTags =>
      exact isAccountable_authored (.ok .delete)

def CatalogCall.isLookup : CatalogCall → Bool
  | .upload .. | .delete .. => false
  | _ => true

theorem CatalogCall.isAccountable (call : CatalogCall) :
    call.operation.IsAccountable call.isLookup := by
  cases call with
  | list | availableAddOns | availableBasePlans => exact isAccountable_lookup rfl
  | xml => exact looksUp_free rfl rfl
  | upload => exact isAccountable_authored (.ok .post)
  | delete => exact isAccountable_authored (.ok .delete)

def UsageCall.isLookup : UsageCall → Bool
  | .record .. => false
  | _ => true

theorem UsageCall.isAccountable (call : UsageCall) :
    call.operation.IsAccountable call.isLookup := by
  cases call with
  | get | getAll => exact isAccountable_lookup rfl
  | record =>
      exact isAccountable_authored (.bind fun _ => .bind fun _ => .ok .post)

def TenantCall.isLookup : TenantCall → Bool
  | .create .. | .registerCallback .. | .deleteCallbacks .. | .uploadPluginConfiguration .. |
    .deletePluginConfiguration .. => false
  | _ => true

theorem TenantCall.isAccountable (call : TenantCall) :
    call.operation.IsAccountable call.isLookup := by
  cases call with
  | get | getByApiKey | callbacks | pluginConfiguration => exact isAccountable_lookup rfl
  | create =>
      exact isAccountable_authored (.bind fun _ => .bind fun _ => .ok .post)
  | registerCallback | uploadPluginConfiguration =>
      exact isAccountable_authored (.ok .post)
  | deleteCallbacks | deletePluginConfiguration =>
      exact isAccountable_authored (.ok .delete)

theorem AdminCall.changes (call : AdminCall) : call.operation.Changes := by
  cases call with
  | invalidateCache | invalidateCacheOfAccount | invalidateCacheOfTenant | putOutOfRotation =>
      exact changes_free .delete
  | putInRotation | generateParkedInvoices => exact changes_free .post
  | setTransactionState => exact changes_free .put

namespace Call

/-- Whether a change by a call is recorded with an author: not so when it runs the server, or is
up to a plugin. -/
def isAudited : Call → Bool
  | .admin _ => false
  | .plugin _ => false
  | _ => true

/-- Whether a call looks something up. -/
def isLookup : Call → Bool
  | .account call => call.isLookup
  | .bundle call => call.isLookup
  | .subscription call => call.isLookup
  | .invoice call => call.isLookup
  | .invoicePayment call => call.isLookup
  | .credit call => call.isLookup
  | .payment call => call.isLookup
  | .paymentMethod call => call.isLookup
  | .gateway _ => false
  | .tagDefinition call => call.isLookup
  | .tag _ => true
  | .customField _ => true
  | .label call => call.isLookup
  | .catalog call => call.isLookup
  | .usage call => call.isLookup
  | .tenant call => call.isLookup
  | .permissions => true
  | .admin _ => false
  | .plugin _ => false

/-- An audited call looks something up, or changes something in the name of an author. -/
theorem isAccountable {call : Call} (audited : call.isAudited = true) :
    call.operation.IsAccountable call.isLookup := by
  cases call with
  | account call => exact call.isAccountable
  | bundle call => exact call.isAccountable
  | subscription call => exact call.isAccountable
  | invoice call => exact call.isAccountable
  | invoicePayment call => exact call.isAccountable
  | credit call => exact call.isAccountable
  | payment call => exact call.isAccountable
  | paymentMethod call => exact call.isAccountable
  | gateway call => exact call.isAccountable
  | tagDefinition call => exact call.isAccountable
  | tag call => cases call <;> exact isAccountable_lookup rfl
  | customField call => cases call <;> exact isAccountable_lookup rfl
  | label call => exact call.isAccountable
  | catalog call => exact call.isAccountable
  | usage call => exact call.isAccountable
  | tenant call => exact call.isAccountable
  | permissions => exact isAccountable_lookup rfl
  | admin call | plugin call => cases audited

theorem looksUp {call : Call} (isLookup : call.isLookup = true) : call.operation.LooksUp := by
  have audited : call.isAudited = true := by
    cases call with
    | admin call | plugin call => cases isLookup
    | _ => rfl
  have accountable := isAccountable audited
  rw [isLookup] at accountable
  exact accountable

/-- A call that is no look-up and not up to a plugin changes something. -/
theorem changes {call : Call} (server : ∀ plugin, call ≠ .plugin plugin)
    (noLookup : call.isLookup = false) : call.operation.Changes := by
  cases audited : call.isAudited with
  | true =>
      have accountable := isAccountable audited
      rw [noLookup] at accountable
      exact accountable.1
  | false =>
      cases call with
      | admin call => exact call.changes
      | plugin call => exact absurd rfl (server call)
      | _ => cases audited

end Call

end BillingClient
