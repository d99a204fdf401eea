import BillingClient.Proofs.Call.FreeText
import BillingClient.Proofs.Client.Address
import BillingClient.Proofs.Client.Query

/-!
Contract: the resource that a call asks for.

All calls but those of plugins ask for a resource of the server, whose segments all stand in the
path if a text of the caller among them does: `Call.enters`.
-/

namespace BillingClient

open BillingClient.Client
open BillingClient.Operation
open BillingClient.Url
open BillingClient.Vocabulary

/-! ## Operations -/

namespace Operation

/-- Whether a request is for a resource whose segments all stand in its path. -/
def EntersPath (request : Request) : Prop :=
  ∃ list, request.path = Request.resource list ∧ ∀ segment ∈ list, IsEntered segment

/-- Whether an operation asks for a resource whose segments all stand in its path. -/
abbrev Enters (operation : Operation) : Prop :=
  operation.Asks EntersPath

theorem enters_lookup {α : Type} {list : List String} {query : Query} {reply : Reply α}
    (entered : ∀ segment ∈ list, IsEntered segment) : (lookup list query reply).Enters :=
  asks_lookup ⟨list, rfl, entered⟩

theorem path_outlasting (request : Request) (completion : Completion) :
    (request.outlasting completion).path = request.path := by
  unfold Request.outlasting
  split <;> rfl

end Operation

/-! ## Segments -/

@[simp] theorem isEntered_text {kind : ObjectKind} (id : Identifier kind) : IsEntered id.text :=
  (isFixedSegment_text id).isEntered

@[simp] theorem isEntered_naturalText (number : Nat) : IsEntered (Query.naturalText number) := by
  have read := Query.digitsValue?_naturalText number
  constructor
  · intro dot
    rw [dot] at read
    cases read
  · intro dots
    rw [dots] at read
    cases read

theorem Taggable.isEntered_path (object : Taggable) :
    ∀ segment ∈ object.path, IsEntered segment := by
  cases object <;> simp +decide [path]

theorem Annotatable.isEntered_path (object : Annotatable) :
    ∀ segment ∈ object.path, IsEntered segment := by
  cases object with
  | taggable object => exact object.isEntered_path
  | paymentMethod id => simp +decide [path]

/-! ## Calls -/

theorem AccountCall.isEntered_startRequest (id : AccountId)
    (transaction : Domain.PaymentTransaction) (paymentMethod : Option PaymentMethodId)
    (properties : List (String × String)) :
    Makes EntersPath (startRequest id transaction paymentMethod properties) := by
  unfold startRequest
  refine .bind fun type => ?_
  split
  · exact .error _
  · refine .bind fun _ => .bind fun _ => .ok ⟨_, rfl, ?_⟩
    simp +decide

theorem AccountCall.enters {call : AccountCall} (noText : (Call.account call).freeText? = none) :
    call.operation.Enters := by
  cases call with
  | list | get | getByKey | timeline | emails | invoiceEmail | bundles | invoices | payments
  | invoicePayments | paymentMethods | chargebacks | overdueState =>
      apply enters_lookup
      simp +decide
  | search => cases noText
  | create | close | payAllInvoices | setDefaultPaymentMethod | exportData =>
      refine asks_authored (.ok ⟨_, rfl, ?_⟩)
      simp +decide
  | update | addEmail | setInvoiceEmail =>
      refine asks_authored (.bind fun _ => .ok ⟨_, rfl, ?_⟩)
      simp +decide
  | addPaymentMethod =>
      refine asks_authored (.bind fun _ => .bind fun _ => .ok ⟨_, rfl, ?_⟩)
      simp +decide
  | startPayment id transaction paymentMethod properties =>
      exact asks_authored (isEntered_startRequest id transaction paymentMethod properties)
  | removeEmail email =>
      -- Without an account or an address the call is refused.
      obtain ⟨account, address⟩ := email
      refine asks_authored fun request made => ?_
      cases account with
      | none => cases made
      | some account =>
          cases address with
          | none => cases made
          | some address => cases noText

theorem BundleCall.enters {call : BundleCall} (noText : (Call.bundle call).freeText? = none) :
    call.operation.Enters := by
  cases call with
  | get | listByKey | list =>
      apply enters_lookup
      simp +decide
  | search => cases noText
  | transfer =>
      refine asks_authored (.bind fun _ => .bind fun _ => .ok ⟨_, rfl, ?_⟩)
      simp +decide
  | pause | resume =>
      refine asks_authored (.ok ⟨_, rfl, ?_⟩)
      simp +decide

theorem SubscriptionCall.enters (call : SubscriptionCall) : call.operation.Enters := by
  cases call with
  | get | getByKey =>
      apply enters_lookup
      simp +decide
  | create | changePlan =>
      refine asks_authored (.bind fun _ => .bind fun _ => .ok ⟨_, path_outlasting _ _, ?_⟩)
      simp +decide
  | cancel =>
      refine asks_authored (.ok ⟨_, path_outlasting _ _, ?_⟩)
      simp +decide
  | uncancel =>
      refine asks_authored (.ok ⟨_, rfl, ?_⟩)
      simp +decide
  | setBillCycleDay =>
      refine asks_authored (.bind fun _ => .bind fun _ => .ok ⟨_, rfl, ?_⟩)
      simp +decide

theorem InvoiceCall.enters {call : InvoiceCall} (noText : (Call.invoice call).freeText? = none) :
    call.operation.Enters := by
  cases call with
  | get | getByNumber | getByItem | list | payments =>
      apply enters_lookup
      simp +decide
  | search => cases noText
  | html =>
      refine asks_free ⟨_, rfl, ?_⟩
      simp +decide
  | createFuture | dryRun | sendEmail | commit | voiding | removeCba =>
      refine asks_authored (.ok ⟨_, rfl, ?_⟩)
      simp +decide
  | adjustItem | pay =>
      refine asks_authored (.bind fun _ => .bind fun _ => .bind fun _ => .ok ⟨_, rfl, ?_⟩)
      simp +decide
  | addItems kind =>
      refine asks_authored (.bind fun _ => .ok ⟨_, rfl, ?_⟩)
      cases kind <;> simp +decide [ItemKind.segment]

theorem PaymentCall.enters {call : PaymentCall} (noText : (Call.payment call).freeText? = none) :
    call.operation.Enters := by
  cases call with
  | get | getByKey | list | refunds | chargebacks =>
      apply enters_lookup
      simp +decide
  | search => cases noText
  | capture | refund | chargeback | reverseChargeback =>
      refine asks_authored (.bind fun _ => .ok ⟨_, rfl, ?_⟩)
      simp +decide
  | voiding =>
      refine asks_authored (.ok ⟨_, rfl, ?_⟩)
      simp +decide

theorem LabelCall.enters (call : LabelCall) : call.operation.Enters := by
  have entered {front : List String} {last : String}
      (areEntered : ∀ segment ∈ front, IsEntered segment) (isEntered : IsEntered last) :
      ∀ segment ∈ front ++ [last], IsEntered segment := by
    rw [List.forall_mem_append, List.forall_mem_singleton]
    exact ⟨areEntered, isEntered⟩
  cases call with
  | customFields object | tags object =>
      exact enters_lookup (entered object.isEntered_path (by decide))
  | addCustomFields object | addTags object | deleteCustomFields object | deleteTags object =>
      exact asks_authored (.ok ⟨_, rfl, entered object.isEntered_path (by decide)⟩)
  | changeCustomFields object =>
      exact asks_authored (.bind fun _ => .ok ⟨_, rfl, entered object.isEntered_path (by decide)⟩)

theorem TenantCall.enters {call : TenantCall} (noText : (Call.tenant call).freeText? = none) :
    call.operation.Enters := by
  cases call with
  | get | getByApiKey =>
      apply enters_lookup
      simp +decide
  | callbacks => exact enters_lookup (by decide)
  | create => exact asks_authored (.bind fun _ => .bind fun _ => .ok ⟨_, rfl, by decide⟩)
  | registerCallback | deleteCallbacks => exact asks_authored (.ok ⟨_, rfl, by decide⟩)
  | pluginConfiguration | uploadPluginConfiguration | deletePluginConfiguration => cases noText

/-- A call that puts no text of the caller into its path asks for a resource, whose segments all
stand in the path. -/
theorem Call.enters_of_noText {call : Call} (server : ∀ plugin, call ≠ .plugin plugin)
    (noText : call.freeText? = none) : call.operation.Enters := by
  cases call with
  | account call => exact call.enters noText
  | bundle call => exact call.enters noText
  | subscription call => exact call.enters
  | invoice call => exact call.enters noText
  | payment call => exact call.enters noText
  | label call => exact call.enters
  | tenant call => exact call.enters noText
  | plugin call => exact absurd rfl (server call)
  | permissions => exact enters_lookup (by decide)
  | tag call | customField call =>
      cases call with
      | list => exact enters_lookup (by decide)
      | search => cases noText
  | gateway call =>
      cases call with
      | formDescriptor =>
          refine asks_authored (.ok ⟨_, rfl, ?_⟩)
          simp +decide
      | notify => cases noText
  | admin call =>
      cases call with
      | _ =>
          refine asks_free ⟨_, rfl, ?_⟩
          simp +decide
  | credit call =>
      cases call with
      | get =>
          apply enters_lookup
          simp +decide
      | create => exact asks_authored (.bind fun _ => .bind fun _ => .ok ⟨_, rfl, by decide⟩)
  | invoicePayment call =>
      cases call with
      | get =>
          apply enters_lookup
          simp +decide
      | refund | chargeback =>
          refine asks_authored (.bind fun _ => .ok ⟨_, rfl, ?_⟩)
          simp +decide
  | paymentMethod call =>
      cases call with
      | get | getByKey | list =>
          apply enters_lookup
          simp +decide
      | search => cases noText
      | delete =>
          refine asks_authored (.ok ⟨_, rfl, ?_⟩)
          simp +decide
  | tagDefinition call =>
      cases call with
      | list | get =>
          apply enters_lookup
          simp +decide
      | create => exact asks_authored (.bind fun _ => .ok ⟨_, rfl, by decide⟩)
      | delete =>
          refine asks_authored (.ok ⟨_, rfl, ?_⟩)
          simp +decide
  | catalog call =>
      cases call with
      | list | availableAddOns | availableBasePlans => exact enters_lookup (by decide)
      | xml => exact asks_free ⟨_, rfl, by decide⟩
      | upload | delete => exact asks_authored (.ok ⟨_, rfl, by decide⟩)
  | usage call =>
      cases call with
      | getAll =>
          apply enters_lookup
          simp +decide
      | get => cases noText
      | record => exact asks_authored (.bind fun _ => .bind fun _ => .ok ⟨_, rfl, by decide⟩)

/-- The segments of a call all stand in its path, if a text of the caller among them does. -/
theorem Call.enters {call : Call} (server : ∀ plugin, call ≠ .plugin plugin)
    (entered : ∀ fixed text, call.freeText? = some (fixed, text) → IsEntered text) :
    call.operation.Enters := by
  cases isFree : call.freeText? with
  | none => exact Call.enters_of_noText server isFree
  | some free =>
      intro options request asked
      obtain ⟨path, areFixed⟩ := isFor_of_freeText isFree asked
      refine ⟨_, path, ?_⟩
      rw [List.forall_mem_append, List.forall_mem_singleton]
      exact ⟨fun segment member => (areFixed segment member).isEntered, entered _ _ isFree⟩

/-- A call asks for a resource of the server, unless it is one of a plugin. -/
theorem Call.exists_resource {call : Call} (server : ∀ plugin, call ≠ .plugin plugin)
    {options : Options} {request : Request} (asked : call.operation.request options = .ok request) :
    ∃ list, request.path = Request.resource list := by
  cases isFree : call.freeText? with
  | none =>
      obtain ⟨list, path, _⟩ := Call.enters_of_noText server isFree options request asked
      exact ⟨list, path⟩
  | some free => exact ⟨_, (isFor_of_freeText isFree asked).1⟩

end BillingClient
