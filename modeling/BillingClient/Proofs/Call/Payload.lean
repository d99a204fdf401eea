import BillingClient.Proofs.Call.Operation
import BillingClient.Proofs.Domain.Omission

/-!
Contract: what the calls send in the bodies of their requests.

`Call.payload?` is the argument of a call that its request carries as JSON, with the codec that
writes it. Every other call but those of plugins carries no JSON. Main statement:
`Call.payload_omitsAbsent`.
-/

namespace BillingClient

open BillingClient.Client
open BillingClient.Domain
open BillingClient.Json
open BillingClient.Operation
open BillingClient.Text
open BillingClient.Vocabulary

/-- A value of a type whose values leave out what is absent. -/
structure Payload : Type 1 where
  {Carrier : Type}
  codec : Codec Carrier
  value : Carrier
  [omits : WireModel.Omits codec]

/-- The value that a call sends. -/
def AccountCall.payload? : AccountCall → Option Payload
  | .create account => some ⟨Account.codec, account⟩
  | .update account _ => some ⟨Account.codec, account⟩
  | .addEmail email => some ⟨AccountEmail.codec, email⟩
  | .setInvoiceEmail choice => some ⟨InvoiceEmail.codec, choice⟩
  | .startPayment _ transaction _ _ => some ⟨PaymentTransaction.codec, transaction⟩
  | .addPaymentMethod paymentMethod _ _ _ => some ⟨PaymentMethod.codec, paymentMethod⟩
  | _ => none

@[inherit_doc AccountCall.payload?]
def BundleCall.payload? : BundleCall → Option Payload
  | .transfer bundle _ _ => some ⟨Bundle.codec, bundle⟩
  | _ => none

@[inherit_doc AccountCall.payload?]
def SubscriptionCall.payload? : SubscriptionCall → Option Payload
  | .create subscription _ _ _ => some ⟨Subscription.codec, subscription⟩
  | .changePlan subscription _ _ _ => some ⟨Subscription.codec, subscription⟩
  | .setBillCycleDay subscription _ _ => some ⟨Subscription.codec, subscription⟩
  | _ => none

@[inherit_doc AccountCall.payload?]
def InvoiceCall.payload? : InvoiceCall → Option Payload
  | .dryRun run _ _ => some ⟨InvoiceDryRun.codec, run⟩
  | .adjustItem item _ => some ⟨InvoiceItem.codec, item⟩
  | .addItems _ _ items _ _ => some ⟨InvoiceItem.codec.list, items⟩
  | .pay payment _ _ => some ⟨InvoicePayment.codec, payment⟩
  | _ => none

@[inherit_doc AccountCall.payload?]
def InvoicePaymentCall.payload? : InvoicePaymentCall → Option Payload
  | .refund _ transaction _ _ _ => some ⟨InvoicePaymentTransaction.codec, transaction⟩
  | .chargeback _ transaction => some ⟨InvoicePaymentTransaction.codec, transaction⟩
  | .get _ _ => none

@[inherit_doc AccountCall.payload?]
def PaymentCall.payload? : PaymentCall → Option Payload
  | .capture _ transaction _ => some ⟨PaymentTransaction.codec, transaction⟩
  | .refund _ transaction _ => some ⟨PaymentTransaction.codec, transaction⟩
  | .chargeback _ transaction _ => some ⟨PaymentTransaction.codec, transaction⟩
  | .reverseChargeback _ transaction => some ⟨PaymentTransaction.codec, transaction⟩
  | .voiding _ transaction _ => some ⟨PaymentTransaction.codec, transaction⟩
  | _ => none

@[inherit_doc AccountCall.payload?]
def LabelCall.payload? : LabelCall → Option Payload
  | .addCustomFields _ fields => some ⟨CustomField.codec.list, fields⟩
  | .changeCustomFields _ fields => some ⟨CustomField.codec.list, fields⟩
  | .addTags _ definitions => some ⟨Codec.list Identifier.codec, definitions⟩
  | _ => none

@[inherit_doc AccountCall.payload?]
def Call.payload? : Call → Option Payload
  | .account call => call.payload?
  | .bundle call => call.payload?
  | .subscription call => call.payload?
  | .invoice call => call.payload?
  | .invoicePayment call => call.payload?
  | .payment call => call.payload?
  | .label call => call.payload?
  | .credit (.create given _) => some ⟨Credit.codec, given⟩
  | .gateway (.formDescriptor given _ _ _) => some ⟨HostedPaymentPageFields.codec, given⟩
  | .tagDefinition (.create given) => some ⟨TagDefinition.codec, given⟩
  | .usage (.record given) => some ⟨SubscriptionUsageRecord.codec, given⟩
  | .tenant (.create given _) => some ⟨Tenant.codec, given⟩
  | .admin (.setTransactionState given _ _) => some ⟨AdminPayment.codec, given⟩
  | _ => none

/-- A request has the text of a payload as its body, or if there is none, no JSON. -/
structure Carries (payload : Option Payload) (request : Request) : Prop where
  json : ∀ present, payload = some present →
    request.body = some (.json present.codec present.value)
  noJson : payload = none → ∀ body, request.body = some body → body.contentType ≠ "application/json"

namespace Carries

variable {payload : Payload} {request : Request}

theorem of_json (isBody : request.body = some (.json payload.codec payload.value)) :
    Carries (some payload) request where
  json := by
    rintro _ ⟨⟩
    exact isBody
  noJson := nofun

theorem of_none (isBody : request.body = none) : Carries none request where
  json := nofun
  noJson _ body present := by
    rw [isBody] at present
    cases present

theorem of_other {contentType content : String} (isBody : request.body = some ⟨contentType, content⟩)
    (other : contentType ≠ "application/json") : Carries none request where
  json := nofun
  noJson _ body present := by
    rw [isBody] at present
    cases present
    exact other

end Carries

theorem body_outlasting (request : Request) (completion : Completion) :
    (request.outlasting completion).body = request.body := by
  unfold Request.outlasting
  split <;> rfl

/-! ## Calls -/

theorem AccountCall.carries (call : AccountCall) :
    call.operation.Asks (Carries call.payload?) := by
  cases call with
  | list | get | getByKey | search | timeline | emails | invoiceEmail | bundles | invoices
  | payments | invoicePayments | paymentMethods | chargebacks | overdueState =>
      exact asks_lookup (.of_none rfl)
  | close | payAllInvoices | setDefaultPaymentMethod | exportData =>
      exact asks_authored (.ok (.of_none rfl))
  | removeEmail => exact asks_authored (.bind fun _ => .bind fun _ => .ok (.of_none rfl))
  | create => exact asks_authored (.ok (.of_json rfl))
  | update | addEmail | setInvoiceEmail =>
      exact asks_authored (.bind fun _ => .ok (.of_json rfl))
  | addPaymentMethod => exact asks_authored (.bind fun _ => .bind fun _ => .ok (.of_json rfl))
  | startPayment id transaction paymentMethod properties =>
      refine asks_authored ?_
      unfold startRequest
      refine .bind fun type => ?_
      split
      · exact .error _
      · exact .bind fun _ => .bind fun _ => .ok (.of_json rfl)

theorem BundleCall.carries (call : BundleCall) : call.operation.Asks (Carries call.payload?) := by
  cases call with
  | get | listByKey | list | search => exact asks_lookup (.of_none rfl)
  | transfer => exact asks_authored (.bind fun _ => .bind fun _ => .ok (.of_json rfl))
  | pause | resume => exact asks_authored (.ok (.of_none rfl))

theorem SubscriptionCall.carries (call : SubscriptionCall) :
    call.operation.Asks (Carries call.payload?) := by
  cases call with
  | get | getByKey => exact asks_lookup (.of_none rfl)
  | create | changePlan | setBillCycleDay =>
      exact asks_authored (.bind fun _ => .bind fun _ => .ok (.of_json rfl))
  | cancel => exact asks_authored (.ok (.of_none (body_outlasting _ _)))
  | uncancel => exact asks_authored (.ok (.of_none rfl))

theorem InvoiceCall.carries (call : InvoiceCall) :
    call.operation.Asks (Carries call.payload?) := by
  cases call with
  | get | getByNumber | getByItem | list | search | payments => exact asks_lookup (.of_none rfl)
  | html => exact asks_free (.of_none rfl)
  | createFuture | sendEmail | commit | voiding | removeCba =>
      exact asks_authored (.ok (.of_none rfl))
  | dryRun => exact asks_authored (.ok (.of_json rfl))
  | adjustItem | pay =>
      exact asks_authored (.bind fun _ => .bind fun _ => .bind fun _ => .ok (.of_json rfl))
  | addItems => exact asks_authored (.bind fun _ => .ok (.of_json rfl))

theorem InvoicePaymentCall.carries (call : InvoicePaymentCall) :
    call.operation.Asks (Carries call.payload?) := by
  cases call with
  | get => exact asks_lookup (.of_none rfl)
  | refund | chargeback => exact asks_authored (.bind fun _ => .ok (.of_json rfl))

theorem PaymentCall.carries (call : PaymentCall) :
    call.operation.Asks (Carries call.payload?) := by
  cases call with
  | get | getByKey | list | search | refunds | chargebacks => exact asks_lookup (.of_none rfl)
  | capture | refund | chargeback | reverseChargeback =>
      exact asks_authored (.bind fun _ => .ok (.of_json rfl))
  | voiding => exact asks_authored (.ok (.of_json rfl))

theorem LabelCall.carries (call : LabelCall) : call.operation.Asks (Carries call.payload?) := by
  cases call with
  | customFields | tags => exact asks_lookup (.of_none rfl)
  | addCustomFields | addTags => exact asks_authored (.ok (.of_json rfl))
  | changeCustomFields => exact asks_authored (.bind fun _ => .ok (.of_json rfl))
  | deleteCustomFields | deleteTags => exact asks_authored (.ok (.of_none rfl))

/-- A call of the server itself carries its payload, and no other JSON. -/
theorem Call.carries {call : Call} (server : ∀ plugin, call ≠ .plugin plugin) :
    call.operation.Asks (Carries call.payload?) := by
  cases call with
  | account call => exact call.carries
  | bundle call => exact call.carries
  | subscription call => exact call.carries
  | invoice call => exact call.carries
  | invoicePayment call => exact call.carries
  | payment call => exact call.carries
  | label call => exact call.carries
  | plugin call => exact absurd rfl (server call)
  | permissions => exact asks_lookup (.of_none rfl)
  | credit call =>
      cases call with
      | get => exact asks_lookup (.of_none rfl)
      | create => exact asks_authored (.bind fun _ => .bind fun _ => .ok (.of_json rfl))
  | paymentMethod call =>
      cases call with
      | get | getByKey | list | search => exact asks_lookup (.of_none rfl)
      | delete => exact asks_authored (.ok (.of_none rfl))
  | gateway call =>
      cases call with
      | formDescriptor => exact asks_authored (.ok (.of_json rfl))
      | notify => exact asks_authored (.ok (.of_other rfl (by decide)))
  | tagDefinition call =>
      cases call with
      | list | get => exact asks_lookup (.of_none rfl)
      | create => exact asks_authored (.bind fun _ => .ok (.of_json rfl))
      | delete => exact asks_authored (.ok (.of_none rfl))
  | tag call | customField call =>
      cases call with
      | list | search => exact asks_lookup (.of_none rfl)
  | catalog call =>
      cases call with
      | list | availableAddOns | availableBasePlans => exact asks_lookup (.of_none rfl)
      | xml => exact asks_free (.of_none rfl)
      | upload => exact asks_authored (.ok (.of_other rfl (by decide)))
      | delete => exact asks_authored (.ok (.of_none rfl))
  | usage call =>
      cases call with
      | get | getAll => exact asks_lookup (.of_none rfl)
      | record => exact asks_authored (.bind fun _ => .bind fun _ => .ok (.of_json rfl))
  | tenant call =>
      cases call with
      | get | getByApiKey | callbacks | pluginConfiguration => exact asks_lookup (.of_none rfl)
      | create => exact asks_authored (.bind fun _ => .bind fun _ => .ok (.of_json rfl))
      | registerCallback | deleteCallbacks | deletePluginConfiguration =>
          exact asks_authored (.ok (.of_none rfl))
      | uploadPluginConfiguration => exact asks_authored (.ok (.of_other rfl (by decide)))
  | admin call =>
      cases call with
      | setTransactionState => exact asks_free (.of_json rfl)
      | _ => exact asks_free (.of_none rfl)

/-! ## What is left out -/

/-- Each object of a model has the members of the fields that are held and no others, by their
names on the wire and at every depth, and no `null` but in a free value; and what a call sends is
the text of its own argument, written so. -/
theorem Call.payload_omitsAbsent :
    (WireModel.all.map WireModel.toModel = Model.fault :: Model.all ∧
      ∀ model ∈ WireModel.all,
        (∀ wire ∈ model.form.wireFields,
          (WireModel.isCamelCase wire.field.name = true ∨
            (model.name, wire.field.name) = ("Account", "accountCBA")) ∧
          ((∀ value, wire.field.IsHeld value) ↔
            (model.name, wire.field.name) ∈ WireModel.alwaysWritten)) ∧
        ∀ value : model.Carrier, WireModel.OmitsAbsent model.codec value ∧
          ∃ members, model.codec.encode value = .object members ∧
            model.form.WritesHeld value members) ∧
    ∀ (call : Call) (options : Options) (request : Request),
      (∀ plugin, call ≠ .plugin plugin) → call.operation.request options = .ok request →
      Carries call.payload? request ∧
      ∀ payload, call.payload? = some payload →
        WireModel.OmitsAbsent payload.codec payload.value ∧
        read (Utf8.encode (payload.codec.text payload.value)) =
          some (payload.codec.encode payload.value).node := by
  refine ⟨⟨rfl, fun model listed => ⟨fun wire wireIn => ?_, fun value => ?_⟩⟩, ?_⟩
  · exact ⟨WireModel.isCamelCase_name listed (List.mem_map_of_mem wireIn),
      WireModel.forall_isHeld_iff listed wireIn⟩
  · exact ⟨(WireModel.omits_of_mem model listed).omitsAbsent value, model.exists_writesHeld value⟩
  · intro call options request server asked
    refine ⟨Call.carries server options request asked, fun payload _ => ?_⟩
    exact ⟨payload.omits.omitsAbsent payload.value, read_encode_text _⟩

/-- An account that is renamed sends nothing of its other fields, and an empty history of an account
has its three lists. -/
theorem Call.payload_omitsAbsent_rename :
    let id : AccountId := default
    let account : Account := { accountId := some id, name := some "n" }
    let call := Call.account (.update account true)
    let options : Options := { createdBy := some "me" }
    (∃ request, call.operation.request options = .ok request ∧
      request.body = some (.json Account.codec account) ∧
      WireModel.OmitsAbsent Account.codec account ∧
      Account.codec.encode account =
        .object [("accountId", .string id.text), ("name", .string "n")]) ∧
    WireModel.OmitsAbsent AccountTimeline.codec {} ∧
      AccountTimeline.codec.encode {} =
        .object [("bundles", .array []), ("invoices", .array []), ("payments", .array [])] := by
  intro id account call options
  have listed : WireModel.ofRecord "AccountTimeline" AccountTimeline.codec
      AccountTimeline.record ∈ WireModel.all := by
    repeat first
      | exact .head _
      | refine .tail _ ?_
  obtain ⟨carries, writes⟩ := Call.payload_omitsAbsent.2 call options _ nofun rfl
  obtain ⟨-, timeline⟩ := Call.payload_omitsAbsent.1.2 _ listed
  let payload : Payload := ⟨Account.codec, account⟩
  exact ⟨⟨_, rfl, carries.json payload rfl, (writes payload rfl).1, rfl⟩,
    (timeline ({} : AccountTimeline)).1, rfl⟩

end BillingClient
