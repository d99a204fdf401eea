import BillingClient.Proofs.Call.Delivery

/-!
Contract: properties for plugins arrive as they were given.

A property is written twice: as a pair in form encoding, which is then the value of a parameter.
The server reads the parameters, and each value of those of a plugin as a pair again. Main
statement: `call_readsProperties`.
-/

namespace BillingClient

open BillingClient.Client
open BillingClient.Http
open BillingClient.Operation
open BillingClient.Text
open BillingClient.Url

/-! ## Reading -/

namespace Client

/-- A property from the value of a parameter, which is divided at its first `=`. -/
def readProperty (value : String) : String × String :=
  let (name, content) := Form.divideAt 0x3D (Utf8.encode value)
  (Form.decode name, Form.decode content)

/-- The properties for plugins among the parameters of a request. -/
def readProperties (pairs : List (String × String)) : List (String × String) :=
  ((Query.mk pairs).getAll "pluginProperty").map readProperty

theorem readProperty_writePair (property : String × String) :
    readProperty (Form.writePair property) = property := by
  have noEquals : 0x3D ∉ Utf8.encode (Form.encode property.1) :=
    @Form.not_mem_encode '=' (by decide) (by decide) property.1
  unfold readProperty
  rw [Form.encode_writePair, Form.divideAt_append_cons 0x3D noEquals]
  dsimp only
  rw [Form.decode_encode, Form.decode_encode]

end Client

/-! ## Writing -/

/-- Whether a request has some properties for plugins, and no others. -/
def HasProperties (properties : List (String × String)) (request : Request) : Prop :=
  request.query.getAll "pluginProperty" = properties.map Form.writePair

theorem HasProperties.read {properties : List (String × String)} {request : Request}
    (has : HasProperties properties request) : readProperties request.query.pairs = properties := by
  have written : (Query.mk request.query.pairs).getAll "pluginProperty" =
      properties.map Form.writePair := has
  unfold readProperties
  rw [written, List.map_map]
  refine (List.map_congr_left fun property _ => ?_).trans (List.map_id properties)
  exact readProperty_writePair property

@[simp] theorem query_outlasting (request : Request) (completion : Completion) :
    (request.outlasting completion).query = request.query := by
  unfold Request.outlasting
  split <;> rfl

/-! ## Calls -/

/-- The properties for plugins that a call is given. -/
def AccountCall.pluginProperties : AccountCall → List (String × String)
  | .payments _ _ _ properties _ => properties
  | .payAllInvoices _ _ _ _ _ properties => properties
  | .startPayment _ _ _ properties => properties
  | .addPaymentMethod _ _ _ properties => properties
  | _ => []

@[inherit_doc AccountCall.pluginProperties]
def InvoicePaymentCall.pluginProperties : InvoicePaymentCall → List (String × String)
  | .get _ lookup => lookup.properties
  | .refund _ _ _ _ properties => properties
  | .chargeback _ _ => []

@[inherit_doc AccountCall.pluginProperties]
def InvoiceCall.pluginProperties : InvoiceCall → List (String × String)
  | .pay _ _ properties => properties
  | _ => []

@[inherit_doc AccountCall.pluginProperties]
def PaymentCall.pluginProperties : PaymentCall → List (String × String)
  | .get _ lookup => lookup.properties
  | .getByKey _ lookup => lookup.properties
  | .list _ _ lookup => lookup.properties
  | .search _ _ _ lookup => lookup.properties
  | .capture _ _ properties => properties
  | .refund _ _ properties => properties
  | .chargeback _ _ properties => properties
  | .voiding _ _ properties => properties
  | _ => []

@[inherit_doc AccountCall.pluginProperties]
def PaymentMethodCall.pluginProperties : PaymentMethodCall → List (String × String)
  | .get _ _ _ properties _ => properties
  | .delete _ _ _ properties => properties
  | _ => []

@[inherit_doc AccountCall.pluginProperties]
def GatewayCall.pluginProperties : GatewayCall → List (String × String)
  | .formDescriptor _ _ _ properties => properties
  | .notify _ _ properties => properties

@[inherit_doc AccountCall.pluginProperties]
def Call.pluginProperties : Call → List (String × String)
  | .account call => call.pluginProperties
  | .invoice call => call.pluginProperties
  | .invoicePayment call => call.pluginProperties
  | .payment call => call.pluginProperties
  | .paymentMethod call => call.pluginProperties
  | .gateway call => call.pluginProperties
  | _ => []

theorem AccountCall.hasProperties (call : AccountCall) :
    call.operation.Asks (HasProperties call.pluginProperties) := by
  cases call with
  | list | get | getByKey | search | timeline | emails | invoiceEmail | bundles | invoices
  | payments | invoicePayments | paymentMethods | chargebacks | overdueState =>
      apply asks_lookup
      simp [HasProperties, asking, pluginProperties, balanceQuery, paymentQuery,
        InvoiceFilter.query]
  | create | close | payAllInvoices | setDefaultPaymentMethod | exportData =>
      refine asks_authored (.ok ?_)
      simp [HasProperties, asking, pluginProperties, Closing.query]
  | update | addEmail | setInvoiceEmail =>
      refine asks_authored (.bind fun _ => .ok ?_)
      simp [HasProperties, asking, pluginProperties]
  | removeEmail | addPaymentMethod =>
      refine asks_authored (.bind fun _ => .bind fun _ => .ok ?_)
      simp [HasProperties, asking, pluginProperties]
  | startPayment id transaction paymentMethod properties =>
      refine asks_authored ?_
      unfold startRequest
      refine .bind fun type => ?_
      split
      · exact .error _
      · refine .bind fun _ => .bind fun _ => .ok ?_
        simp [HasProperties, asking, pluginProperties]

theorem InvoiceCall.hasProperties (call : InvoiceCall) :
    call.operation.Asks (HasProperties call.pluginProperties) := by
  cases call with
  | get | getByNumber | getByItem | list | search | payments =>
      apply asks_lookup
      simp [HasProperties, asking, pluginProperties, childrenQuery]
  | html => exact asks_free rfl
  | createFuture | dryRun | sendEmail | commit | voiding | removeCba =>
      refine asks_authored (.ok ?_)
      simp [HasProperties, asking, pluginProperties]
  | adjustItem | pay =>
      refine asks_authored (.bind fun _ => .bind fun _ => .bind fun _ => .ok ?_)
      simp [HasProperties, asking, pluginProperties]
  | addItems =>
      refine asks_authored (.bind fun _ => .ok ?_)
      simp [HasProperties, asking, pluginProperties]

theorem InvoicePaymentCall.hasProperties (call : InvoicePaymentCall) :
    call.operation.Asks (HasProperties call.pluginProperties) := by
  cases call with
  | get =>
      apply asks_lookup
      simp [HasProperties, asking, pluginProperties, PaymentLookup.query]
  | refund | chargeback =>
      refine asks_authored (.bind fun _ => .ok ?_)
      simp [HasProperties, asking, pluginProperties]

theorem PaymentCall.hasProperties (call : PaymentCall) :
    call.operation.Asks (HasProperties call.pluginProperties) := by
  cases call with
  | get | getByKey | list | search | refunds | chargebacks =>
      apply asks_lookup
      simp [HasProperties, asking, pluginProperties, PaymentLookup.query]
  | capture | refund | chargeback | reverseChargeback =>
      refine asks_authored (.bind fun _ => .ok ?_)
      simp [HasProperties, transactionRequest, asking, pluginProperties]
  | voiding =>
      refine asks_authored (.ok ?_)
      simp [HasProperties, transactionRequest, asking, pluginProperties]

theorem PaymentMethodCall.hasProperties (call : PaymentMethodCall) :
    call.operation.Asks (HasProperties call.pluginProperties) := by
  cases call with
  | get | getByKey | list | search =>
      apply asks_lookup
      simp [HasProperties, asking, pluginProperties, pageQuery]
  | delete =>
      refine asks_authored (.ok ?_)
      simp [HasProperties, asking, pluginProperties]

theorem GatewayCall.hasProperties (call : GatewayCall) :
    call.operation.Asks (HasProperties call.pluginProperties) := by
  cases call with
  | formDescriptor | notify =>
      refine asks_authored (.ok ?_)
      simp [HasProperties, asking, pluginProperties]

theorem BundleCall.hasProperties (call : BundleCall) : call.operation.Asks (HasProperties []) := by
  cases call with
  | get | listByKey | list | search =>
      apply asks_lookup
      simp [HasProperties, asking]
  | transfer =>
      refine asks_authored (.bind fun _ => .bind fun _ => .ok ?_)
      simp [HasProperties, asking]
  | pause | resume =>
      refine asks_authored (.ok ?_)
      simp [HasProperties, asking]

theorem SubscriptionCall.hasProperties (call : SubscriptionCall) :
    call.operation.Asks (HasProperties []) := by
  cases call with
  | get | getByKey =>
      apply asks_lookup
      simp [HasProperties, asking]
  | create | changePlan =>
      refine asks_authored (.bind fun _ => .bind fun _ => .ok ?_)
      simp [HasProperties, asking]
  | cancel =>
      refine asks_authored (.ok ?_)
      simp [HasProperties, asking, CancelPolicy.query]
  | uncancel => exact asks_authored (.ok rfl)
  | setBillCycleDay =>
      refine asks_authored (.bind fun _ => .bind fun _ => .ok ?_)
      simp [HasProperties, asking]

theorem LabelCall.hasProperties (call : LabelCall) : call.operation.Asks (HasProperties []) := by
  cases call with
  | customFields | tags =>
      apply asks_lookup
      simp [HasProperties, asking]
  | addCustomFields | addTags => exact asks_authored (.ok rfl)
  | deleteCustomFields | deleteTags =>
      refine asks_authored (.ok ?_)
      simp [HasProperties, asking]
  | changeCustomFields => exact asks_authored (.bind fun _ => .ok rfl)

theorem TenantCall.hasProperties (call : TenantCall) : call.operation.Asks (HasProperties []) := by
  cases call with
  | get | callbacks | pluginConfiguration => exact asks_lookup rfl
  | getByApiKey =>
      apply asks_lookup
      simp [HasProperties, asking]
  | create =>
      refine asks_authored (.bind fun _ => .bind fun _ => .ok ?_)
      simp [HasProperties, asking]
  | registerCallback =>
      refine asks_authored (.ok ?_)
      simp [HasProperties, asking]
  | uploadPluginConfiguration | deleteCallbacks | deletePluginConfiguration =>
      exact asks_authored (.ok rfl)

theorem PluginCall.hasProperties (call : PluginCall) : call.operation.Asks (HasProperties []) := by
  cases call with
  | get | head | post | put | delete | options => exact asks_free rfl

/-- Every call sends the properties for plugins that it is given, and no others. -/
theorem Call.hasProperties (call : Call) :
    call.operation.Asks (HasProperties call.pluginProperties) := by
  cases call with
  | account call => exact call.hasProperties
  | bundle call => exact call.hasProperties
  | subscription call => exact call.hasProperties
  | invoice call => exact call.hasProperties
  | invoicePayment call => exact call.hasProperties
  | payment call => exact call.hasProperties
  | paymentMethod call => exact call.hasProperties
  | gateway call => exact call.hasProperties
  | label call => exact call.hasProperties
  | tenant call => exact call.hasProperties
  | plugin call => exact call.hasProperties
  | permissions => exact asks_lookup rfl
  | credit call =>
      cases call with
      | get =>
          apply asks_lookup
          simp [HasProperties, asking, pluginProperties]
      | create =>
          refine asks_authored (.bind fun _ => .bind fun _ => .ok ?_)
          simp [HasProperties, asking, pluginProperties]
  | tag call | customField call =>
      cases call with
      | list | search =>
          apply asks_lookup
          simp [HasProperties, asking, pluginProperties]
  | tagDefinition call =>
      cases call with
      | list | get =>
          apply asks_lookup
          simp [HasProperties, asking, pluginProperties]
      | create => exact asks_authored (.bind fun _ => .ok rfl)
      | delete => exact asks_authored (.ok rfl)
  | catalog call =>
      cases call with
      | list | availableAddOns | availableBasePlans =>
          apply asks_lookup
          simp [HasProperties, asking, pluginProperties, CatalogCall.accountQuery]
      | xml =>
          apply asks_free
          simp [HasProperties, asking, pluginProperties, CatalogCall.accountQuery]
      | upload | delete => exact asks_authored (.ok rfl)
  | usage call =>
      cases call with
      | get | getAll =>
          apply asks_lookup
          simp [HasProperties, asking, pluginProperties, UsageCall.daysQuery]
      | record => exact asks_authored (.bind fun _ => .bind fun _ => .ok rfl)
  | admin call =>
      cases call with
      | _ =>
          apply asks_free
          simp [HasProperties, asking, pluginProperties]

/-! ## The server -/

/-- The server reads the properties for plugins that a call is given, in their order, from the
parameters that the call puts behind those of the caller into the query of its URL. -/
theorem call_readsProperties (client : Client) (call : Call) (options : Options)
    {network : Network} {message : Message}
    (first : (client.call call options network).messages.head? = some message) :
    ∃ request before, call.operation.request options = .ok request ∧
      message.url.queryPairs = before ++ options.query.pairs ++ request.query.pairs ∧
      readProperties request.query.pairs = call.pluginProperties ∧
      ('?' ∉ client.config.serverUrl.toList → '#' ∉ client.config.serverUrl.toList →
        (∀ plugin, call ≠ .plugin plugin) → before = []) := by
  obtain ⟨request, before, asked, pairs, nothing⟩ := exists_queryPairs_of_head?_messages_call first
  exact ⟨request, before, asked, pairs, (call.hasProperties options request asked).read, nothing⟩

/-- A notification for a plugin, with marks of both forms in its properties and another property
among the parameters of the caller. -/
theorem call_readsProperties_notify :
    let properties := [("", "="), ("a=b&c", "+ %"), ("a=b&c", "ü"), ("", "")]
    let call := Call.gateway (.notify "text" "plug?in" properties)
    let options : Options := { createdBy := some "me", query := ⟨[("pluginProperty", "x")]⟩ }
    ∃ message own, (standard.call call options (.answering [])).messages.head? = some message ∧
      message.url.queryPairs = ("pluginProperty", "x") :: own ∧
      readProperties own = properties := by
  intro properties call options
  have sends : (standard.call call options (.answering [])).messages.head?.isSome = true := by
    decide +kernel
  obtain ⟨message, first⟩ := Option.isSome_iff_exists.1 sends
  obtain ⟨request, before, _, pairs, read, nothing⟩ :=
    call_readsProperties standard call options first
  rw [nothing (by decide) (by decide) nofun] at pairs
  exact ⟨message, request.query.pairs, first, pairs, read⟩

end BillingClient
