import BillingClient.Proofs.Call.Reach
import BillingClient.Proofs.Call.Requirement
import Mathlib.Data.Bool.AllAny

/-!
Contract: lists that are sent whole, or not at all.

The items that are posted to an account and the custom fields that are changed are checked one after
the other before anything is sent. The first that is not accepted refuses the call, whatever comes
behind it; when all are, one request carries them in their order. Main statement: `call_sendsWhole`.
-/

namespace BillingClient

open BillingClient.Calendar
open BillingClient.Client
open BillingClient.Domain
open BillingClient.Http
open BillingClient.Url
open BillingClient.Vocabulary

/-! ## Server URLs -/

/-- Behind a server URL without blanks at its ends every resource has a URL. -/
theorem Client.exists_urlOf (client : Client)
    (first : ∀ c ∈ client.config.serverUrl.toList.head?, 0x20 < c.toNat)
    (last : ∀ c ∈ client.config.serverUrl.toList.getLast?, 0x20 < c.toNat)
    (list : List String) (query : Query) :
    ∃ url, client.urlOf (Request.resource list) query = .ok url := by
  obtain ⟨server, validated, _⟩ := client.exists_server
  obtain ⟨parsed, isWeb⟩ := parse_of_validate validated
  have path : ∃ url, Url.parse (String.ofList (client.config.baseUrl.toList ++
      '/' :: resourceTail list)) = .ok url := by
    by_cases marked : ∃ mark ∈ client.config.baseUrl.toList, isHierarchy mark = false
    · obtain ⟨mark, markIn, isMark⟩ := marked
      exact exists_parse_of_marked isMark markIn parsed isWeb _
    · have absent (mark : Char) (isMark : isHierarchy mark = false) :
          mark ∉ client.config.serverUrl.toList := by
        rw [client.config.toList_serverUrl, List.mem_append, not_or]
        refine ⟨fun markIn => marked ⟨mark, markIn, isMark⟩, fun markIn => ?_⟩
        rw [List.eq_of_mem_replicate markIn] at isMark
        cases isMark
      have plain : IsPlainText client.config.serverUrl.toList :=
        ⟨first, last, absent '?' (by decide), absent '#' (by decide)⟩
      rw [client.config.toList_serverUrl] at plain
      obtain ⟨authority, entered, _, _, under⟩ := parse_server_path plain parsed isWeb
      exact ⟨_, under _ (isPathText_resourceTail list)⟩
  obtain ⟨url, isUrl⟩ := path
  rw [← baseUrl_append_resource] at isUrl
  exact ⟨_, (client.urlOf_eq_ok_iff _ query _).2 ⟨url, isUrl, rfl⟩⟩

/-! ## Requests -/

/-- The headers of a request with JSON, but for its content type. -/
def Client.jsonHeaders (client : Client) (options : Options) : List (String × String) :=
  client.identityHeaders "application/json" options ++ auditHeaders options ++ options.headers

/-- A call whose URL cannot be reached fails for that, and sends nothing. -/
theorem Client.call_of_not_isReachable (client : Client) {call : Call} {options : Options}
    {request : Request} {url : Url} (asked : call.operation.request options = .ok request)
    (isUrl : client.urlOf request.path (options.query ++ request.query) = .ok url)
    (good : ∀ pair ∈ (client.primary request options url).headers, Header.IsGood pair)
    (unreachable : isReachable (Draft.target url) = false) (network : Network) :
    client.call call options network =
      ⟨[], .error (.http (.builder (some (Draft.target url))))⟩ := by
  have refused := Draft.message_of_not_isReachable _ client.config.userAgent good unreachable
  have primary : (client.primaryTalk request options).outcome network =
      ⟨[], .error (.http (.builder (some (Draft.target url))))⟩ := by
    unfold primaryTalk
    rw [isUrl, known_ok_bind, sendDraft_eq, refused, Talk.outcome_known]
    rfl
  have failed := congrArg Outcome.result primary
  have sent : (client.send request options).outcome network =
      ⟨[], .error (.http (.builder (some (Draft.target url))))⟩ := by
    rw [send_eq, Talk.outcome_bind_error _ failed, primary]
  unfold Client.call perform
  rw [asked, known_ok_bind, ask, Talk.outcome_bind_error _ (congrArg Outcome.result sent), sent]

/-! ## Calls with a list -/

/-- Calls with a list of values, which are checked in order and sent as one body. -/
structure Batch (α : Type) where
  call : List α → Call
  /-- The name of the operation in failures. -/
  name : String
  /-- What each value needs. -/
  needs : α → List Need
  method : Method
  path : List String
  query : Query
  codec : Json.Codec α
  request_eq : ∀ values options, options.createdBy.isSome = true →
    (call values).operation.request options =
      match firstRefusal? name (values.flatMap needs) with
      | some error => .error error
      | none => .ok { Operation.asking method path query with
          body := some (.json codec.list values) }

/-- What is made once some values have passed their checks is refused as the first of them. -/
theorem Checks.made_eq {β γ : Type} {operation : String} {needs : List Need}
    {first : Except Error β} (checks : Checks operation needs first) (made : γ) :
    (first >>= fun _ => .ok made) =
      match firstRefusal? operation needs with
      | some error => .error error
      | none => .ok made := by
  unfold Checks at checks
  cases first with
  | error error =>
      dsimp only at checks
      rw [checks]
      rfl
  | ok value =>
      dsimp only at checks
      rw [checks]
      rfl

theorem Operation.request_authored {α : Type} {name : String} {made : Except Error Request}
    {reply : Reply α} {options : Options} (signed : options.createdBy.isSome = true) :
    (authored name made reply).request options = made := by
  obtain ⟨author, isAuthor⟩ := Option.isSome_iff_exists.1 signed
  show (options.author name >>= fun _ => made) = made
  unfold Options.author required
  rw [isAuthor]
  rfl

namespace Batch

/-- The items that are posted to an account. -/
def items (kind : ItemKind) (account : AccountId) (requestedDate : Option Date) (commits : Bool) :
    Batch InvoiceItem where
  call items := .invoice (.addItems kind account items requestedDate commits)
  name := kind.operationName
  needs := itemNeeds account
  method := .post
  path := ["invoices", kind.segment, account.text]
  query := .date "requestedDate" requestedDate ++ .flag "autoCommit" commits
  codec := InvoiceItem.codec
  request_eq items options signed := by
    have checks := Checks.forM (InvoiceCall.checks_checkItem kind.operationName account) items
    exact (Operation.request_authored signed).trans (checks.made_eq _)

/-- The custom fields of an object that are changed. -/
def customFields (object : Annotatable) : Batch CustomField where
  call fields := .label (.changeCustomFields object fields)
  name := "modify_custom_fields"
  needs field := [.given "customFieldId" field.customFieldId.isSome]
  method := .put
  path := object.path ++ ["customFields"]
  query := {}
  codec := CustomField.codec
  request_eq fields options signed := by
    have checks := Checks.forM LabelCall.checks_field fields
    exact (Operation.request_authored signed).trans (checks.made_eq _)

/-! ## Offences -/

variable {α : Type} (batch : Batch α)

/-- Why a value is not accepted, if it is not. -/
def offence? (value : α) : Option Error :=
  firstRefusal? batch.name (batch.needs value)

/-- The first offence among some values. -/
theorem firstRefusal?_flatMap (values : List α) :
    firstRefusal? batch.name (values.flatMap batch.needs) = values.findSome? batch.offence? := by
  induction values with
  | nil => rfl
  | cons value values inductionHypothesis =>
      rw [List.flatMap_cons, firstRefusal?_append, inductionHypothesis, List.findSome?_cons,
        offence?]
      cases firstRefusal? batch.name (batch.needs value) <;> rfl

section

variable {batch} {options : Options} (signed : options.createdBy.isSome = true)

include signed

/-- The first value that is not accepted refuses the call. -/
theorem request_of_offence {before after : List α} {value : α} {error : Error}
    (accepted : ∀ earlier ∈ before, batch.offence? earlier = none)
    (offends : batch.offence? value = some error) :
    (batch.call (before ++ value :: after)).operation.request options = .error error := by
  have first : (before ++ value :: after).findSome? batch.offence? = some error := by
    rw [List.findSome?_append, List.findSome?_eq_none_iff.2 accepted, List.findSome?_cons, offends]
    rfl
  rw [batch.request_eq _ options signed, batch.firstRefusal?_flatMap, first]

/-- The request of a list of accepted values. -/
theorem request_of_accepted {values : List α}
    (accepted : ∀ value ∈ values, batch.offence? value = none) :
    (batch.call values).operation.request options =
      .ok { Operation.asking batch.method batch.path batch.query with
        body := some (.json batch.codec.list values) } := by
  rw [batch.request_eq _ options signed, batch.firstRefusal?_flatMap,
    List.findSome?_eq_none_iff.2 accepted]

/-- There is a request only for accepted values. -/
theorem accepted_of_request {values : List α} {request : Request}
    (asked : (batch.call values).operation.request options = .ok request) :
    ∀ value ∈ values, batch.offence? value = none := by
  rw [batch.request_eq _ options signed, batch.firstRefusal?_flatMap] at asked
  apply List.findSome?_eq_none_iff.1
  cases offence : values.findSome? batch.offence? with
  | none => rfl
  | some error =>
      rw [offence] at asked
      cases asked

end

/-! ## Messages -/

/-- Whether a client sends the values of a batch whole, or nothing. -/
structure SendsWhole (client : Client) (options : Options) (url : Url) : Prop where
  isUrl : client.urlOf (Request.resource batch.path) (options.query ++ batch.query) = .ok url
  sends_iff : ∀ values responses,
    (client.call (batch.call values) options (.answering responses)).messages ≠ [] ↔
      (∀ value ∈ values, batch.offence? value = none) ∧ isReachable (Draft.target url) = true
  /-- All the values are sent, in their order. -/
  sent : ∀ values responses message,
    (client.call (batch.call values) options (.answering responses)).messages.head? =
      some message →
    message.method = batch.method ∧ message.url = Draft.target url ∧
      message.body = some (Json.Value.array (values.map batch.codec.encode)).text
  /-- The first value that is not accepted counts. -/
  fails : ∀ before value after error network,
    (∀ earlier ∈ before, batch.offence? earlier = none) → batch.offence? value = some error →
    client.call (batch.call (before ++ value :: after)) options network = ⟨[], .error error⟩
  unreachable : ∀ values network, (∀ value ∈ values, batch.offence? value = none) →
    isReachable (Draft.target url) = false →
    client.call (batch.call values) options network =
      ⟨[], .error (.http (.builder (some (Draft.target url))))⟩

section

variable {client : Client} {options : Options} {url : Url}
  (good : ∀ pair ∈ client.jsonHeaders options, Header.IsGood pair)

include good

theorem isGood_primary (values : List α) :
    ∀ pair ∈ (client.primary { Operation.asking batch.method batch.path batch.query with
      body := some (.json batch.codec.list values) } options url).headers, Header.IsGood pair := by
  have content : Header.IsGood ("Content-Type", "application/json") := by
    constructor <;> decide +kernel
  show ∀ pair ∈ client.jsonHeaders options ++ [("Content-Type", "application/json")], _
  rw [List.forall_mem_append, List.forall_mem_singleton]
  exact ⟨good, content⟩

variable (signed : options.createdBy.isSome = true)
  (isUrl : client.urlOf (Request.resource batch.path) (options.query ++ batch.query) = .ok url)

include signed isUrl

theorem sendsWhole : batch.SendsWhole client options url where
  isUrl := isUrl
  sends_iff values responses := by
    constructor
    · intro speaks
      obtain ⟨message, others, shape⟩ := List.exists_cons_of_ne_nil speaks
      have first := congrArg List.head? shape
      obtain ⟨request, other, asked, made, drafted⟩ := exists_of_head?_messages_call client first
      have accepted := accepted_of_request signed asked
      rw [request_of_accepted signed accepted] at asked
      cases asked
      cases made.symm.trans isUrl
      exact ⟨accepted, ((message_primary_eq_ok_iff client _ options _ message).1 drafted).2.1⟩
    · rintro ⟨accepted, reachable⟩ silent
      have first := head?_messages_call client (request_of_accepted signed accepted) isUrl
        (.answering responses)
      rw [silent, (message_primary_eq_ok_iff client _ options _ _).2
        ⟨batch.isGood_primary good values, reachable, rfl⟩] at first
      cases first
  sent values responses message first := by
    obtain ⟨request, other, asked, made, drafted⟩ := exists_of_head?_messages_call client first
    rw [request_of_accepted signed (accepted_of_request signed asked)] at asked
    cases asked
    cases made.symm.trans isUrl
    obtain ⟨_, _, rfl⟩ := (message_primary_eq_ok_iff client _ options _ message).1 drafted
    exact ⟨rfl, rfl, rfl⟩
  fails before value after error network accepted offends := by
    unfold Client.call Client.perform
    rw [request_of_offence signed accepted offends, known_error_bind, Talk.outcome_known]
  unreachable values network accepted unreachable :=
    client.call_of_not_isReachable (request_of_accepted signed accepted) isUrl
      (batch.isGood_primary good values) unreachable network

end

end Batch

/-! ## Items and custom fields -/

/-- Why an item cannot be posted to an account: what it misses first, or else whose it is. -/
inductive ItemOffends (operation : String) (account : AccountId) (item : InvoiceItem) :
    Error → Prop
  | amount (missing : item.amount = none) :
      ItemOffends operation account item (.missingParameter "amount" operation)
  | currency (given : item.amount ≠ none) (missing : item.currency = none) :
      ItemOffends operation account item (.missingParameter "currency" operation)
  | owner {owner : AccountId} (given : item.amount ≠ none) (priced : item.currency ≠ none)
      (named : item.accountId = some owner) (other : owner ≠ account) :
      ItemOffends operation account item (.invalidArgument (.itemOwner owner account))

section

variable (operation : String) (account : AccountId) (item : InvoiceItem)

theorem firstRefusal?_itemNeeds_eq_none_iff :
    firstRefusal? operation (itemNeeds account item) = none ↔
      item.amount.isSome = true ∧ item.currency.isSome = true ∧
        ∀ owner, item.accountId = some owner → owner = account := by
  unfold itemNeeds
  simp [firstRefusal?_eq_none_iff, Need.isMet]

theorem firstRefusal?_itemNeeds_eq_some_iff (error : Error) :
    firstRefusal? operation (itemNeeds account item) = some error ↔
      ItemOffends operation account item error := by
  unfold itemNeeds
  rw [List.cons_append, List.cons_append, List.nil_append]
  cases amount : item.amount with
  | none =>
      rw [firstRefusal?_of_unmet (by simp [Need.isMet])]
      constructor
      · rintro ⟨⟩
        exact .amount amount
      · rintro (_ | ⟨given, _⟩ | ⟨given, _⟩)
        · rfl
        · exact absurd amount given
        · exact absurd amount given
  | some given =>
      rw [firstRefusal?_of_met rfl]
      cases currency : item.currency with
      | none =>
          rw [firstRefusal?_of_unmet (by simp [Need.isMet])]
          constructor
          · rintro ⟨⟩
            exact .currency (by simp [amount]) currency
          · rintro (missing | _ | ⟨_, priced⟩)
            · simp [amount] at missing
            · rfl
            · exact absurd currency priced
      | some priced =>
          rw [firstRefusal?_of_met rfl]
          constructor
          · intro refused
            obtain ⟨_, need, _, isNeed, unmet, rfl, _⟩ := firstRefusal?_eq_some_iff.1 refused
            have needIn : need ∈ item.accountId.toList.map (Need.ownedBy account) := by
              rw [isNeed]
              simp
            obtain ⟨owner, ownerIn, rfl⟩ := List.mem_map.1 needIn
            rw [Option.mem_toList] at ownerIn
            exact .owner (by simp [amount]) (by simp [currency]) ownerIn
              (of_decide_eq_false unmet)
          · rintro (missing | ⟨_, missing⟩ | ⟨_, _, named, other⟩)
            · simp [amount] at missing
            · simp [currency] at missing
            · rw [named, Option.toList_some, List.map_singleton]
              exact firstRefusal?_of_unmet (by simpa [Need.isMet] using other)

end

/-- Whether the items that are posted to an account, and the custom fields that are changed, are
sent: with an author and behind a server URL without blanks at its ends, exactly if all of them are
accepted and their URL can be reached. Then one request carries them all, in their order; otherwise
nothing is sent, and the call fails as the first that is not accepted. -/
theorem call_sendsWhole (client : Client) (options : Options)
    (first : ∀ c ∈ client.config.serverUrl.toList.head?, 0x20 < c.toNat)
    (last : ∀ c ∈ client.config.serverUrl.toList.getLast?, 0x20 < c.toNat)
    (good : ∀ pair ∈ client.jsonHeaders options, Header.IsGood pair)
    (signed : options.createdBy.isSome = true) :
    (∀ kind account requestedDate commits,
      let batch := Batch.items kind account requestedDate commits
      (∃ url, batch.SendsWhole client options url) ∧
      ∀ item,
        (batch.offence? item = none ↔ item.amount.isSome = true ∧ item.currency.isSome = true ∧
          ∀ owner, item.accountId = some owner → owner = account) ∧
        ∀ error, batch.offence? item = some error ↔
          ItemOffends kind.operationName account item error) ∧
    ∀ object,
      let batch := Batch.customFields object
      (∃ url, batch.SendsWhole client options url) ∧
      ∀ field,
        (batch.offence? field = none ↔ field.customFieldId.isSome = true) ∧
        ∀ error, batch.offence? field = some error ↔ field.customFieldId = none ∧
          error = .missingParameter "customFieldId" "modify_custom_fields" := by
  have sends {α : Type} (batch : Batch α) : ∃ url, batch.SendsWhole client options url := by
    obtain ⟨url, isUrl⟩ := client.exists_urlOf first last batch.path (options.query ++ batch.query)
    exact ⟨url, batch.sendsWhole good signed isUrl⟩
  constructor
  · intro kind account requestedDate commits batch
    refine ⟨sends batch, fun item => ⟨?_, ?_⟩⟩
    · exact firstRefusal?_itemNeeds_eq_none_iff kind.operationName account item
    · exact firstRefusal?_itemNeeds_eq_some_iff kind.operationName account item
  · intro object batch
    refine ⟨sends batch, fun field => ?_⟩
    unfold Batch.offence?
    cases missing : field.customFieldId with
    | none => simp [batch, Batch.customFields, missing, firstRefusal?, Need.refusal?, Need.isMet,
        Need.failure, eq_comm]
    | some id => simp [batch, Batch.customFields, missing, firstRefusal?, Need.refusal?, Need.isMet]

/-- An item that may be posted to any account. -/
def postableItem : InvoiceItem :=
  { amount := some ⟨false, 25, 1, by decide, by decide⟩
    currency := some ⟨"USD", by decide⟩ }

/-- An item of another account stops the one before it, and hides what the one behind it misses. -/
theorem call_sendsWhole_foreign :
    let options : Options := { createdBy := some "me" }
    let account : AccountId := ⟨⟨1, by decide⟩⟩
    let other : AccountId := ⟨⟨2, by decide⟩⟩
    let foreign : InvoiceItem := { postableItem with accountId := some other }
    standard.call (.invoice (.addItems .charge account [postableItem, foreign, {}] none true))
        options (.answering [⟨200, [], []⟩]) =
      ⟨[], .error (.invalidArgument (.itemOwner other account))⟩ ∧
    (standard.call (.invoice (.addItems .tax other [postableItem, foreign] none true))
        options (.answering [⟨200, [], []⟩])).messages ≠ [] := by
  intro options account other foreign
  have good : ∀ pair ∈ standard.jsonHeaders options, Header.IsGood pair := by
    unfold Header.IsGood
    decide +kernel
  have first : ∀ c ∈ standard.config.serverUrl.toList.head?, 0x20 < c.toNat := by
    rintro c ⟨⟩
    decide
  have last : ∀ c ∈ standard.config.serverUrl.toList.getLast?, 0x20 < c.toNat := by
    rintro c ⟨⟩
    decide
  have law := (call_sendsWhole standard options first last good rfl).1
  constructor
  · obtain ⟨⟨url, sends⟩, items⟩ := law .charge account none true
    refine sends.fails [postableItem] foreign [{}] _ _ ?_ ?_
    · rw [List.forall_mem_singleton]
      exact (items postableItem).1.2 ⟨rfl, rfl, nofun⟩
    · exact ((items foreign).2 _).2 (.owner nofun nofun rfl (by decide))
  · obtain ⟨⟨url, sends⟩, items⟩ := law .tax other none true
    have reachable : (standard.urlOf (Request.resource ["invoices", "taxes", other.text])
        (options.query ++ (.date "requestedDate" none ++ .flag "autoCommit" true))).toOption.any
          (fun url => isReachable (Draft.target url)) = true := by
      decide +kernel
    have isUrl : standard.urlOf (Request.resource ["invoices", "taxes", other.text])
        (options.query ++ (.date "requestedDate" none ++ .flag "autoCommit" true)) = .ok url :=
      sends.isUrl
    rw [isUrl] at reachable
    refine (sends.sends_iff [postableItem, foreign] _).2 ⟨?_, reachable⟩
    rw [List.forall_mem_cons, List.forall_mem_singleton]
    refine ⟨(items postableItem).1.2 ⟨rfl, rfl, nofun⟩, (items foreign).1.2 ⟨rfl, rfl, ?_⟩⟩
    rintro owner ⟨⟩
    rfl

/-- A client whose server URL has a host that no request can name. -/
def unnameable : Client where
  config := { serverUrl := "http://a`b" }
  isAccepted := eq_ok_of_toOption (by decide +kernel)

/-- Items that are accepted are not sent where no request can go. -/
theorem call_addItems_unnameable :
    let options : Options := { createdBy := some "me" }
    let outcome := unnameable.call
      (.invoice (.addItems .charge default [postableItem] none false)) options
      (.answering [⟨200, [], []⟩])
    (∀ c ∈ unnameable.config.serverUrl.toList, 0x20 < c.toNat) ∧
    (∀ pair ∈ unnameable.jsonHeaders options,
      Header.isName pair.1 = true ∧ Header.isValue pair.2 = true) ∧
    postableItem.amount.isSome = true ∧ postableItem.currency.isSome = true ∧
    postableItem.accountId = none ∧ outcome.messages = [] := by
  constructor
  · exact List.all_iff_forall_prop.1 (by decide +kernel)
  · decide +kernel

end BillingClient
