import BillingClient.Proofs.Call.Origin
import BillingClient.Proofs.Call.Requirement

/-!
Contract: failures that are met without the server, and what was sent before them.

`failsBy_of_send` traces each failure of a request to its origin, with the messages sent until
then. A missing parameter is met before anything is sent, and so is an argument that is not
accepted, but for one: the place of an object that has already been created may not resolve. Main
statements: `call_refused` and `call_missing_iff`.
-/

namespace BillingClient

open BillingClient.Client
open BillingClient.Http

variable {α β : Type}

/-! ## Failures of a request -/

namespace Client

/-- Whether a failure says that the caller asked for something that cannot be done. -/
def Error.isRefusal : Error → Bool
  | .missingParameter _ _ => true
  | .invalidArgument _ => true
  | .configuration _ => true
  | _ => false

/-- Whether a failure is about a place that a response names. -/
def Error.isUnresolved : Error → Bool
  | .invalidArgument (.location _ _) => true
  | _ => false

/-- Whether a request creates an object at a place that does not resolve. -/
def Strands (client : Client) (request : Request) (options : Options) (network : Network)
    (location : String) (cause : UrlError) : Prop :=
  options.followsLocation.getD request.followsLocation = true ∧
  (∃ response, ((client.primaryTalk request options).outcome network).result = .ok response ∧
    response.status = 201 ∧ response.header? "location" = some location) ∧
  ∃ base, Url.parse client.config.baseUrl = .ok base ∧ base.resolve location = .error cause

/-- The failures of a request, with the messages that are sent before them. -/
inductive FailsBy (client : Client) (request : Request) (options : Options) (network : Network) :
    Error → List Message → Prop
  | path (cause : UrlError) :
      FailsBy client request options network (.invalidArgument (.path request.path cause)) []
  | http (failure : Failure) (sent : List Message) :
      FailsBy client request options network (.http failure) sent
  | missingLocation (sent : List Message) :
      FailsBy client request options network .missingLocation sent
  | location {location : String} {cause : UrlError}
      (strands : client.Strands request options network location cause) :
      FailsBy client request options network (.invalidArgument (.location location cause))
        ((client.primaryTalk request options).outcome network).messages

section

variable {client : Client} {request : Request} {options : Options} {network : Network}

/-- A client whose configuration was accepted has a base. -/
theorem exists_cause_of_locationUrl {location : String} {query : Query} {error : Error}
    (refused : client.locationUrl location query = .error error) :
    ∃ base cause, Url.parse client.config.baseUrl = .ok base ∧
      base.resolve location = .error cause ∧ error = .invalidArgument (.location location cause) := by
  obtain ⟨server, validated, _⟩ := client.exists_server
  obtain ⟨base, isBase, _⟩ := client.exists_base validated
  unfold locationUrl at refused
  rw [isBase] at refused
  dsimp only at refused
  split at refused
  · cases refused
  · rename_i cause resolves
    cases refused
    exact ⟨base, cause, isBase, resolves, rfl⟩

/-- Each failure of a request comes from its path, from the network or from the place of a created
object. -/
theorem failsBy_of_send {error : Error}
    (failed : ((client.send request options).outcome network).result = .error error) :
    client.FailsBy request options network error
      ((client.send request options).outcome network).messages := by
  rw [send_eq] at failed ⊢
  cases ended : ((client.primaryTalk request options).outcome network).result with
  | error cause =>
      rw [Talk.outcome_bind_error _ ended] at failed ⊢
      cases failed
      unfold primaryTalk at ended ⊢
      cases made : client.urlOf request.path (options.query ++ request.query) with
      | error error =>
          rw [made, known_error_bind, Talk.outcome_known] at ended
          cases ended
          unfold urlOf at made
          split at made
          · cases made
          · cases made
            rw [known_error_bind, Talk.outcome_known]
            exact .path _
      | ok url =>
          rw [made, known_ok_bind] at ended
          obtain ⟨failure, rfl⟩ := exists_http_of_sendDraft ended
          exact .http failure _
  | ok response =>
      rw [Talk.outcome_bind_ok _ ended] at failed ⊢
      have fetches := fetches_fetchTalk client request options response
      generalize client.fetchTalk request options response = talk at failed fetches ⊢
      cases fetches with
      | kept =>
          rw [Talk.outcome_known] at failed
          cases failed
      | unnamed =>
          rw [Talk.outcome_known] at failed
          cases failed
          exact .missingLocation _
      | refused asked created named refused =>
          obtain ⟨base, cause, isBase, resolves, rfl⟩ := exists_cause_of_locationUrl refused
          rw [Talk.outcome_known] at failed
          cases failed
          rw [Talk.outcome_known, Outcome.afterAll, List.append_nil]
          exact .location ⟨asked, ⟨response, ended, created, named⟩, base, isBase, resolves⟩
      | fetched =>
          obtain ⟨failure, rfl⟩ := exists_http_of_sendDraft failed
          exact .http failure _

theorem Strands.outcome_send {location : String} {cause : UrlError}
    (strands : client.Strands request options network location cause) :
    (client.send request options).outcome network =
      ⟨((client.primaryTalk request options).outcome network).messages,
        .error (.invalidArgument (.location location cause))⟩ := by
  obtain ⟨asked, ⟨response, ended, isCreated, named⟩, base, isBase, resolves⟩ := strands
  have refused : client.locationUrl location options.followQuery =
      .error (.invalidArgument (.location location cause)) := by
    unfold locationUrl
    rw [isBase]
    dsimp only
    rw [resolves]
  rw [send_eq, Talk.outcome_bind_ok _ ended, fetchTalk_of_some asked isCreated named, refused,
    known_error_bind, Talk.outcome_known, Outcome.afterAll, List.append_nil]

/-- Something was sent before a place could be named. -/
theorem Strands.messages_ne_nil {location : String} {cause : UrlError}
    (strands : client.Strands request options network location cause) :
    ((client.primaryTalk request options).outcome network).messages ≠ [] := by
  obtain ⟨_, ⟨response, ended, _⟩, _⟩ := strands
  obtain ⟨_, _, _, _, first, _⟩ := primaryTalk_ok ended
  intro nothing
  rw [nothing] at first
  cases first

end

/-! ## Failures of a reply -/

section

variable {method : Method} {response : Response} {error : Error}

theorem error_of_map_eq_error {result : Except Error α} {change : α → β}
    (failed : result.map change = .error error) : result = .error error := by
  cases result with
  | error other =>
      cases failed
      rfl
  | ok value => cases failed

theorem isEarly_of_accepted (failed : accepted response = .error error) :
    error.isEarly = false := by
  rcases Nat.lt_or_ge response.status 400 with success | failure
  · rw [accepted_of_lt success] at failed
    cases failed
  · rw [accepted_of_le failure] at failed
    cases failed
    rfl

theorem isEarly_of_decoded {codec : Json.Codec α} (failed : decoded codec response = .error error) :
    error.isEarly = false := by
  unfold decoded at failed
  split at failed
  · cases failed
  · cases failed
    rfl

theorem isEarly_of_readRequired {codec : Json.Codec α}
    (failed : readRequired codec response = .error error) : error.isEarly = false := by
  unfold readRequired at failed
  rcases Url.error_or_of_bind_eq_error failed with refused | ⟨found, _, failed⟩
  · exact isEarly_of_accepted refused
  · by_cases nothing : found.body.isEmpty = true
    · rw [if_pos nothing] at failed
      cases failed
      rfl
    · rw [if_neg nothing] at failed
      exact isEarly_of_decoded failed

theorem isEarly_of_readOptional {codec : Json.Codec α}
    (failed : readOptional codec method response = .error error) : error.isEarly = false := by
  unfold readOptional at failed
  split at failed
  · cases failed
  · rcases Url.error_or_of_bind_eq_error failed with refused | ⟨found, _, failed⟩
    · exact isEarly_of_accepted refused
    · split at failed
      · cases failed
      · exact isEarly_of_decoded (error_of_map_eq_error failed)

theorem isEarly_of_readText (failed : readText method response = .error error) :
    error.isEarly = false := by
  unfold readText at failed
  split at failed
  · cases failed
  · rcases Url.error_or_of_bind_eq_error failed with refused | ⟨found, _, failed⟩
    · exact isEarly_of_accepted refused
    · cases failed

/-- A reply that cannot be read is no early failure. -/
theorem isEarly_of_read {reply : Reply α} (failed : reply.read method response = .error error) :
    error.isEarly = false := by
  cases reply with
  | required codec => exact isEarly_of_readRequired failed
  | optional codec => exact isEarly_of_readOptional failed
  | listing codec => exact isEarly_of_readOptional (error_of_map_eq_error failed)
  | parts codec select part => exact isEarly_of_readOptional (error_of_map_eq_error failed)
  | unit => exact isEarly_of_accepted (error_of_map_eq_error failed)
  | text => exact isEarly_of_readText failed
  | raw => cases failed

end

end Client

/-! ## Failures of a call -/

/-- How a call fails: its request is refused, or it fails on its way, or the reply to it cannot be
read. -/
inductive Client.CallFails (client : Client) (call : Call) (options : Options)
    (network : Network) : Error → List Message → Prop
  | refused {error : Error} (asked : call.operation.request options = .error error) :
      CallFails client call options network error []
  | sending {request : Request} {error : Error} {sent : List Message}
      (asked : call.operation.request options = .ok request)
      (fails : client.FailsBy request options network error sent) :
      CallFails client call options network error sent
  | reading {error : Error} (late : error.isEarly = false) (sent : List Message) :
      CallFails client call options network error sent

theorem Client.call_fails (client : Client) (call : Call) (options : Options) (network : Network)
    {error : Error} (failed : (client.call call options network).result = .error error) :
    client.CallFails call options network error (client.call call options network).messages := by
  unfold Client.call Client.perform at failed ⊢
  cases asked : call.operation.request options with
  | error cause =>
      rw [asked, known_error_bind, Talk.outcome_known] at failed
      cases failed
      rw [known_error_bind, Talk.outcome_known]
      exact .refused asked
  | ok request =>
      rw [asked, known_ok_bind, ask] at failed
      rw [known_ok_bind, ask, Talk.messages_bind_known]
      cases ended : ((client.send request options).outcome network).result with
      | error cause =>
          rw [Talk.outcome_bind_error _ ended] at failed
          cases failed
          exact .sending asked (failsBy_of_send ended)
      | ok response =>
          rw [Talk.outcome_bind_ok _ ended, Talk.outcome_known] at failed
          exact .reading (isEarly_of_read failed) _

theorem Need.failure_ne_location (operation : String) (need : Need) (location : String)
    (cause : UrlError) : need.failure operation ≠ .invalidArgument (.location location cause) := by
  cases need <;> nofun

theorem Need.failure_ne_configuration (operation : String) (need : Need) (cause : InvalidConfig) :
    need.failure operation ≠ .configuration cause := by
  cases need <;> nofun

/-- A refused request misses a parameter, or has a transaction type or an item that is not
accepted. -/
theorem Call.exists_failure_of_request {call : Call} {options : Options} {error : Error}
    (asked : call.operation.request options = .error error) :
    ∃ operation need, error = Need.failure operation need := by
  obtain ⟨checklist, _, refused⟩ := (call.request_eq_error_iff options error).1 asked
  obtain ⟨_, need, _, _, _, isFailure, _⟩ := firstRefusal?_eq_some_iff.1 refused
  exact ⟨checklist.operation, need, isFailure⟩

section

variable (client : Client) (call : Call) (options : Options) (network : Network)

/-- A call fails for the place of an object just where it has created one at a place that does not
resolve. -/
theorem result_eq_location_iff (location : String) (cause : UrlError) :
    (client.call call options network).result = .error (.invalidArgument (.location location cause)) ↔
      ∃ request, call.operation.request options = .ok request ∧
        client.Strands request options network location cause := by
  constructor
  · intro failed
    have fails := client.call_fails call options network failed
    generalize (client.call call options network).messages = sent at fails
    cases fails with
    | refused asked =>
        obtain ⟨operation, need, isFailure⟩ := Call.exists_failure_of_request asked
        exact absurd isFailure.symm (need.failure_ne_location operation location cause)
    | sending asked fails =>
        cases fails with
        | location strands => exact ⟨_, asked, strands⟩
    | reading late => cases late
  · rintro ⟨request, asked, strands⟩
    unfold Client.call Client.perform
    rw [asked, known_ok_bind, ask, Talk.outcome_bind, strands.outcome_send]

/-- A refused call has sent nothing, unless it is refused for a place that the server has named. -/
theorem messages_eq_nil_iff {error : Error}
    (failed : (client.call call options network).result = .error error)
    (refusal : error.isRefusal = true) :
    (client.call call options network).messages = [] ↔ error.isUnresolved = false := by
  have fails := client.call_fails call options network failed
  generalize (client.call call options network).messages = sent at fails ⊢
  cases fails with
  | refused asked =>
      obtain ⟨operation, need, rfl⟩ := Call.exists_failure_of_request asked
      cases need <;> exact iff_of_true rfl rfl
  | sending asked fails =>
      cases fails with
      | path cause => exact iff_of_true rfl rfl
      | location strands => exact iff_of_false strands.messages_ne_nil nofun
      | http | missingLocation => cases refusal
  | reading late =>
      cases error with
      | missingParameter | invalidArgument | configuration => cases late
      | _ => cases refusal

/-- A configuration that was accepted is not refused by a call. -/
theorem result_ne_configuration (cause : InvalidConfig) :
    (client.call call options network).result ≠ .error (.configuration cause) := by
  intro failed
  have fails := client.call_fails call options network failed
  generalize (client.call call options network).messages = sent at fails
  cases fails with
  | refused asked =>
      obtain ⟨operation, need, isFailure⟩ := Call.exists_failure_of_request asked
      exact need.failure_ne_configuration operation cause isFailure.symm
  | sending asked fails => cases fails
  | reading late => cases late

/-- A call that is refused has sent nothing, unless the server has named a place that does not
resolve; that happens just where an object has been created and is to be fetched. A configuration
that was accepted is never refused. -/
theorem call_refused :
    (∀ error, (client.call call options network).result = .error error →
      error.isRefusal = true →
        ((client.call call options network).messages = [] ↔ error.isUnresolved = false)) ∧
    (∀ location cause, (client.call call options network).result =
        .error (.invalidArgument (.location location cause)) ↔
      ∃ request, call.operation.request options = .ok request ∧
        client.Strands request options network location cause) ∧
    ∀ cause, (client.call call options network).result ≠ .error (.configuration cause) :=
  ⟨fun _ => messages_eq_nil_iff client call options network,
    result_eq_location_iff client call options network,
    result_ne_configuration client call options network⟩

/-- Without an author an account is not asked for. With one it is created, at a place whose host is
not closed, and the call is refused for that after all. -/
theorem call_refused_unresolved :
    let call := Call.account (.create {})
    let network := Network.answering [createdAt "http://["]
    let refused := standard.call call {} network
    let stranded := standard.call call { createdBy := some "me" } network
    (refused.result = .error (.missingParameter "createdBy" "create_account") ∧
      refused.messages = []) ∧
      stranded.result = .error (.invalidArgument (.location "http://[" .invalidIpv6)) ∧
        stranded.messages ≠ [] := by
  intro call network refused stranded
  have law (options : Options) := call_refused standard call options network
  have isRefused : refused.result = .error (.missingParameter "createdBy" "create_account") := rfl
  let request : Request := { Operation.asking .post ["accounts"] with
    body := some (.json Domain.Account.codec {})
    followsLocation := true }
  have strands : standard.Strands request { createdBy := some "me" } network "http://["
      .invalidIpv6 := by
    refine ⟨rfl, ⟨createdAt "http://[", eq_ok_of_toOption (by decide +kernel), rfl,
      by decide +kernel⟩, ?_⟩
    refine ⟨⟨"http", some ⟨"", "", .ipv4 0x7F000001, some 8080⟩, .segments [""], none, none⟩,
      eq_ok_of_toOption (by decide +kernel), ?_⟩
    rfl
  have isStranded : stranded.result =
      .error (.invalidArgument (.location "http://[" .invalidIpv6)) :=
    ((law _).2.1 _ _).2 ⟨request, rfl, strands⟩
  refine ⟨⟨isRefused, ((law _).1 _ isRefused rfl).2 rfl⟩, isStranded, ?_⟩
  intro nothing
  have isResolved := ((law _).1 _ isStranded rfl).1 nothing
  cases isResolved

/-- A call fails for a missing parameter just where that is the first of its needs that is not met,
and nothing is sent then. An author is the first need of each audited change and of the export of
the data of an account; other calls need nothing. -/
theorem call_missing_iff (parameter operation : String) :
    (call.checklist?.isSome = true ↔
      (call.isAudited = true ∧ call.operation.Changes) ∨ ∃ id, call = .account (.exportData id)) ∧
    ((client.call call options network).result = .error (.missingParameter parameter operation) ↔
      ∃ checklist, call.checklist? = some checklist ∧ checklist.operation = operation ∧
        ∃ before after, checklist.all options = before ++ .given parameter false :: after ∧
          ∀ need ∈ before, need.isMet = true) ∧
    ((client.call call options network).result = .error (.missingParameter parameter operation) →
      (client.call call options network).messages = []) := by
  refine ⟨call.needsAuthor_iff, ⟨fun failed => ?_, ?_⟩, fun failed => ?_⟩
  · have fails := client.call_fails call options network failed
    generalize (client.call call options network).messages = sent at fails
    cases fails with
    | refused asked =>
        obtain ⟨checklist, isChecklist, refused⟩ := (call.request_eq_error_iff options _).1 asked
        obtain ⟨before, need, after, whole, unmet, isFailure, earlier⟩ :=
          firstRefusal?_eq_some_iff.1 refused
        cases need with
        | given parameter isGiven =>
            cases isFailure
            cases unmet
            exact ⟨checklist, isChecklist, rfl, before, after, whole, earlier⟩
        | startsPayment | ownedBy => cases isFailure
    | sending asked fails => cases fails
    | reading late => cases late
  · rintro ⟨checklist, isChecklist, rfl, before, after, whole, earlier⟩
    have asked := (call.request_eq_error_iff options _).2 ⟨checklist, isChecklist,
      firstRefusal?_eq_some_iff.2 ⟨before, _, after, whole, rfl, rfl, earlier⟩⟩
    unfold Client.call Client.perform
    rw [asked, known_error_bind, Talk.outcome_known]
    rfl
  · exact (messages_eq_nil_iff client call options network failed rfl).2 rfl

/-- An address is missed after the account that it is of. -/
theorem call_missing_email :
    let call := Call.account (.removeEmail { accountId := some default })
    let outcome := standard.call call { createdBy := some "me" } .unreachable
    outcome.result = .error (.missingParameter "email" "remove_email") ∧ outcome.messages = [] := by
  intro call outcome
  have law := call_missing_iff standard call { createdBy := some "me" } .unreachable "email"
    "remove_email"
  have missed := law.2.1.2 ⟨_, rfl, rfl,
    [.given "createdBy" true, .given "accountId" true], [], rfl, by decide⟩
  exact ⟨missed, law.2.2 missed⟩

/-- A payment that is to start with a capture, and has no amount, is refused for its type. -/
theorem startPayment_refuses_capture :
    let transaction : Domain.PaymentTransaction := { transactionType := some .capture }
    let outcome := standard.call (.account (.startPayment default transaction none []))
      { createdBy := some "me" } .unreachable
    transaction.amount = none ∧
      outcome.result = .error (.invalidArgument (.transactionType .capture)) ∧
      outcome.result ≠ .error (.missingParameter "amount" "process_payment") := by
  intro transaction outcome
  have refused : outcome.result = .error (.invalidArgument (.transactionType .capture)) := rfl
  refine ⟨rfl, refused, ?_⟩
  rw [refused]
  nofun

end

end BillingClient
