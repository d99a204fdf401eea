import BillingClient.Proofs.Call.Author
import BillingClient.Proofs.Call.Delivery
import BillingClient.Proofs.Call.Origin
import BillingClient.Proofs.Text.Base64
import BillingClient.Proofs.Url.User

/-!
Contract: requests are made in the name of one user.

Where no URL has a user of its own, the first message of either exchange of a call carries the
credentials of the options, those of the configuration in place of what the options leave out, and
no others. Main statement: `send_authenticates`.
-/

namespace BillingClient

open BillingClient.Client
open BillingClient.Http
open BillingClient.Text

/-! ## Credentials -/

namespace Http

/-- The bytes that credentials stand for. -/
def credentialBytes (user password : String) : List UInt8 :=
  Utf8.encode user ++ 0x3A :: Utf8.encode password

/-- Whether some digits are the only credentials of a message, for a user and a password: padded
Base64 for their bytes with a colon between. The first colon divides them, if the user has none. -/
structure Authenticates (user password : String) (digits : List Char) (message : Message) :
    Prop where
  only : Header.values message.headers "authorization" = ["Basic " ++ String.ofList digits]
  padded : digits.length % 4 = 0
  decoded : Base64.decode? digits = some (credentialBytes user password)
  divided : ':' ∉ user.toList →
    Form.divideAt 0x3A (credentialBytes user password) =
        (Utf8.encode user, Utf8.encode password) ∧
      Utf8.decode? (Utf8.encode user) = some user ∧
      Utf8.decode? (Utf8.encode password) = some password

theorem encode_credentials (user password : String) :
    Utf8.encode (user ++ ":" ++ password) = credentialBytes user password := by
  have colon : Utf8.encode ":" = [0x3A] := by decide +kernel
  rw [Utf8.encode_append, Utf8.encode_append, colon, List.append_assoc, List.singleton_append]
  rfl

theorem divideAt_credentialBytes {user : String} (noColon : ':' ∉ user.toList)
    (password : String) :
    Form.divideAt 0x3A (credentialBytes user password) =
      (Utf8.encode user, Utf8.encode password) := by
  have absent : 0x3A ∉ Utf8.encode user := fun byteIn =>
    noColon (@mem_of_ofNat_mem_flatMap ':' _ (by decide) byteIn)
  exact Form.divideAt_append_cons 0x3A absent _

theorem exists_authenticates {user password : String} {message : Message}
    (only : Header.values message.headers "authorization" = [basicCredentials user password]) :
    ∃ digits, Authenticates user password digits message := by
  refine ⟨_, only, ?_, ?_, fun noColon => ?_⟩
  · rw [Base64.length_encode, Nat.mul_mod_left]
  · rw [Base64.decode?_encode, encode_credentials]
  · exact ⟨divideAt_credentialBytes noColon password, Utf8.decode?_encode user,
      Utf8.decode?_encode password⟩

end Http

/-! ## The authorization in the headers -/

namespace Client

variable (client : Client) (request : Request) {options : Options} {url : Url}

/-- The credentials of a call. -/
def credentials (options : Options) : String :=
  basicCredentials (options.user.getD client.config.username)
    (options.password.getD client.config.password)

theorem values_identityHeaders (accept : String) (options : Options) :
    Header.values (Header.written (client.identityHeaders accept options)) "authorization" =
      [client.credentials options] := by
  have authorization : "Authorization".toLower = "authorization" := by decide +kernel
  have accepts : "Accept".toLower ≠ "authorization" := by decide +kernel
  have apiKey : "X-Killbill-ApiKey".toLower ≠ "authorization" := by decide +kernel
  have apiSecret : "X-Killbill-ApiSecret".toLower ≠ "authorization" := by decide +kernel
  have requestId : "X-Request-Id".toLower ≠ "authorization" := by decide +kernel
  unfold identityHeaders
  simp only [Header.written_append, Header.values_append, values_headerOf, if_neg apiKey,
    if_neg apiSecret, if_neg requestId, List.append_nil]
  rw [Header.values_written]
  simp [authorization, accepts, credentials]

section

variable (noUser : url.HasNoUser)
  (unnamed : ∀ pair ∈ options.headers, pair.1.toLower ≠ "authorization")

include noUser unnamed

theorem values_followUpMessage :
    Header.values (client.followUpMessage request options url).headers "authorization" =
      [client.credentials options] := by
  unfold followUpMessage
  simp only [Header.values_append, noUser.urlHeaders_eq_nil, values_identityHeaders,
    values_written_eq_nil unnamed, values_agentHeaders (by decide : "user-agent" ≠ "authorization"),
    List.append_nil]
  rfl

theorem values_authorization_primaryMessage :
    Header.values (client.primaryMessage request options url).headers "authorization" =
      [client.credentials options] := by
  have audit : ∀ name ∈ auditNames, name.toLower ≠ "authorization" := by decide +kernel
  have contentType : "Content-Type".toLower ≠ "authorization" := by decide +kernel
  unfold primaryMessage
  simp only [Header.values_append, noUser.urlHeaders_eq_nil, values_identityHeaders,
    values_written_eq_nil fun pair pairIn => audit pair.1 (name_mem_auditNames pairIn),
    values_written_eq_nil unnamed, values_headerOf, if_neg contentType,
    values_agentHeaders (by decide : "user-agent" ≠ "authorization"), List.append_nil]
  rfl

end

/-! ## URLs -/

/-- Whether the URL of a request, if it is one, has no user. -/
def AsksWithoutUser : Prop :=
  ∀ url, Url.parse (client.config.baseUrl ++ request.path) = .ok url → url.HasNoUser

/-- Whether the place that a response names, if it is one, has no user. -/
def IsLedWithoutUser (response : Response) : Prop :=
  ∀ location base url, response.header? "location" = some location →
    Url.parse client.config.baseUrl = .ok base → base.resolve location = .ok url → url.HasNoUser

variable {client} {request} {server : Url} (validated : client.config.validate = .ok server)
  (noUser : server.HasNoUser)

include validated noUser

/-- No path has a user. -/
theorem asksWithoutUser (rooted : ∃ rest, request.path.toList = '/' :: rest) :
    client.AsksWithoutUser request := by
  obtain ⟨_, _, _, paths⟩ := client.exists_base_server validated
  intro url parsed
  obtain ⟨_, sameAuthority⟩ :=
    paths request.path _ {} rooted ((client.urlOf_eq_ok_iff _ _ _).2 ⟨url, parsed, rfl⟩)
  exact noUser.of_authority_eq sameAuthority

/-- No place without `@` has a user. -/
theorem isLedWithoutUser {response : Response}
    (unmarked : ∀ location, response.header? "location" = some location →
      '@' ∉ location.toList) : client.IsLedWithoutUser response := by
  obtain ⟨found, isFound, ⟨_, sameAuthority⟩, _⟩ := client.exists_base_server validated
  intro location base url named isBase resolves
  cases isFound.symm.trans isBase
  exact Url.hasNoUser_resolve (noUser.of_authority_eq sameAuthority) (unmarked location named)
    resolves

end Client

/-! ## Exchanges -/

/-- The first message of either exchange has one authorization: the credentials of the options,
with those of the configuration in place of what is left out. This takes a server URL without a
user, options without an authorization, and no user in the URL of the request and in the place that
its response names. Paths have none, so calls have none, and neither do places without `@`. -/
theorem send_authenticates (client : Client) {server : Url}
    (validated : client.config.validate = .ok server) (noUser : server.HasNoUser)
    (request : Request) (options : Options)
    (unnamed : ∀ pair ∈ options.headers, pair.1.toLower ≠ "authorization") (network : Network) :
    let primary := (client.primaryTalk request options).outcome network
    let sent := ((client.send request options).outcome network).messages
    let user := options.user.getD client.config.username
    let password := options.password.getD client.config.password
    (client.AsksWithoutUser request → ∀ message, sent.head? = some message →
      ∃ digits, Authenticates user password digits message) ∧
    (∀ response, primary.result = .ok response → client.IsLedWithoutUser response →
      ∀ message, (sent.drop primary.messages.length).head? = some message →
        ∃ digits, Authenticates user password digits message) ∧
    ((∃ rest, request.path.toList = '/' :: rest) → client.AsksWithoutUser request) ∧
    (∀ response : Response, (∀ location, response.header? "location" = some location →
      '@' ∉ location.toList) → client.IsLedWithoutUser response) ∧
    ∀ call : Call, call.operation.request options = .ok request →
      (client.call call options network).messages = sent ∧ client.AsksWithoutUser request := by
  intro primary sent user password
  refine ⟨fun asksWithoutUser message first => ?_,
    fun response ended ledWithoutUser message second => ?_,
    asksWithoutUser validated noUser, fun response => isLedWithoutUser validated noUser,
    fun call asked => ⟨messages_call client asked network,
      asksWithoutUser validated noUser (Call.exists_path_eq asked)⟩⟩
  · obtain ⟨url, made, drafted⟩ := exists_of_head?_messages_send client first
    obtain ⟨_, _, rfl⟩ := (message_primary_eq_ok_iff client request options url _).1 drafted
    obtain ⟨parsed, isParsed, rfl⟩ := (client.urlOf_eq_ok_iff request.path _ url).1 made
    have noneInUrl := (asksWithoutUser parsed isParsed).appendPairs
      (options.query ++ request.query).pairs
    exact exists_authenticates
      (client.values_authorization_primaryMessage request noneInUrl unnamed)
  · rw [drop_messages_send ended] at second
    have fetches := fetches_fetchTalk client request options response
    generalize client.fetchTalk request options response = talk at fetches second
    cases fetches with
    | kept | unnamed | refused =>
        rw [Talk.outcome_known] at second
        cases second
    | @fetched location target asked created named leads =>
        rw [head?_messages_sendDraft] at second
        obtain ⟨_, _, rfl⟩ := (message_followUp_eq_ok_iff client request options target _).1
          (eq_ok_of_sentFirst? second)
        obtain ⟨base, resolved, isBase, resolves, rfl⟩ :=
          (locationUrl_eq_ok_iff client location _ target).1 leads
        have noneInUrl := (ledWithoutUser location base resolved named isBase resolves).appendPairs
          options.followQuery.pairs
        exact exists_authenticates (client.values_followUpMessage request noneInUrl unnamed)

/-- A user of two bytes and a password with a colon create an object and fetch it. -/
theorem send_authenticates_creation :
    let options : Options := { user := some "ü", password := some "p:w" }
    let network := Network.answering [createdAt "/1.0/kb/accounts/7", ⟨200, [], []⟩]
    ∃ first second, ((standard.send creation options).outcome network).messages = [first, second] ∧
      (∃ digits, Authenticates "ü" "p:w" digits first) ∧
      ∃ digits, Authenticates "ü" "p:w" digits second := by
  intro options network
  have ended : ((standard.primaryTalk creation options).outcome network).result =
      .ok (createdAt "/1.0/kb/accounts/7") := eq_ok_of_toOption (by decide +kernel)
  have one : ((standard.primaryTalk creation options).outcome network).messages.length = 1 := by
    decide +kernel
  have two : ((standard.send creation options).outcome network).messages.length = 2 := by
    decide +kernel
  have validated : standard.config.validate =
      .ok ⟨"http", some ⟨"", "", .ipv4 0x7F000001, some 8080⟩, .segments [""], none, none⟩ :=
    eq_ok_of_toOption (by decide +kernel)
  have noUser : Url.HasNoUser
      ⟨"http", some ⟨"", "", .ipv4 0x7F000001, some 8080⟩, .segments [""], none, none⟩ := by
    intro authority isAuthority
    cases isAuthority
    exact ⟨rfl, rfl⟩
  obtain ⟨primary, fetched, rooted, unmarked, _⟩ :=
    send_authenticates standard validated noUser creation options (List.forall_mem_nil _) network
  obtain ⟨first, second, messages⟩ := List.length_eq_two.1 two
  rw [messages] at primary fetched
  rw [one] at fetched
  refine ⟨first, second, messages, primary (rooted ⟨_, rfl⟩) first rfl, ?_⟩
  refine fetched _ ended (unmarked _ fun location named => ?_) second rfl
  have isNamed : (createdAt "/1.0/kb/accounts/7").header? "location" =
      some "/1.0/kb/accounts/7" := by
    decide +kernel
  cases isNamed.symm.trans named
  decide

end BillingClient
