import BillingClient.Call.Basic
import BillingClient.Proofs.Client.FollowUp

/-!
Contract: who asks, and for which tenant.

The options of a call may give a user, a password, a key and a secret of the tenant, each in place
of the configured one. What is given there hides what is configured. Main statement:
`call_eq_of_agreeUnder`.
-/

namespace BillingClient

open BillingClient.Client
open BillingClient.Domain
open BillingClient.Http

namespace Client

/-! ## Configurations -/

/-- Whether two configurations differ at most in what some options give in its place. -/
structure Config.AgreeUnder (options : Options) (left right : Config) : Prop where
  serverUrl : left.serverUrl = right.serverUrl
  username : options.user = none → left.username = right.username
  password : options.password = none → left.password = right.password
  apiKey : options.tenantApiKey = none → left.apiKey = right.apiKey
  apiSecret : options.tenantApiSecret = none → left.apiSecret = right.apiSecret
  connectTimeoutSeconds : left.connectTimeoutSeconds = right.connectTimeoutSeconds
  requestTimeoutSeconds : left.requestTimeoutSeconds = right.requestTimeoutSeconds
  userAgent : left.userAgent = right.userAgent

/-- What is given in place of either of two values hides how they differ. -/
theorem getD_eq_of_hidden {α : Type} {given : Option α} {left right : α}
    (same : given = none → left = right) : given.getD left = given.getD right := by
  cases given with
  | none => exact same rfl
  | some value => rfl

theorem or_eq_of_hidden {α : Type} {given left right : Option α} (same : given = none → left = right) :
    given.or left = given.or right := by
  cases given with
  | none => exact same rfl
  | some value => rfl

section

variable {left right : Client} {options : Options}
  (agree : Config.AgreeUnder options left.config right.config)

include agree

/-! ## What is sent -/

/-- The headers that say who asks read each configured value behind the one in its place. -/
theorem identityHeaders_congr (accept : String) :
    left.identityHeaders accept options = right.identityHeaders accept options := by
  unfold identityHeaders
  dsimp only
  rw [getD_eq_of_hidden agree.username, getD_eq_of_hidden agree.password, or_eq_of_hidden agree.apiKey,
    or_eq_of_hidden agree.apiSecret]

theorem baseUrl_congr : left.config.baseUrl = right.config.baseUrl := by
  unfold Config.baseUrl
  rw [agree.serverUrl]

theorem sendDraft_congr (draft : Draft) : left.sendDraft draft = right.sendDraft draft := by
  unfold sendDraft
  rw [agree.userAgent]

theorem primaryTalk_congr (request : Request) :
    left.primaryTalk request options = right.primaryTalk request options := by
  have sameUrl : left.urlOf request.path (options.query ++ request.query) =
      right.urlOf request.path (options.query ++ request.query) := by
    unfold urlOf
    rw [baseUrl_congr agree]
  have sameDraft (url : Url) :
      left.primary request options url = right.primary request options url := by
    unfold primary
    rw [identityHeaders_congr agree]
  unfold primaryTalk
  simp only [sameUrl, sameDraft, sendDraft_congr agree]

theorem fetchTalk_congr (request : Request) (response : Response) :
    left.fetchTalk request options response = right.fetchTalk request options response := by
  have samePlace (location : String) : left.locationUrl location options.followQuery =
      right.locationUrl location options.followQuery := by
    unfold locationUrl
    rw [baseUrl_congr agree]
  have sameDraft (url : Url) :
      left.followUp request options url = right.followUp request options url := by
    unfold followUp
    rw [identityHeaders_congr agree]
  unfold fetchTalk
  simp only [samePlace, sameDraft, sendDraft_congr agree]

theorem send_congr (request : Request) :
    left.send request options = right.send request options := by
  have sameFetch : left.fetchTalk request options = right.fetchTalk request options := by
    funext response
    exact fetchTalk_congr agree request response
  rw [send_eq, send_eq, primaryTalk_congr agree, sameFetch]

end

end Client

/-! ## Calls -/

/-- Clients whose configurations differ only in what the options give in its place send the same
messages for a call, on any network, and come to the same result. -/
theorem call_eq_of_agreeUnder {left right : Client} {options : Options}
    (agree : Config.AgreeUnder options left.config right.config) (call : Call)
    (network : Network) :
    left.call call options network = right.call call options network := by
  have sameTalk : left.perform call options = right.perform call options := by
    unfold Client.perform Client.ask
    simp only [send_congr agree]
  unfold Client.call
  rw [sameTalk]

/-- A client of another user and another tenant creates and fetches a tag definition just as the
standard one does, when the options name the user and the key of the tenant. -/
theorem call_eq_of_agreeUnder_created :
    let other : Client :=
      { config := { username := "other", apiKey := some "other" }
        isAccepted := eq_ok_of_toOption (by decide +kernel) }
    let options : Options :=
      { user := some "me", tenantApiKey := some "mine", createdBy := some "me" }
    let call := Call.tagDefinition (.create { name := some "name" })
    let network := Network.answering [createdAt "/1.0/kb/tagDefinitions/7", ⟨404, [], []⟩]
    (standard.call call options network).messages.length = 2 ∧
      standard.call call options network = other.call call options network := by
  intro other options call network
  have agree : Config.AgreeUnder options standard.config other.config := by
    constructor
    case username | apiKey => rintro ⟨⟩
    all_goals intros; rfl
  exact ⟨by decide +kernel, call_eq_of_agreeUnder agree call network⟩

end BillingClient
