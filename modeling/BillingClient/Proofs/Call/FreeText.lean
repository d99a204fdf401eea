import BillingClient.Proofs.Call.Operation
import BillingClient.Proofs.Client.FirstMessage
import BillingClient.Proofs.Client.Resource
import BillingClient.Proofs.Vocabulary.Uuid

/-!
Contract: calls that put a text of the caller into their path.

The text is the last segment of the path, unless it is `.` or `..`, which move in the path
instead of standing in it. Main statement: `call_leadsTo_iff`.
-/

namespace BillingClient

open BillingClient.Client
open BillingClient.Http
open BillingClient.Operation (request_of_authored)
open BillingClient.Text
open BillingClient.Url
open BillingClient.Vocabulary

/-! ## The calls -/

/-- The fixed segments of a call after those of every resource, and the text that follows them,
for the calls that put a text into their path. -/
def Call.freeText? : Call → Option (List String × String)
  | .account (.search key _ _) => some (["accounts", "search"], key)
  | .account (.removeEmail email) => do
    let id ← email.accountId
    let address ← email.email
    some (["accounts", id.text, "emails"], address)
  | .bundle (.search key _ _) => some (["bundles", "search"], key)
  | .invoice (.search key _ _) => some (["invoices", "search"], key)
  | .payment (.search key _ _ _) => some (["payments", "search"], key)
  | .paymentMethod (.search key _ _ _ _) => some (["paymentMethods", "search"], key)
  | .tag (.search key _ _) => some (["tags", "search"], key)
  | .customField (.search key _ _) => some (["customFields", "search"], key)
  | .gateway (.notify _ name _) => some (["paymentGateways", "notification"], name)
  | .usage (.get id unitType _ _) => some (["usages", id.text], unitType)
  | .tenant (.uploadPluginConfiguration name _) => some (["tenants", "uploadPluginConfig"], name)
  | .tenant (.pluginConfiguration name) => some (["tenants", "uploadPluginConfig"], name)
  | .tenant (.deletePluginConfiguration name) => some (["tenants", "uploadPluginConfig"], name)
  | _ => none

theorem isFixedSegment_text {kind : ObjectKind} (id : Identifier kind) :
    IsFixedSegment id.text := by
  have digits : ∀ digit < 16, (lowerHexDigit digit).toNat < 0x80 ∧
      Form.isPlain (lowerHexDigit digit) = true := by decide
  have length : id.text.toList.length = 36 := Uuid.length_text id.uuid
  constructor
  · unfold Form.isPlainText
    rw [List.all_eq_true]
    intro c charIn
    rcases Uuid.mem_text charIn with rfl | ⟨digit, small, rfl⟩
    · decide
    · simpa using digits digit small
  · intro dot
    rw [dot] at length
    contradiction
  · intro dots
    rw [dots] at length
    contradiction

section

variable {α : Type} {reply : Reply α} {options : Options} {request : Request} {name : String}
  {fixed : List String} {text : String}

/-- Whether a request is for a resource of fixed segments and a text. -/
def IsFor (request : Request) (fixed : List String) (text : String) : Prop :=
  request.path = Request.resource (fixed ++ [text]) ∧ ∀ segment ∈ fixed, IsFixedSegment segment

theorem isFor_of_lookup {query : Query}
    (asked : (Operation.lookup (fixed ++ [text]) query reply).request options = .ok request)
    (areFixed : ∀ segment ∈ fixed, IsFixedSegment segment) : IsFor request fixed text := by
  cases asked
  exact ⟨rfl, areFixed⟩

theorem isFor_of_authored {made : Request}
    (asked : (Operation.authored name (.ok made) reply).request options = .ok request)
    (path : made.path = Request.resource (fixed ++ [text]))
    (areFixed : ∀ segment ∈ fixed, IsFixedSegment segment) : IsFor request fixed text := by
  cases request_of_authored asked
  exact ⟨path, areFixed⟩

theorem isFor_of_removeEmail {email : Domain.AccountEmail}
    (isFree : (Call.account (.removeEmail email)).freeText? = some (fixed, text))
    (asked : (Call.account (.removeEmail email)).operation.request options = .ok request) :
    IsFor request fixed text := by
  obtain ⟨id, isId, isFree⟩ := Option.bind_eq_some_iff.1 isFree
  obtain ⟨address, isAddress, isFree⟩ := Option.bind_eq_some_iff.1 isFree
  have made := request_of_authored asked
  rw [isId, isAddress] at made
  cases isFree
  cases made
  refine ⟨rfl, ?_⟩
  rw [List.forall_mem_cons, List.forall_mem_cons, List.forall_mem_singleton]
  exact ⟨by decide, isFixedSegment_text id, by decide⟩

/-- A call that puts a text into its path asks for the resource of the text. -/
theorem isFor_of_freeText {call : Call} (isFree : call.freeText? = some (fixed, text))
    (asked : call.operation.request options = .ok request) : IsFor request fixed text := by
  cases call with
  | account call =>
      cases call with
      | search key page audit =>
          cases isFree
          exact isFor_of_lookup asked (by decide)
      | removeEmail email => exact isFor_of_removeEmail isFree asked
      | _ => cases isFree
  | bundle call =>
      cases call with
      | search key page audit =>
          cases isFree
          exact isFor_of_lookup asked (by decide)
      | _ => cases isFree
  | invoice call =>
      cases call with
      | search key page audit =>
          cases isFree
          exact isFor_of_lookup asked (by decide)
      | _ => cases isFree
  | payment call =>
      cases call with
      | search key page plugin lookup =>
          cases isFree
          exact isFor_of_lookup asked (by decide)
      | _ => cases isFree
  | paymentMethod call =>
      cases call with
      | search key page plugin withPluginInfo audit =>
          cases isFree
          exact isFor_of_lookup asked (by decide)
      | _ => cases isFree
  | tag call =>
      cases call with
      | search key page audit =>
          cases isFree
          exact isFor_of_lookup asked (by decide)
      | _ => cases isFree
  | customField call =>
      cases call with
      | search key page audit =>
          cases isFree
          exact isFor_of_lookup asked (by decide)
      | _ => cases isFree
  | gateway call =>
      cases call with
      | notify notification plugin properties =>
          cases isFree
          exact isFor_of_authored asked rfl (by decide)
      | _ => cases isFree
  | usage call =>
      cases call with
      | get id unitType start finish =>
          cases isFree
          refine isFor_of_lookup asked ?_
          rw [List.forall_mem_cons, List.forall_mem_singleton]
          exact ⟨by decide, isFixedSegment_text id⟩
      | _ => cases isFree
  | tenant call =>
      cases call with
      | uploadPluginConfiguration plugin configuration =>
          cases isFree
          exact isFor_of_authored asked rfl (by decide)
      | pluginConfiguration plugin =>
          cases isFree
          exact isFor_of_lookup asked (by decide)
      | deletePluginConfiguration plugin =>
          cases isFree
          exact isFor_of_authored asked rfl (by decide)
      | _ => cases isFree
  | _ => cases isFree

end

/-! ## Where the calls lead -/

theorem pieces_target (url : Url) : (Draft.target url).pieces = url.pieces := by
  unfold Draft.target
  split
  · exact pieces_withoutUser url
  · rfl

theorem origin_target (url : Url) : (Draft.target url).origin = url.origin := by
  unfold Draft.target
  split
  · obtain ⟨scheme, authority, path, query, fragment⟩ := url
    cases authority <;> rfl
  · rfl

/-- A call that puts a text into its path goes to the server, and to the resource of the text
exactly when the text is neither `.` nor `..`. The first of these leads to the resource of the empty
text, the second to what is above the fixed segments. -/
theorem call_leadsTo_iff (client : Client) (call : Call) (options : Options) {request : Request}
    {fixed : List String} {text : String} (plain : IsPlainText client.config.serverUrl.toList)
    (isFree : call.freeText? = some (fixed, text))
    (asked : call.operation.request options = .ok request) :
    ∃ server own url, client.config.validate = .ok server ∧
      (∃ home, Url.parse (client.config.baseUrl ++ "/") = .ok home ∧ home.pieces = own ++ [""]) ∧
      client.urlOf request.path (options.query ++ request.query) = .ok url ∧
      (∀ network message, (client.call call options network).messages.head? = some message →
        message.url = Draft.target url) ∧
      (∀ responses message,
        (client.primary request options url).message client.config.userAgent = .ok message →
        (client.call call options (.answering responses)).messages.head? = some message) ∧
      (Draft.target url).origin = server.origin ∧
      (LeadsTo own (apiSegments ++ fixed) text (Draft.target url).pieces ↔
        text ≠ "." ∧ text ≠ "..") ∧
      (text = "." → (Draft.target url).pieces = own ++ (apiSegments ++ fixed) ++ [""]) ∧
      (text = ".." → (Draft.target url).pieces = own ++ (apiSegments ++ fixed).dropLast ++ [""]) := by
  obtain ⟨path, areFixed⟩ := isFor_of_freeText isFree asked
  obtain ⟨server, own, valid, home, urlOf⟩ := exists_urlOf_resource client plain
  obtain ⟨url, made, scheme, authority, pieces⟩ :=
    urlOf fixed text (options.query ++ request.query) areFixed
  rw [← path] at made
  have hasFixed : apiSegments ++ fixed ≠ [] := List.append_ne_nil_of_left_ne_nil (by decide) fixed
  refine ⟨server, own, url, valid, home, made, ?_, ?_, ?_, ?_, ?_, ?_⟩
  · intro network message first
    rw [head?_messages_call client asked made] at first
    exact url_of_sentFirst? first
  · intro responses message drafted
    rw [head?_messages_call client asked made, drafted]
    rfl
  · rw [origin_target]
    unfold origin port? kind host?
    rw [scheme, authority]
  · rw [pieces_target, pieces]
    exact leadsTo_reached_iff own text hasFixed
  · rintro rfl
    rw [pieces_target, pieces, reached, if_pos rfl]
  · rintro rfl
    rw [pieces_target, pieces, reached, if_neg (by decide), if_pos rfl,
      List.dropLast_append_of_ne_nil hasFixed]

/-- Accounts are searched for a key with a slash, a blank and a letter beyond ASCII. -/
theorem call_leadsTo_search :
    let call := Call.account (.search "a/b ü" {} .none)
    ∃ request url, call.operation.request {} = .ok request ∧
      standard.urlOf request.path request.query = .ok url ∧
      LeadsTo [] ["1.0", "kb", "accounts", "search"] "a/b ü" (Draft.target url).pieces := by
  intro call
  have plain : IsPlainText standard.config.serverUrl.toList := by
    constructor
    · rintro c ⟨⟩
      decide
    · rintro c ⟨⟩
      decide
    · decide
    · decide
  obtain ⟨server, own, url, _, ⟨home, parsed, homeIs⟩, made, _, _, _, leads, _⟩ :=
    call_leadsTo_iff standard call {} plain rfl rfl
  have root : (Url.parse (standard.config.baseUrl ++ "/")).toOption.map Url.pieces = some [""] := by
    decide +kernel
  rw [parsed] at root
  have ownNothing : own = [] := by
    have pieces : home.pieces = [""] := Option.some.inj root
    rw [homeIs] at pieces
    exact List.append_left_eq_self.1 pieces
  subst ownNothing
  exact ⟨_, url, rfl, made, leads.2 ⟨by decide, by decide⟩⟩

-- The address of the account is above that of its e-mails.
example :
    ((standard.call (.account (.removeEmail ⟨some default, some ".."⟩)) { createdBy := some "me" }
        (.answering [⟨204, [], []⟩])).messages.map fun message =>
      (message.method, message.url.text)) =
      [(.delete,
        "http://127.0.0.1:8080/1.0/kb/accounts/00000000-0000-0000-0000-000000000000/")] := by
  decide +kernel

end BillingClient
