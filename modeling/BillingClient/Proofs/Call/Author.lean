import BillingClient.Proofs.Call.Operation
import BillingClient.Proofs.Client.Exchanges

/-!
Contract: changes are made in somebody's name.

A change that has no author is not sent. One that has an author carries the audit trail of its
options, and so does every message that a redirect turns it into. Main statement: `call_isSigned`.
-/

namespace BillingClient

open BillingClient.Client
open BillingClient.Http

/-! ## The audit trail in the headers -/

namespace Client

/-- The names, as they are sent, of the headers that a client writes beside the audit trail. -/
def reservedNames : List String :=
  ["authorization", "accept", "x-killbill-apikey", "x-killbill-apisecret", "x-request-id",
    "content-type", "user-agent"]

theorem values_written_eq_nil {pairs : List (String × String)} {name : String}
    (others : ∀ pair ∈ pairs, pair.1.toLower ≠ name) :
    Header.values (Header.written pairs) name = [] := by
  rw [Header.values_written, List.map_eq_nil_iff, List.filter_eq_nil_iff]
  intro pair pairIn
  simpa using others pair pairIn

theorem values_headerOf (key name : String) (value : Option String) :
    Header.values (Header.written (headerOf key value)) name =
      if key.toLower = name then value.toList else [] := by
  rw [Header.values_written]
  unfold headerOf
  cases value with
  | none => simp
  | some value => by_cases same : key.toLower = name <;> simp [same]

theorem values_agentHeaders {name : String} (other : "user-agent" ≠ name) (agent : String)
    (pairs : List (String × String)) : Header.values (agentHeaders agent pairs) name = [] := by
  unfold agentHeaders
  split
  · rfl
  · exact Header.values_eq_nil (by simpa using other)

section

variable {name : String} (free : name ∉ reservedNames)

include free

theorem ne_of_toLower_mem_reservedNames {key : String} (reserved : key.toLower ∈ reservedNames) :
    key.toLower ≠ name := by
  rintro rfl
  exact free reserved

/-- What the first message of a call has under a name that is not reserved comes from the audit
trail and from the headers of the caller. -/
theorem values_primaryMessage (client : Client) (request : Request) (options : Options)
    (url : Url) :
    Header.values (client.primaryMessage request options url).headers name =
      Header.values (Header.written (auditHeaders options)) name ++
        Header.values (Header.written options.headers) name := by
  have identity : ∀ key ∈ identityNames, key.toLower ∈ reservedNames := by decide +kernel
  have authorization : "authorization".toLower ∈ reservedNames := by decide +kernel
  have contentType : "Content-Type".toLower ∈ reservedNames := by decide +kernel
  have byUrl : Header.values (Header.written (Draft.urlHeaders url)) name = [] := by
    refine values_written_eq_nil fun pair pairIn => ?_
    rw [Draft.name_of_mem_urlHeaders pairIn]
    exact ne_of_toLower_mem_reservedNames free authorization
  have byIdentity :
      Header.values (Header.written (client.identityHeaders request.accept options)) name = [] :=
    values_written_eq_nil fun pair pairIn =>
      ne_of_toLower_mem_reservedNames free (identity _ (name_mem_identityNames pairIn))
  have byContent : Header.values
      (Header.written (headerOf "Content-Type" (request.body.map Body.contentType))) name = [] := by
    rw [values_headerOf, if_neg (ne_of_toLower_mem_reservedNames free contentType)]
  have otherAgent : "user-agent" ≠ name := by
    rintro rfl
    exact free (by decide)
  unfold primaryMessage
  simp only [Header.values_append, byUrl, byIdentity, byContent, values_agentHeaders otherAgent,
    List.nil_append, List.append_nil]

end

/-- Whether the headers of a message sign it: with the author, the reason and the comment of some
options, each in front of the caller's own headers of that name. -/
structure IsSigned (options : Options) (author : String) (message : Message) : Prop where
  createdBy : Header.values message.headers "x-killbill-createdby" =
    author :: Header.values (Header.written options.headers) "x-killbill-createdby"
  reason : Header.values message.headers "x-killbill-reason" =
    options.reason.toList ++ Header.values (Header.written options.headers) "x-killbill-reason"
  comment : Header.values message.headers "x-killbill-comment" =
    options.comment.toList ++ Header.values (Header.written options.headers) "x-killbill-comment"

theorem isSigned_primaryMessage (client : Client) (request : Request) {options : Options}
    {author : String} (created : options.createdBy = some author) (url : Url) :
    IsSigned options author (client.primaryMessage request options url) := by
  have createdBy : "X-Killbill-CreatedBy".toLower = "x-killbill-createdby" := by decide +kernel
  have reason : "X-Killbill-Reason".toLower = "x-killbill-reason" := by decide +kernel
  have comment : "X-Killbill-Comment".toLower = "x-killbill-comment" := by decide +kernel
  have trail (name : String) : Header.values (Header.written (auditHeaders options)) name =
      (if "x-killbill-createdby" = name then [author] else []) ++
        (if "x-killbill-reason" = name then options.reason.toList else []) ++
        (if "x-killbill-comment" = name then options.comment.toList else []) := by
    unfold auditHeaders
    simp only [Header.written_append, Header.values_append, values_headerOf, createdBy, reason,
      comment, created, Option.toList_some]
  constructor
  · rw [values_primaryMessage (by decide), trail]
    simp
  · rw [values_primaryMessage (by decide), trail]
    simp
  · rw [values_primaryMessage (by decide), trail]
    simp

theorem IsSigned.redirected {options : Options} {author : String} {message : Message}
    (signed : IsSigned options author message) (status : Nat) (target : Url) :
    IsSigned options author (redirected message status target) where
  createdBy := by
    rw [values_redirected (by decide) (by decide) (by decide), signed.createdBy]
  reason := by
    rw [values_redirected (by decide) (by decide) (by decide), signed.reason]
  comment := by
    rw [values_redirected (by decide) (by decide) (by decide), signed.comment]

end Client

/-! ## The messages of a call -/

/-- Whether a message only looks something up, or is signed for some options. -/
def IsAccountedFor (options : Options) (message : Message) : Prop :=
  message.method = .get ∨ ∃ author, options.createdBy = some author ∧ IsSigned options author message

theorem isAccountedFor_outlivesRedirects (options : Options) :
    OutlivesRedirects (IsAccountedFor options) := by
  intro message response target _ _ accounted
  rcases method_redirected message response.status target with looksUp | sameMethod
  · exact .inl looksUp
  · rcases accounted with looksUp | ⟨author, created, signed⟩
    · exact .inl (sameMethod.trans looksUp)
    · exact .inr ⟨author, created, signed.redirected response.status target⟩

/-- No message of an audited call changes anything without an author. With one, every message that
changes something is signed, whatever the server does. -/
theorem call_isSigned (client : Client) {call : Call} (audited : call.isAudited = true)
    (options : Options) (network : Network) :
    (options.createdBy = none →
      ∀ message ∈ (client.call call options network).messages, message.method = .get) ∧
    ∀ author, options.createdBy = some author →
      ∀ message ∈ (client.call call options network).messages, message.method ≠ .get →
        IsSigned options author message := by
  have accounted : ∀ message ∈ (client.call call options network).messages,
      IsAccountedFor options message := by
    refine forall_mem_messages_call (isAccountedFor_outlivesRedirects options) client ?_ ?_ network
    · intro request url message asked _ drafted
      obtain ⟨_, _, rfl⟩ := (message_primary_eq_ok_iff client request options url message).1 drafted
      have accountable := Call.isAccountable audited
      cases isLookup : call.isLookup with
      | true => exact .inl ((Call.looksUp isLookup).method options request asked)
      | false =>
          rw [isLookup] at accountable
          obtain ⟨author, created⟩ :=
            Option.isSome_iff_exists.1 (accountable.2 options request asked)
          exact .inr ⟨author, created, isSigned_primaryMessage client request created url⟩
    · intro request location target message _ _ drafted
      obtain ⟨_, _, rfl⟩ :=
        (message_followUp_eq_ok_iff client request options target message).1 drafted
      exact .inl rfl
  constructor
  · intro anonymous message messageIn
    rcases accounted message messageIn with looksUp | ⟨author, created, _⟩
    · exact looksUp
    · rw [anonymous] at created
      cases created
  · intro author created message messageIn change
    rcases accounted message messageIn with looksUp | ⟨other, alsoCreated, signed⟩
    · exact absurd looksUp change
    · rw [created] at alsoCreated
      cases alsoCreated
      exact signed

/-- A deletion is signed where it is sent and where it is redirected to, on another server. -/
theorem call_isSigned_elsewhere :
    let call := Call.tagDefinition (.delete default)
    let options : Options := { createdBy := some "me", headers := [("x-killbill-createdBy", "you")] }
    let network := Network.answering [⟨307, [⟨"location", "http://elsewhere/"⟩], []⟩, ⟨204, [], []⟩]
    let messages := (standard.call call options network).messages
    messages.map Message.method = [.delete, .delete] ∧
      ∀ message ∈ messages, IsSigned options "me" message := by
  intro call options network messages
  have methods : messages.map Message.method = [.delete, .delete] := by decide +kernel
  refine ⟨methods, fun message messageIn => ?_⟩
  have method : message.method ∈ [Method.delete, .delete] := by
    rw [← methods]
    exact List.mem_map_of_mem messageIn
  have change : message.method ≠ .get := by
    intro looksUp
    rw [looksUp] at method
    exact absurd method (by decide)
  have audited : call.isAudited = true := rfl
  exact (call_isSigned standard audited options network).2 "me" rfl message messageIn change

end BillingClient
