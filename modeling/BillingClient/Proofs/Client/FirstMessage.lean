import BillingClient.Call.Basic
import BillingClient.Proofs.Client.FollowUp

/-!
Contract: what a call sends first.

It is the message of the primary draft, when there is one and the network takes messages:
`head?_messages_call`.
-/

namespace BillingClient.Client

open BillingClient.Http

variable {α β : Type}

/-- What a draft sends first on a network. -/
def sentFirst? (network : Network) (drafted : Except Failure Message) : Option Message :=
  match network with
  | .answering _ => drafted.toOption
  | .unreachable => none

theorem eq_ok_of_sentFirst? {network : Network} {drafted : Except Failure Message}
    {message : Message} (sent : sentFirst? network drafted = some message) :
    drafted = .ok message := by
  cases network with
  | unreachable => cases sent
  | answering responses => exact eq_ok_of_toOption sent

theorem url_of_sentFirst? {network : Network} {draft : Draft} {agent : String} {message : Message}
    (sent : sentFirst? network (draft.message agent) = some message) :
    message.url = Draft.target draft.url := by
  obtain ⟨_, _, rfl⟩ :=
    (Draft.message_eq_ok_iff draft agent message).1 (eq_ok_of_sentFirst? sent)
  rfl

/-- A talk that comes to a result only after a message starts with that message, whatever comes
after it. -/
theorem Talk.head?_messages_bind (first : Talk α) (next : α → Talk β) (network : Network)
    (speaks : ∀ result, (first.outcome network).result = .ok result →
      (first.outcome network).messages ≠ []) :
    (Talk.outcome (first >>= next) network).messages.head? =
      (first.outcome network).messages.head? := by
  cases ended : (first.outcome network).result with
  | error error => rw [Talk.outcome_bind_error next ended]
  | ok result =>
      obtain ⟨message, others, shape⟩ := List.exists_cons_of_ne_nil (speaks result ended)
      rw [Talk.outcome_bind_ok next ended, Outcome.afterAll, shape]
      rfl

/-- Reading a result sends nothing. -/
theorem Talk.messages_bind_known (first : Talk α) (read : α → Except Error β)
    (network : Network) :
    (Talk.outcome (first >>= fun result => known (read result)) network).messages =
      (first.outcome network).messages := by
  rw [Talk.outcome_bind]
  split
  · rw [Talk.outcome_known, Outcome.afterAll, List.append_nil]
  · rfl

section

variable (client : Client) {request : Request} {options : Options} {url : Url}

theorem head?_messages_sendDraft (draft : Draft) (network : Network) :
    ((client.sendDraft draft).outcome network).messages.head? =
      sentFirst? network (draft.message client.config.userAgent) := by
  rw [sendDraft_eq]
  cases drafted : draft.message client.config.userAgent with
  | error failure =>
      rw [Talk.outcome_known]
      cases network <;> rfl
  | ok message =>
      cases network with
      | unreachable =>
          dsimp only
          rw [exchangeTalk_unreachable]
          rfl
      | answering responses => exact exchangeTalk_head? message responses

/-- A talk starts with its primary exchange. -/
theorem head?_messages_send (request : Request) (options : Options) (network : Network) :
    ((client.send request options).outcome network).messages.head? =
      ((client.primaryTalk request options).outcome network).messages.head? := by
  rw [send_eq, Talk.head?_messages_bind]
  intro response ended nothing
  obtain ⟨_, _, _, _, first, _⟩ := primaryTalk_ok ended
  rw [nothing] at first
  cases first

theorem head?_messages_primaryTalk
    (made : client.urlOf request.path (options.query ++ request.query) = .ok url)
    (network : Network) :
    ((client.primaryTalk request options).outcome network).messages.head? =
      sentFirst? network
        ((client.primary request options url).message client.config.userAgent) := by
  unfold primaryTalk
  rw [made, known_ok_bind, head?_messages_sendDraft]

/-- A talk that sends something has a URL for its request. -/
theorem exists_of_head?_messages_send {network : Network} {message : Message}
    (first : ((client.send request options).outcome network).messages.head? = some message) :
    ∃ url, client.urlOf request.path (options.query ++ request.query) = .ok url ∧
      (client.primary request options url).message client.config.userAgent = .ok message := by
  rw [head?_messages_send] at first
  cases made : client.urlOf request.path (options.query ++ request.query) with
  | error error =>
      rw [primaryTalk, made, known_error_bind, Talk.outcome_known] at first
      cases first
  | ok url =>
      rw [head?_messages_primaryTalk client made] at first
      exact ⟨url, rfl, eq_ok_of_sentFirst? first⟩

/-- A call sends what its request does. -/
theorem messages_call {call : Call} (asked : call.operation.request options = .ok request)
    (network : Network) :
    (client.call call options network).messages =
      ((client.send request options).outcome network).messages := by
  unfold Client.call perform
  rw [asked, known_ok_bind, ask, Talk.messages_bind_known]

/-- A call starts with the message of its primary draft. -/
theorem head?_messages_call {call : Call} (asked : call.operation.request options = .ok request)
    (made : client.urlOf request.path (options.query ++ request.query) = .ok url)
    (network : Network) :
    (client.call call options network).messages.head? =
      sentFirst? network
        ((client.primary request options url).message client.config.userAgent) := by
  rw [messages_call client asked, head?_messages_send, head?_messages_primaryTalk client made]

/-- A call that sends something has a request, for which there is a URL. -/
theorem exists_of_head?_messages_call {call : Call} {network : Network} {message : Message}
    (first : (client.call call options network).messages.head? = some message) :
    ∃ request url, call.operation.request options = .ok request ∧
      client.urlOf request.path (options.query ++ request.query) = .ok url ∧
      (client.primary request options url).message client.config.userAgent = .ok message := by
  cases asked : call.operation.request options with
  | error error =>
      unfold Client.call perform at first
      rw [asked, known_error_bind, Talk.outcome_known] at first
      cases first
  | ok request =>
      rw [messages_call client asked] at first
      obtain ⟨url, made, drafted⟩ := exists_of_head?_messages_send client first
      exact ⟨request, url, rfl, made, drafted⟩

end

end BillingClient.Client
