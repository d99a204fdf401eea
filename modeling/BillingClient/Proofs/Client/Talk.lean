import BillingClient.Client.Basic
import BillingClient.Proofs.Http.Dialogue

/-!
Contract: the outcome of a talk, part by part.

`Talk.outcome_bind` is the outcome of two parts: the second one is held on what the first has
left of the network, and only when the first has come to a result. A draft is sent as an
exchange of its own: `sendDraft_eq`.
-/

namespace BillingClient.Client

open BillingClient.Http

variable {α β : Type}

/-- An outcome with messages before the others. -/
def Outcome.afterAll (messages : List Message) (outcome : Outcome α) : Outcome α :=
  { outcome with messages := messages ++ outcome.messages }

theorem Talk.outcome_known (result : Except Error α) (network : Network) :
    Talk.outcome (known result) network = ⟨[], result⟩ := by
  cases network <;> rfl

/-- The outcome of a talk that goes on after its first part. -/
theorem Talk.outcome_bind (first : Talk α) (next : α → Talk β) (network : Network) :
    Talk.outcome (first >>= next) network =
      match (first.outcome network).result with
      | .ok result =>
          ((next result).outcome (network.after (first.outcome network).messages.length)).afterAll
            (first.outcome network).messages
      | .error error => ⟨(first.outcome network).messages, .error error⟩ := by
  show Talk.outcome (Dialogue.bind first (ExceptT.bindCont next)) network = _
  unfold Talk.outcome
  rw [Dialogue.run_bind]
  generalize Dialogue.run first network = transcript
  obtain ⟨messages, result⟩ := transcript
  cases result with
  | error failure => rfl
  | ok result =>
      cases result with
      | ok result => rfl
      | error error =>
          have ended (rest : Network) : Dialogue.run (ExceptT.bindCont next (.error error)) rest =
              ⟨[], .ok (.error error)⟩ := by
            cases rest <;> rfl
          simp only [ended, Transcript.afterAll, List.append_nil]

theorem Talk.outcome_bind_ok {first : Talk α} (next : α → Talk β) {network : Network} {result : α}
    (found : (first.outcome network).result = .ok result) :
    Talk.outcome (first >>= next) network =
      ((next result).outcome (network.after (first.outcome network).messages.length)).afterAll
        (first.outcome network).messages := by
  rw [outcome_bind, found]

theorem Talk.outcome_bind_error {first : Talk α} (next : α → Talk β) {network : Network}
    {error : Error} (failed : (first.outcome network).result = .error error) :
    Talk.outcome (first >>= next) network = ⟨(first.outcome network).messages, .error error⟩ := by
  rw [outcome_bind, failed]

theorem known_ok_bind (result : α) (next : α → Talk β) : known (.ok result) >>= next = next result :=
  rfl

theorem known_error_bind (error : Error) (next : α → Talk β) :
    known (.error error) >>= next = known (.error error) :=
  rfl

/-! ## Exchanges -/

/-- The exchange that a message starts, as a talk. -/
def exchangeTalk (message : Message) : Talk Response :=
  ExceptT.mk ((exchange message).bind fun result => pure (result.mapError .http))

/-- A draft that becomes a message is sent as one exchange; another one is refused. -/
theorem sendDraft_eq (client : Client) (draft : Draft) :
    client.sendDraft draft =
      match draft.message client.config.userAgent with
      | .ok message => exchangeTalk message
      | .error failure => known (.error (.http failure)) := by
  unfold sendDraft
  cases draft.message client.config.userAgent <;> rfl

/-- An exchange sends its message first. -/
theorem exchangeTalk_eq_send (message : Message) :
    ∃ next, exchangeTalk message = Dialogue.send message next := by
  unfold exchangeTalk exchange follow
  exact ⟨_, rfl⟩

theorem exchangeTalk_head? (message : Message) (responses : List Response) :
    ((exchangeTalk message).outcome (.answering responses)).messages.head? = some message := by
  obtain ⟨next, shape⟩ := exchangeTalk_eq_send message
  rw [shape]
  exact Dialogue.head?_messages_run_send message next responses

theorem exchangeTalk_unreachable (message : Message) :
    (exchangeTalk message).outcome .unreachable = ⟨[], .error (.http (.sending message.url))⟩ := by
  obtain ⟨next, shape⟩ := exchangeTalk_eq_send message
  rw [shape]
  rfl

end BillingClient.Client
