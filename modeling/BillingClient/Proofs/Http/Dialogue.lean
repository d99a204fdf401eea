import BillingClient.Http.Redirect

/-!
Contract: dialogues held one after the other.

Each message that is sent takes one response of the network with it, so a dialogue that
comes after another one meets what is left: `Dialogue.run_bind`.
-/

namespace BillingClient.Http

/-- What is left of a network when some messages have been sent. -/
def Network.after (network : Network) (count : Nat) : Network :=
  match network with
  | .answering responses => .answering (responses.drop count)
  | .unreachable => .unreachable

/-- A transcript with messages before the others. -/
def Transcript.afterAll {α : Type} (messages : List Message) (transcript : Transcript α) :
    Transcript α :=
  { transcript with messages := messages ++ transcript.messages }

namespace Dialogue

variable {α β : Type}

theorem answered_bind (first : Dialogue α) (next : α → Dialogue β) (responses : List Response) :
    (first.bind next).answered responses =
      match (first.answered responses).result with
      | .ok result =>
          ((next result).answered (responses.drop (first.answered responses).messages.length)).afterAll
            (first.answered responses).messages
      | .error failure => ⟨(first.answered responses).messages, .error failure⟩ := by
  induction first generalizing responses with
  | done result => rfl
  | send message rest inductionHypothesis =>
      cases responses with
      | nil => rfl
      | cons response responses =>
          show (((rest (response.arriving message.method)).bind next).answered responses).after
            message = _
          rw [inductionHypothesis]
          show _ = match ((rest (response.arriving message.method)).answered responses).result with
            | .ok result => _
            | .error failure => _
          cases ((rest (response.arriving message.method)).answered responses).result <;> rfl

/-- A dialogue after another one, on what the first has left of the network. -/
theorem run_bind (first : Dialogue α) (next : α → Dialogue β) (network : Network) :
    (first.bind next).run network =
      match (first.run network).result with
      | .ok result =>
          ((next result).run (network.after (first.run network).messages.length)).afterAll
            (first.run network).messages
      | .error failure => ⟨(first.run network).messages, .error failure⟩ := by
  cases network with
  | answering responses => exact answered_bind first next responses
  | unreachable =>
      cases first with
      | done result => rfl
      | send message rest => rfl

/-- A network that takes a message takes the message of an exchange first. -/
theorem head?_messages_run_send (message : Message) (next : Response → Dialogue α)
    (responses : List Response) :
    ((Dialogue.send message next).run (.answering responses)).messages.head? = some message := by
  cases responses <;> rfl

end Dialogue

end BillingClient.Http
