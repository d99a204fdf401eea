import BillingClient.Http.Message

/-!
Contract: what a client says to a server, and what becomes of it on a network.

A `Dialogue` sends messages one after the other; what it does next is a function of the
responses so far. `run` holds it on a network. One that answers gives its responses in
order, and the message after the last of them is sent but never answered. One that is
unreachable takes no message at all.
-/

namespace BillingClient.Http

/-- Messages to be sent, each but the first after a response to the one before it. -/
inductive Dialogue (α : Type) where
  | done (result : α)
  | send (message : Message) (next : Response → Dialogue α)

namespace Dialogue

variable {α β : Type}

/-- A dialogue after another. -/
def bind (first : Dialogue α) (next : α → Dialogue β) : Dialogue β :=
  match first with
  | .done result => next result
  | .send message rest => .send message fun response => (rest response).bind next

instance : Monad Dialogue where
  pure := .done
  bind := bind

end Dialogue

/-- What a client meets when it sends. -/
inductive Network where
  | answering (responses : List Response)
  | unreachable
deriving DecidableEq, Repr

/-- The messages that were sent, and the result. -/
structure Transcript (α : Type) where
  messages : List Message
  result : Except Failure α

/-- A transcript with a message before the others. -/
def Transcript.after {α : Type} (message : Message) (transcript : Transcript α) : Transcript α :=
  { transcript with messages := message :: transcript.messages }

/-- Holds a dialogue with a server that gives some responses. -/
def Dialogue.answered {α : Type} : Dialogue α → List Response → Transcript α
  | .done result, _ => ⟨[], .ok result⟩
  | .send message _, [] => ⟨[message], .error (.sending message.url)⟩
  | .send message next, response :: rest =>
    ((next (response.arriving message.method)).answered rest).after message

/-- Holds a dialogue on a network. -/
def Dialogue.run {α : Type} (dialogue : Dialogue α) : Network → Transcript α
  | .answering responses => dialogue.answered responses
  | .unreachable =>
    match dialogue with
    | .done result => ⟨[], .ok result⟩
    | .send message _ => ⟨[], .error (.sending message.url)⟩

end BillingClient.Http
