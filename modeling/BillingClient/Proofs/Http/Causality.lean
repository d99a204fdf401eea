import BillingClient.Proofs.Http.Dialogue

/-!
Contract: what a dialogue says is decided by the responses before it.

Owns three views of a dialogue: a property of all its messages (`Sends`), a bound on their number
(`SendsAtMost`), and the responses that its messages get on a network (`Network.received`). Main
statements, for a server that gives responses in order: messages depend on the responses before
them only (`take_messages_answered`), what comes after the last one taken does not matter
(`answered_eq_of_take_eq`), and a dialogue that needs one more ends in a failure
(`answered_of_length_lt`).
-/

namespace BillingClient.Http

/-- The responses that messages get on a network, one for each as long as there are some, as they
arrive. -/
def Network.received (network : Network) (messages : List Message) : List Response :=
  match network with
  | .answering responses =>
      responses.zipWith (fun response message => response.arriving message.method) messages
  | .unreachable => []

namespace Dialogue

variable {α β : Type}

/-! ## Every message -/

/-- Whether each message that a dialogue may send has a property. -/
inductive Sends (holds : Message → Prop) : Dialogue α → Prop where
  | done (result : α) : Sends holds (.done result)
  | send {message : Message} {next : Response → Dialogue α} (here : holds message)
      (later : ∀ response, Sends holds (next response)) : Sends holds (.send message next)

theorem Sends.bind {holds : Message → Prop} {first : Dialogue α} {next : α → Dialogue β}
    (firstSends : first.Sends holds) (nextSends : ∀ result, (next result).Sends holds) :
    (first.bind next).Sends holds := by
  induction firstSends with
  | done result => exact nextSends result
  | send here _ inductionHypothesis => exact .send here inductionHypothesis

theorem Sends.answered {holds : Message → Prop} {dialogue : Dialogue α}
    (sends : dialogue.Sends holds) (responses : List Response) :
    ∀ message ∈ (dialogue.answered responses).messages, holds message := by
  induction sends generalizing responses with
  | done result =>
      intro message messageIn
      cases messageIn
  | @send message next here _ inductionHypothesis =>
      cases responses with
      | nil =>
          intro other otherIn
          obtain rfl := List.mem_singleton.1 otherIn
          exact here
      | cons response responses =>
          show ∀ other ∈ message :: _, holds other
          rw [List.forall_mem_cons]
          exact ⟨here, inductionHypothesis _ responses⟩

/-- What holds of each message that a dialogue may send holds of those that it sends. -/
theorem Sends.run {holds : Message → Prop} {dialogue : Dialogue α}
    (sends : dialogue.Sends holds) (network : Network) :
    ∀ message ∈ (dialogue.run network).messages, holds message := by
  cases network with
  | answering responses => exact sends.answered responses
  | unreachable =>
      intro message messageIn
      cases dialogue <;> cases messageIn

/-! ## The number of messages -/

/-- Whether a dialogue sends no more than a number of messages. -/
inductive SendsAtMost : Nat → Dialogue α → Prop where
  | done (count : Nat) (result : α) : SendsAtMost count (.done result)
  | send {count : Nat} (message : Message) {next : Response → Dialogue α}
      (later : ∀ response, SendsAtMost count (next response)) :
      SendsAtMost (count + 1) (.send message next)

theorem SendsAtMost.answered {count : Nat} {dialogue : Dialogue α}
    (few : dialogue.SendsAtMost count) (responses : List Response) :
    (dialogue.answered responses).messages.length ≤ count := by
  induction few generalizing responses with
  | done count result => exact Nat.zero_le count
  | send message _ inductionHypothesis =>
      cases responses with
      | nil => exact Nat.succ_le_succ (Nat.zero_le _)
      | cons response responses => exact Nat.succ_le_succ (inductionHypothesis _ responses)

theorem SendsAtMost.run {count : Nat} {dialogue : Dialogue α} (few : dialogue.SendsAtMost count)
    (network : Network) : (dialogue.run network).messages.length ≤ count := by
  cases network with
  | answering responses => exact few.answered responses
  | unreachable => cases dialogue <;> exact Nat.zero_le count

/-! ## Causes -/

theorem messages_answered_send (message : Message) (next : Response → Dialogue α)
    (response : Response) (responses : List Response) :
    ((Dialogue.send message next).answered (response :: responses)).messages =
      message :: ((next (response.arriving message.method)).answered responses).messages :=
  rfl

/-- Responses that agree at first lead to messages that agree for one longer. -/
theorem take_messages_answered (dialogue : Dialogue α) {left right : List Response} {count : Nat}
    (agree : left.take count = right.take count) :
    (dialogue.answered left).messages.take (count + 1) =
      (dialogue.answered right).messages.take (count + 1) := by
  induction dialogue generalizing left right count with
  | done result => rfl
  | send message next inductionHypothesis =>
      cases count with
      | zero =>
          have first (responses : List Response) :
              ((Dialogue.send message next).answered responses).messages.take 1 = [message] := by
            cases responses <;> rfl
          rw [first, first]
      | succ count =>
          cases left with
          | nil =>
              cases right with
              | nil => rfl
              | cons response right => cases agree
          | cons response left =>
              cases right with
              | nil => cases agree
              | cons other right =>
                  rw [List.take_succ_cons, List.take_succ_cons, List.cons.injEq] at agree
                  obtain ⟨rfl, agree⟩ := agree
                  rw [messages_answered_send, messages_answered_send, List.take_succ_cons,
                    List.take_succ_cons, inductionHypothesis _ agree]

/-- Responses that a dialogue has no message for do not matter. -/
theorem answered_eq_of_take_eq (dialogue : Dialogue α) {responses others : List Response}
    (enough : (dialogue.answered responses).messages.length ≤ responses.length)
    (agree : others.take (dialogue.answered responses).messages.length =
      responses.take (dialogue.answered responses).messages.length) :
    dialogue.answered others = dialogue.answered responses := by
  induction dialogue generalizing responses others with
  | done result => rfl
  | send message next inductionHypothesis =>
      cases responses with
      | nil => contradiction
      | cons response responses =>
          rw [messages_answered_send, List.length_cons] at enough agree
          cases others with
          | nil => cases agree
          | cons other others =>
              rw [List.take_succ_cons, List.take_succ_cons, List.cons.injEq] at agree
              obtain ⟨rfl, agree⟩ := agree
              have same := inductionHypothesis _ (Nat.le_of_succ_le_succ enough) agree
              show ((next _).answered others).after message = ((next _).answered responses).after message
              rw [same]

/-- A dialogue with more messages than there are responses has one more, which is its last and
fails. -/
theorem answered_of_length_lt (dialogue : Dialogue α) {responses : List Response}
    (short : responses.length < (dialogue.answered responses).messages.length) :
    (dialogue.answered responses).messages.length = responses.length + 1 ∧
      ∃ last, (dialogue.answered responses).messages.getLast? = some last ∧
        (dialogue.answered responses).result = .error (.sending last.url) := by
  induction dialogue generalizing responses with
  | done result => contradiction
  | send message next inductionHypothesis =>
      cases responses with
      | nil => exact ⟨rfl, message, rfl, rfl⟩
      | cons response responses =>
          rw [messages_answered_send] at short ⊢
          rw [List.length_cons, List.length_cons] at short
          obtain ⟨length, last, isLast, failed⟩ :=
            inductionHypothesis _ (Nat.lt_of_succ_lt_succ short)
          refine ⟨by rw [List.length_cons, List.length_cons, length], last, ?_, failed⟩
          rw [List.getLast?_cons, isLast]
          rfl

end Dialogue

end BillingClient.Http
