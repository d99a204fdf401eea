import BillingClient.Proofs.Http.Causality
import BillingClient.Proofs.Http.Draft

/-!
Contract: what an exchange sends, how much, and where its response comes from.

`follow_cases` says what can become of a response; each law of a redirected message holds of a
whole exchange by it. A redirect leaves every header alone that is neither for one server only nor
about the body nor the page before: `values_redirected`.
-/

namespace BillingClient.Http

/-! ## One redirect -/

/-- A redirected message looks something up or is sent by the method that it had. -/
theorem method_redirected (message : Message) (status : Nat) (target : Url) :
    (redirected message status target).method = .get ∨
      (redirected message status target).method = message.method := by
  unfold redirected
  dsimp only
  split
  · show (if message.method.isLookup then message.method else .get) = Method.get ∨
      (if message.method.isLookup then message.method else .get) = message.method
    split
    · exact .inr rfl
    · exact .inl rfl
  · exact .inr rfl

theorem values_redirected {name : String} (notBody : name ∉ bodyHeaders)
    (notSecret : name ∉ secretHeaders) (notReferer : "referer" ≠ name) (message : Message)
    (status : Nat) (target : Url) :
    Header.values (redirected message status target).headers name =
      Header.values message.headers name := by
  have named : Header.values (withReferer message.url target message.headers) name =
      Header.values message.headers name := by
    unfold withReferer
    split
    · rfl
    · exact Header.values_replace notReferer message.headers
  have kept : Header.values (if isSameServer message.url target then
        withReferer message.url target message.headers
      else Header.without secretHeaders (withReferer message.url target message.headers)) name =
      Header.values message.headers name := by
    split
    · exact named
    · rw [Header.values_without notSecret, named]
  unfold redirected
  dsimp only
  split
  · exact (Header.values_without notBody _).trans kept
  · exact kept

/-- Whether redirects keep a property of messages. -/
def OutlivesRedirects (holds : Message → Prop) : Prop :=
  ∀ message response target, redirectTarget? message.url response = some target →
    isReachable target = true → holds message → holds (redirected message response.status target)

/-! ## Exchanges -/

/-- What becomes of the response to a message: it is the result, or it fails, or it leads to the
redirected message with one redirect less to follow. -/
theorem follow_cases (left : Nat) (message : Message) :
    ∃ next, follow left message = .send message next ∧ ∀ response,
      next response = .done (.ok response) ∨
      (∃ failure, next response = .done (.error failure)) ∨
      ∃ less target, left = less + 1 ∧ redirectTarget? message.url response = some target ∧
        isReachable target = true ∧
        next response = follow less (redirected message response.status target) := by
  refine ⟨_, follow.eq_def left message, fun response => ?_⟩
  cases leads : redirectTarget? message.url response with
  | none => exact .inl rfl
  | some target =>
      cases left with
      | zero => exact .inr (.inl ⟨_, rfl⟩)
      | succ less =>
          dsimp only
          by_cases reachable : isReachable target = true
          · rw [if_pos reachable]
            exact .inr (.inr ⟨less, target, rfl, rfl, reachable, rfl⟩)
          · rw [if_neg reachable]
            exact .inr (.inl ⟨_, rfl⟩)

/-- What holds of the first message and outlives redirects holds of all messages. -/
theorem sends_follow {holds : Message → Prop} (outlives : OutlivesRedirects holds) (left : Nat)
    {message : Message} (first : holds message) : (follow left message).Sends holds := by
  induction left using Nat.strongRecOn generalizing message with
  | ind left inductionHypothesis =>
      obtain ⟨next, shape, cases⟩ := follow_cases left message
      rw [shape]
      refine .send first fun response => ?_
      rcases cases response with ended | ⟨failure, ended⟩ |
        ⟨less, target, rfl, leads, reachable, goesOn⟩
      · rw [ended]
        exact .done _
      · rw [ended]
        exact .done _
      · rw [goesOn]
        exact inductionHypothesis less (Nat.lt_succ_self less)
          (outlives message response target leads reachable first)

theorem sendsAtMost_follow (left : Nat) (message : Message) :
    (follow left message).SendsAtMost (left + 1) := by
  induction left using Nat.strongRecOn generalizing message with
  | ind left inductionHypothesis =>
      obtain ⟨next, shape, cases⟩ := follow_cases left message
      rw [shape]
      refine .send message fun response => ?_
      rcases cases response with ended | ⟨failure, ended⟩ | ⟨less, target, rfl, _, _, goesOn⟩
      · rw [ended]
        exact .done _ _
      · rw [ended]
        exact .done _ _
      · rw [goesOn]
        exact inductionHypothesis less (Nat.lt_succ_self less) _

/-- The result of an exchange is the response to its last message. -/
theorem getLast?_received_follow (left : Nat) (message : Message) {responses : List Response}
    {response : Response}
    (ended : ((follow left message).answered responses).result = .ok (.ok response)) :
    ((Network.answering responses).received
      ((follow left message).answered responses).messages).getLast? = some response := by
  induction left using Nat.strongRecOn generalizing message responses with
  | ind left inductionHypothesis =>
      obtain ⟨next, shape, cases⟩ := follow_cases left message
      rw [shape] at ended ⊢
      cases responses with
      | nil => cases ended
      | cons first responses =>
          have arrived := cases (first.arriving message.method)
          change ((next _).answered responses).result = _ at ended
          show (first.arriving message.method :: (Network.answering responses).received
            ((next _).answered responses).messages).getLast? = some response
          rcases arrived with result | ⟨failure, failed⟩ | ⟨less, target, rfl, _, _, goesOn⟩
          · rw [result] at ended ⊢
            cases ended
            cases responses <;> rfl
          · rw [failed] at ended
            cases ended
          · rw [goesOn] at ended ⊢
            have last := inductionHypothesis less (Nat.lt_succ_self less) _ ended
            rw [List.getLast?_cons, last]
            rfl

end BillingClient.Http
