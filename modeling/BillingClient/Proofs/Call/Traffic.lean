import BillingClient.Proofs.Client.Exchanges

/-!
Contract: how much a call sends, and what decides it.

A call is what becomes of one dialogue, so what is known of dialogues holds of calls. Main
statement: `call_traffic`.
-/

namespace BillingClient

open BillingClient.Client
open BillingClient.Http

section

variable (client : Client) (call : Call) (options : Options)

/-- The dialogue of a call. -/
def Client.dialogue : Dialogue (Except Error call.Answer) :=
  client.perform call options

theorem result_call_of_failed {responses : List Response} {failure : Failure}
    (failed : ((client.dialogue call options).answered responses).result = .error failure) :
    (client.call call options (.answering responses)).result = .error (.http failure) := by
  unfold Client.dialogue at failed
  unfold Client.call Talk.outcome
  dsimp only [Dialogue.run]
  rw [failed]

theorem call_congr {left right : List Response}
    (same : (client.dialogue call options).answered left =
      (client.dialogue call options).answered right) :
    client.call call options (.answering left) = client.call call options (.answering right) := by
  unfold Client.dialogue at same
  unfold Client.call Talk.outcome
  dsimp only [Dialogue.run]
  rw [same]

/-- A call makes at most two exchanges of at most eleven messages each, whatever the responses are.
Responses that agree at first lead to messages that agree for one longer. Those that come after
the last one taken do not matter. When they run out while the call needs one more, it has sent one
message more than there are responses, and fails for want of a response to that. -/
theorem call_traffic :
    (∀ network : Network, ∃ starts : List Message, starts.length ≤ 2 ∧
      (client.call call options network).messages = (network.exchanges starts).flatten ∧
      (∀ sent ∈ network.exchanges starts, sent.length ≤ 11) ∧
      (client.call call options network).messages.length ≤ 22) ∧
    (∀ (count : Nat) (left right : List Response), left.take count = right.take count →
      (client.call call options (.answering left)).messages.take (count + 1) =
        (client.call call options (.answering right)).messages.take (count + 1)) ∧
    (∀ responses others : List Response,
      let outcome := client.call call options (.answering responses)
      outcome.messages.length ≤ responses.length →
      others.take outcome.messages.length = responses.take outcome.messages.length →
      client.call call options (.answering others) = outcome) ∧
    ∀ responses more : List Response,
      let outcome := client.call call options (.answering responses)
      let longer := client.call call options (.answering (responses ++ more))
      responses.length < longer.messages.length →
      outcome.messages.length = responses.length + 1 ∧
        ∃ last, outcome.messages.getLast? = some last ∧
          outcome.result = .error (.http (.sending last.url)) := by
  refine ⟨fun network => ?_, fun count left right agree => ?_, ?_, ?_⟩
  · obtain ⟨starts, few, messages⟩ := makesExchanges_call client call options network
    refine ⟨starts, few, messages, fun sent => network.length_le_of_mem_exchanges, ?_⟩
    calc
      (client.call call options network).messages.length =
          (network.exchanges starts).flatten.length := congrArg List.length messages
      _ ≤ starts.length * 11 := network.length_flatten_exchanges_le starts
      _ ≤ 2 * 11 := Nat.mul_le_mul_right 11 few
  · exact (client.dialogue call options).take_messages_answered agree
  · intro responses others outcome enough agree
    exact call_congr client call options
      ((client.dialogue call options).answered_eq_of_take_eq enough agree)
  · intro responses more outcome longer goesOn
    -- The message that the longer responses lead to is sent in either case.
    have agree : responses.take responses.length = (responses ++ more).take responses.length := by
      rw [List.take_length, List.take_left]
    have same := congrArg List.length
      ((client.dialogue call options).take_messages_answered agree)
    have short : responses.length <
        ((client.dialogue call options).answered responses).messages.length := by
      change responses.length <
        ((client.dialogue call options).answered (responses ++ more)).messages.length at goesOn
      rw [List.length_take, List.length_take] at same
      omega
    obtain ⟨length, last, isLast, failed⟩ :=
      (client.dialogue call options).answered_of_length_lt short
    exact ⟨length, last, isLast, result_call_of_failed client call options failed⟩

end

/-- A server that always redirects gets eleven messages of a look-up, whether it has eleven
responses or twenty; with three it gets four. -/
theorem call_traffic_cycle :
    let call := Call.account (.get default false false .none)
    let cycle := fun count => List.replicate count (⟨307, [⟨"location", "/"⟩], []⟩ : Response)
    let outcome := fun count => standard.call call {} (.answering (cycle count))
    (outcome 20).messages.length = 11 ∧ outcome 11 = outcome 20 ∧
      (outcome 3).messages = (outcome 20).messages.take 4 ∧
      ∃ last, (outcome 3).messages.getLast? = some last ∧
        (outcome 3).result = .error (.http (.sending last.url)) := by
  intro call cycle outcome
  obtain ⟨_, agrees, consumes, runsOut⟩ := call_traffic standard call {}
  have eleven : (outcome 20).messages.length = 11 := by decide +kernel
  have same : outcome 11 = outcome 20 := by
    apply consumes (cycle 20) (cycle 11)
    · show (outcome 20).messages.length ≤ 20
      rw [eleven]
      decide
    · show (cycle 11).take (outcome 20).messages.length = (cycle 20).take (outcome 20).messages.length
      rw [eleven]
      decide
  have goesOn : 3 < (outcome 20).messages.length := by
    rw [eleven]
    decide
  obtain ⟨four, last, isLast, failed⟩ := runsOut (cycle 3) (cycle 17) goesOn
  refine ⟨eleven, same, ?_, last, isLast, failed⟩
  calc
    (outcome 3).messages = (outcome 3).messages.take 4 :=
      (List.take_of_length_le (Nat.le_of_eq four)).symm
    _ = (outcome 20).messages.take 4 := agrees 3 (cycle 3) (cycle 20) (by decide)

end BillingClient
