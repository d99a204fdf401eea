import BillingClient.Call.Basic
import BillingClient.Proofs.Client.FollowUp
import BillingClient.Proofs.Http.Redirect

/-!
Contract: the exchanges of a call.

A call is at most two exchanges, one after the other: `makesExchanges_call`. What holds of the
messages that a client drafts, and outlives redirects, holds of all messages of a call:
`forall_mem_messages_call`.
-/

namespace BillingClient

open BillingClient.Client
open BillingClient.Http

variable {α β : Type}

/-! ## What all messages have in common -/

namespace Client

/-- Whether each message that a talk may send has a property. -/
def Talk.Sends (holds : Message → Prop) (talk : Talk α) : Prop :=
  Dialogue.Sends holds talk

theorem Talk.sends_known {holds : Message → Prop} (result : Except Error α) :
    Talk.Sends holds (known result) :=
  .done result

theorem Talk.Sends.bind {holds : Message → Prop} {first : Talk α} {next : α → Talk β}
    (firstSends : first.Sends holds) (nextSends : ∀ result, (next result).Sends holds) :
    Talk.Sends holds (first >>= next) := by
  refine Dialogue.Sends.bind firstSends fun result => ?_
  cases result with
  | ok result => exact nextSends result
  | error error => exact .done _

variable {holds : Message → Prop} (outlives : OutlivesRedirects holds)

include outlives

theorem sends_sendDraft (client : Client) {draft : Draft}
    (drafted : ∀ message, draft.message client.config.userAgent = .ok message → holds message) :
    Talk.Sends holds (client.sendDraft draft) := by
  rw [sendDraft_eq]
  cases made : draft.message client.config.userAgent with
  | error failure => exact Talk.sends_known _
  | ok message =>
      have first := drafted message made
      exact Dialogue.Sends.bind (sends_follow outlives maxRedirects first) fun _ => .done _

theorem sends_send (client : Client) (request : Request) (options : Options)
    (primary : ∀ url message,
      client.urlOf request.path (options.query ++ request.query) = .ok url →
      (client.primary request options url).message client.config.userAgent = .ok message →
      holds message)
    (followUp : ∀ location target message,
      client.locationUrl location options.followQuery = .ok target →
      (client.followUp request options target).message client.config.userAgent = .ok message →
      holds message) :
    Talk.Sends holds (client.send request options) := by
  rw [send_eq]
  refine Talk.Sends.bind ?_ fun response => ?_
  · unfold primaryTalk
    cases made : client.urlOf request.path (options.query ++ request.query) with
    | error error => exact Talk.sends_known _
    | ok url =>
        rw [known_ok_bind]
        exact sends_sendDraft outlives client (primary url · made)
  · unfold fetchTalk
    split
    · cases response.header? "location" with
      | none => exact Talk.sends_known _
      | some location =>
          show Talk.Sends holds (known (client.locationUrl location options.followQuery) >>=
            fun target => client.sendDraft (client.followUp request options target))
          cases made : client.locationUrl location options.followQuery with
          | error error => exact Talk.sends_known _
          | ok target =>
              rw [known_ok_bind]
              exact sends_sendDraft outlives client (followUp location target · made)
    · exact Talk.sends_known _

/-- What holds of the messages that a client drafts for a call, and outlives redirects, holds of
all messages of the call. -/
theorem forall_mem_messages_call (client : Client) {call : Call} {options : Options}
    (primary : ∀ request url message, call.operation.request options = .ok request →
      client.urlOf request.path (options.query ++ request.query) = .ok url →
      (client.primary request options url).message client.config.userAgent = .ok message →
      holds message)
    (followUp : ∀ request location target message, call.operation.request options = .ok request →
      client.locationUrl location options.followQuery = .ok target →
      (client.followUp request options target).message client.config.userAgent = .ok message →
      holds message)
    (network : Network) : ∀ message ∈ (client.call call options network).messages,
      holds message := by
  have sends : Talk.Sends holds (client.perform call options) := by
    unfold Client.perform
    cases asked : call.operation.request options with
    | error error => exact Talk.sends_known _
    | ok request =>
        rw [known_ok_bind]
        refine Talk.Sends.bind ?_ fun response => Talk.sends_known _
        exact sends_send outlives client request options (primary request · · asked)
          (followUp request · · · asked)
  exact Dialogue.Sends.run sends network

end Client

/-! ## The exchanges one after the other -/

theorem Http.Network.after_after (network : Network) (first second : Nat) :
    (network.after first).after second = network.after (first + second) := by
  cases network with
  | unreachable => rfl
  | answering responses =>
      unfold Network.after
      dsimp only
      rw [List.drop_drop]

/-- The messages of the exchanges that some messages start, each exchange on what those before it
have left of a network. -/
def Http.Network.exchanges (network : Network) : List Message → List (List Message)
  | [] => []
  | start :: starts =>
      ((exchange start).run network).messages ::
        (network.after ((exchange start).run network).messages.length).exchanges starts

theorem Http.Network.exchanges_append (network : Network) (first second : List Message) :
    network.exchanges (first ++ second) = network.exchanges first ++
      (network.after (network.exchanges first).flatten.length).exchanges second := by
  induction first generalizing network with
  | nil => cases network <;> rfl
  | cons start first inductionHypothesis =>
      rw [List.cons_append, exchanges, exchanges, inductionHypothesis, Network.after_after,
        List.flatten_cons, List.length_append, List.cons_append]

theorem Http.Network.length_le_of_mem_exchanges (network : Network) {starts sent : List Message}
    (sentIn : sent ∈ network.exchanges starts) : sent.length ≤ maxRedirects + 1 := by
  induction starts generalizing network with
  | nil => cases sentIn
  | cons start starts inductionHypothesis =>
      rcases List.mem_cons.1 sentIn with rfl | later
      · exact (sendsAtMost_follow maxRedirects start).run network
      · exact inductionHypothesis _ later

theorem Http.Network.length_flatten_exchanges_le (network : Network) (starts : List Message) :
    (network.exchanges starts).flatten.length ≤ starts.length * (maxRedirects + 1) := by
  induction starts generalizing network with
  | nil => exact Nat.le_refl 0
  | cons start starts inductionHypothesis =>
      have here := (sendsAtMost_follow maxRedirects start).run network
      have later := inductionHypothesis
        (network.after ((exchange start).run network).messages.length)
      rw [exchanges, List.flatten_cons, List.length_append, List.length_cons, Nat.succ_mul,
        Nat.add_comm]
      exact Nat.add_le_add later here

namespace Client

theorem messages_exchangeTalk (message : Message) (network : Network) :
    ((exchangeTalk message).outcome network).messages = ((exchange message).run network).messages := by
  have ended (result : Except Failure Response) (rest : Network) :
      (Dialogue.run (.done (result.mapError Error.http)) rest).messages = [] := by
    cases rest <;> rfl
  show (((exchange message).bind fun result => .done (result.mapError Error.http)).run
    network).messages = _
  rw [Dialogue.run_bind]
  split
  · show _ ++ (Dialogue.run (.done _) _).messages = _
    rw [ended, List.append_nil]
  · rfl

/-- Whether a talk is at most a number of exchanges, one after the other. -/
def Talk.MakesExchanges (count : Nat) (talk : Talk α) : Prop :=
  ∀ network : Network, ∃ starts : List Message, starts.length ≤ count ∧
    (talk.outcome network).messages = (network.exchanges starts).flatten

theorem Talk.makesExchanges_known (count : Nat) (result : Except Error α) :
    Talk.MakesExchanges count (known result) := by
  intro network
  refine ⟨[], Nat.zero_le count, ?_⟩
  rw [Talk.outcome_known]
  rfl

theorem Talk.MakesExchanges.bind (count more : Nat) {first : Talk α} {next : α → Talk β}
    (firstMakes : first.MakesExchanges count) (nextMakes : ∀ result, (next result).MakesExchanges more) :
    Talk.MakesExchanges (count + more) (first >>= next) := by
  intro network
  obtain ⟨starts, few, messages⟩ := firstMakes network
  rw [Talk.outcome_bind]
  cases (first.outcome network).result with
  | error error => exact ⟨starts, Nat.le_add_right_of_le few, messages⟩
  | ok result =>
      obtain ⟨others, fewOthers, otherMessages⟩ :=
        nextMakes result (network.after (first.outcome network).messages.length)
      refine ⟨starts ++ others, ?_, ?_⟩
      · rw [List.length_append]
        exact Nat.add_le_add few fewOthers
      · rw [Network.exchanges_append, List.flatten_append, ← messages, ← otherMessages]
        rfl

theorem makesExchanges_sendDraft (client : Client) (draft : Draft) :
    Talk.MakesExchanges 1 (client.sendDraft draft) := by
  rw [sendDraft_eq]
  cases draft.message client.config.userAgent with
  | error failure => exact Talk.makesExchanges_known 1 _
  | ok message =>
      intro network
      refine ⟨[message], Nat.le_refl 1, ?_⟩
      dsimp only
      rw [messages_exchangeTalk]
      show _ = ((exchange message).run network).messages ++ []
      rw [List.append_nil]

theorem makesExchanges_send (client : Client) (request : Request) (options : Options) :
    Talk.MakesExchanges 2 (client.send request options) := by
  have drafted {asked : Except Error Url} (draft : Url → Draft) :
      Talk.MakesExchanges 1 (known asked >>= fun url => client.sendDraft (draft url)) := by
    cases asked with
    | error error => exact Talk.makesExchanges_known 1 _
    | ok url => exact makesExchanges_sendDraft client (draft url)
  rw [send_eq]
  refine Talk.MakesExchanges.bind 1 1 (drafted _) fun response => ?_
  unfold fetchTalk
  split
  · cases response.header? "location" with
    | none => exact Talk.makesExchanges_known 1 _
    | some location => exact drafted fun target => client.followUp request options target
  · exact Talk.makesExchanges_known 1 _

/-- A call is at most two exchanges. -/
theorem makesExchanges_call (client : Client) (call : Call) (options : Options) :
    Talk.MakesExchanges 2 (client.perform call options) := by
  unfold Client.perform
  cases call.operation.request options with
  | error error => exact Talk.makesExchanges_known 2 _
  | ok request =>
      rw [known_ok_bind]
      unfold ask
      exact Talk.MakesExchanges.bind 2 0 (makesExchanges_send client request options)
        fun response => Talk.makesExchanges_known 0 _

end Client

end BillingClient
