import BillingClient.Proofs.Call.Arguments
import BillingClient.Proofs.Call.Resource

/-!
Contract: look-ups lose no argument.

The segments of what is looked up all stand in the path of the URL: `Call.enters_of_isLookup`. So
the URL that a look-up is sent to says what its arguments are. Main statement: `call_eq_of_url`.
-/

namespace BillingClient

open BillingClient.Client
open BillingClient.Http
open BillingClient.Operation
open BillingClient.Url
open BillingClient.Vocabulary

/-- The segments of a look-up all stand in its path, if a text of the caller among them does. -/
theorem Call.enters_of_isLookup {call : Call} (isLookup : call.isLookup = true)
    (entered : ∀ fixed text, call.freeText? = some (fixed, text) → IsEntered text) :
    call.operation.Enters := by
  refine Call.enters (fun plugin isPlugin => ?_) entered
  rw [isPlugin] at isLookup
  cases isLookup

/-! ## URLs of look-ups -/

/-- Calls of one operation that looks something up have the same arguments, options apart, when
what they send first goes to the same URL. -/
theorem call_eq_of_url (client : Client) (noQuery : '?' ∉ client.config.serverUrl.toList)
    (noFragment : '#' ∉ client.config.serverUrl.toList) {left right : Call} (options : Options)
    (server : ∀ plugin, left ≠ .plugin plugin) (same : left.SameOperation right)
    (leftEntered : ∀ fixed text, left.freeText? = some (fixed, text) → text ≠ "." ∧ text ≠ "..")
    (rightEntered : ∀ fixed text, right.freeText? = some (fixed, text) → text ≠ "." ∧ text ≠ "..")
    {leftNetwork rightNetwork : Network} {leftFirst rightFirst : Message}
    (leftStarts : (client.call left options leftNetwork).messages.head? = some leftFirst)
    (rightStarts : (client.call right options rightNetwork).messages.head? = some rightFirst)
    (reads : leftFirst.method = .get) (sameUrl : leftFirst.url.text = rightFirst.url.text) :
    left = right := by
  obtain ⟨leftRequest, leftUrl, leftAsked, leftMade, leftDrafted⟩ :=
    exists_of_head?_messages_call client leftStarts
  obtain ⟨rightRequest, rightUrl, rightAsked, rightMade, rightDrafted⟩ :=
    exists_of_head?_messages_call client rightStarts
  obtain ⟨_, _, rfl⟩ :=
    (message_primary_eq_ok_iff client leftRequest options leftUrl _).1 leftDrafted
  obtain ⟨_, _, rfl⟩ :=
    (message_primary_eq_ok_iff client rightRequest options rightUrl _).1 rightDrafted
  have leftLookup : left.isLookup = true := by
    by_contra noLookup
    have changes := Call.changes server (Bool.eq_false_iff.2 noLookup) options leftRequest leftAsked
    exact changes.ne_get reads
  have rightLookup : right.isLookup = true := by rw [← same.isLookup_eq, leftLookup]
  obtain ⟨leftList, leftPath, leftStands⟩ :=
    Call.enters_of_isLookup leftLookup leftEntered options leftRequest leftAsked
  obtain ⟨rightList, rightPath, rightStands⟩ :=
    Call.enters_of_isLookup rightLookup rightEntered options rightRequest rightAsked
  rw [leftPath] at leftMade
  rw [rightPath] at rightMade
  obtain ⟨sameList, sameQuery⟩ := client.eq_of_text_target noQuery noFragment leftStands
    rightStands leftMade rightMade sameUrl
  apply Call.eq_of_askAlike leftLookup same
  refine ⟨leftRequest, rightRequest, leftAsked, rightAsked, ?_, ?_⟩
  · rw [leftPath, rightPath, sameList]
  · -- The parameters of the options stand in front of those of either call.
    exact Query.eq_iff.2 (List.append_cancel_left (Query.eq_iff.1 sameQuery))

/-- Payments are listed with a property for a plugin. The call is the one that has its defaults
written out, and a plugin of the empty name makes it another. -/
theorem call_eq_of_url_payments :
    let properties := [("plugin", "a=b&c")]
    let brief := Call.payment (.list {} none { properties })
    let long := Call.payment (.list ⟨0, 100⟩ none ⟨false, false, properties, .none⟩)
    let other := Call.payment (.list {} (some "") { properties })
    let urlText? := fun call =>
      (standard.call call {} (.answering [])).messages.head?.map (·.url.text)
    urlText? brief = some ("http://127.0.0.1:8080/1.0/kb/payments/pagination" ++
        "?offset=0&limit=100&withPluginInfo=false&withAttempts=false" ++
        "&pluginProperty=plugin%3Da%253Db%2526c&audit=NONE") ∧
      urlText? long = urlText? brief ∧ brief = long ∧ urlText? other ≠ urlText? brief := by
  intro properties brief long other urlText?
  have url : urlText? brief = some ("http://127.0.0.1:8080/1.0/kb/payments/pagination" ++
      "?offset=0&limit=100&withPluginInfo=false&withAttempts=false" ++
      "&pluginProperty=plugin%3Da%253Db%2526c&audit=NONE") := by decide +kernel
  have method : (standard.call brief {} (.answering [])).messages.head?.map Message.method =
      some .get := by decide +kernel
  obtain ⟨first, starts, text⟩ := Option.map_eq_some_iff.1 url
  rw [starts] at method
  have told {call : Call} (same : brief.SameOperation call) (noText : call.freeText? = none)
      (sameUrl : urlText? call = urlText? brief) : brief = call := by
    obtain ⟨second, secondStarts, secondText⟩ := Option.map_eq_some_iff.1 (sameUrl.trans url)
    apply call_eq_of_url standard (by decide) (by decide) {} _ same _ _ starts secondStarts
      (Option.some.inj method) (text.trans secondText.symm)
    · simp [brief]
    · rintro fixed free ⟨⟩
    · intro fixed free isFree
      rw [noText] at isFree
      cases isFree
  have sameUrl : urlText? long = urlText? brief := by decide +kernel
  refine ⟨url, sameUrl, told (.payment rfl) rfl sameUrl, fun otherUrl => ?_⟩
  have samePlugin : brief = other := told (.payment rfl) rfl otherUrl
  simp [brief, other] at samePlugin

end BillingClient
