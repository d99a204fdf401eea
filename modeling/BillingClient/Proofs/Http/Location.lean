import BillingClient.Proofs.Http.Redirect
import BillingClient.Proofs.Url.Origin

/-!
Contract: locations that are paths lead no message to another server.

A redirect to a path keeps scheme, host and port of the message that it answers, and with it every
message of an exchange does. Main statement: `origin_follow`.
-/

namespace BillingClient.Http

open BillingClient.Text
open BillingClient.Url

/-! ## Values that are paths -/

/-- Whether a value, without its tabs and the blanks around it, starts with one slash alone. -/
def Header.isPath (value : String) : Bool :=
  match trimBoth (· == ' ') (value.toList.filter (· != '\t')) with
  | '/' :: rest => !rest.head?.any (fun c => c == '/' || c == '\\')
  | _ => false

theorem filter_dropWhile {stays outer blank : Char → Bool} {text : List Char}
    (leaves : ∀ c ∈ text, stays c = false → outer c = true)
    (same : ∀ c ∈ text, stays c = true → outer c = blank c) :
    (text.dropWhile outer).filter stays = (text.filter stays).dropWhile blank := by
  induction text with
  | nil => rfl
  | cons c text inductionHypothesis =>
      rw [List.forall_mem_cons] at leaves same
      have later := inductionHypothesis leaves.2 same.2
      by_cases kept : stays c = true
      · have isSame := same.1 kept
        rw [List.filter_cons_of_pos kept, List.dropWhile_cons, List.dropWhile_cons, ← isSame]
        split
        · exact later
        · rw [List.filter_cons_of_pos kept]
      · have isOuter := leaves.1 (Bool.not_eq_true _ ▸ kept)
        rw [List.filter_cons_of_neg kept, List.dropWhile_cons_of_pos isOuter]
        exact later

theorem filter_trimBoth (blank : Char → Bool) {stays outer : Char → Bool} {text : List Char}
    (leaves : ∀ c ∈ text, stays c = false → outer c = true)
    (same : ∀ c ∈ text, stays c = true → outer c = blank c) :
    (trimBoth outer text).filter stays = trimBoth blank (text.filter stays) := by
  have inText {c : Char} (charIn : c ∈ (text.dropWhile outer).reverse) : c ∈ text :=
    (List.dropWhile_sublist _).subset (List.mem_reverse.1 charIn)
  unfold trimBoth
  rw [List.filter_reverse, filter_dropWhile (fun c charIn => leaves c (inText charIn))
    (fun c charIn => same c (inText charIn)), List.filter_reverse, filter_dropWhile leaves same]

/-- A header value holds no line ends and no controls but tabs, so a URL drops its tabs and the
blanks around it alone. -/
theorem clean_of_isValue {value : String} (isValue : Header.isValue value = true) :
    clean value = trimBoth (· == ' ') (value.toList.filter (· != '\t')) := by
  have plain : ∀ c ∈ value.toList, c = '\t' ∨ 0x20 ≤ c.toNat := by
    intro c charIn
    have allowed := List.all_eq_true.1 isValue c charIn
    simp only [Bool.or_eq_true, Bool.and_eq_true, beq_iff_eq, decide_eq_true_eq] at allowed
    exact allowed.imp_right And.left
  have inner : ∀ c ∈ value.toList, isInner c = (c != '\t') := by
    intro c charIn
    rcases plain c charIn with rfl | noControl
    · decide
    · have notTab : c ≠ '\t' := by
        rintro rfl
        contradiction
      rw [isInner_of_le noControl, bne_iff_ne.2 notTab]
  show (trimBoth isOuter value.toList).filter isInner = _
  rw [filter_trimBoth (· == ' '), List.filter_congr inner]
  · intro c charIn dropped
    rcases plain c charIn with rfl | noControl
    · decide
    · rw [isInner_of_le noControl] at dropped
      contradiction
  · intro c charIn kept
    rcases plain c charIn with rfl | noControl
    · contradiction
    · rw [Bool.eq_iff_iff]
      simp only [isOuter, decide_eq_true_eq, beq_iff_eq]
      constructor
      · intro blank
        exact Char.toNat_inj.1 (Nat.le_antisymm blank noControl)
      · rintro rfl
        decide

theorem clean_trimmed (header : Header) : clean header.trimmed.value = clean header.value := by
  have blank : ∀ c, (c == ' ' || c == '\t') = true → decide (c.toNat ≤ 0x20) = true := by
    intro c isBlank
    rcases Bool.or_eq_true_iff.1 isBlank with space | tab
    · rw [beq_iff_eq.1 space]
      rfl
    · rw [beq_iff_eq.1 tab]
      rfl
  unfold clean Header.trimmed
  dsimp only
  rw [String.toList_ofList, trimBoth_trimBoth blank]

theorem Header.isPathOnly_trimmed {header : Header} (isValue : isValue header.value = true)
    (pathOnly : isPath header.value = true) : IsPathOnly header.trimmed.value := by
  unfold isPath at pathOnly
  unfold IsPathOnly
  rw [clean_trimmed, clean_of_isValue isValue]
  split at pathOnly
  · rename_i rest whole
    refine ⟨rest, whole, fun c isFirst => ?_⟩
    rw [isFirst] at pathOnly
    simpa [isSlash] using pathOnly
  · contradiction

/-! ## Responses -/

/-- Whether a response leads on: it redirects, or it says that an object was created. -/
def Response.leadsOn (response : Response) : Bool :=
  response.status = 201 || isSeeOther response.status || isSameElsewhere response.status

/-- Whether the place that a response leads to is a path, in characters that a header can hold. -/
def Response.LeadsByPath (response : Response) : Prop :=
  response.leadsOn = true → ∀ header ∈ Header.find? response.headers "location",
    Header.isValue header.value = true ∧ Header.isPath header.value = true

instance : DecidablePred Response.LeadsByPath :=
  fun response => inferInstanceAs (Decidable (response.leadsOn = true → _))

/-- The place that a response leads to when it has arrived. -/
theorem Response.LeadsByPath.arriving {response : Response} (byPath : response.LeadsByPath)
    (method : Method) (leadsOn : (response.arriving method).leadsOn = true) {header : Header}
    (found : Header.find? (response.arriving method).headers "location" = some header) :
    IsPathOnly header.value := by
  have sent : (Header.find? response.headers "location").map Header.trimmed = some header := by
    rw [← found]
    unfold Header.find? Response.arriving
    rw [List.find?_map]
    rfl
  obtain ⟨first, isFirst, rfl⟩ := Option.map_eq_some_iff.1 sent
  obtain ⟨isValue, isPath⟩ := byPath leadsOn first isFirst
  exact Header.isPathOnly_trimmed isValue isPath

theorem Network.exists_of_mem_received {responses : List Response} {messages : List Message}
    {response : Response} (received : response ∈ (Network.answering responses).received messages) :
    ∃ sent ∈ responses, ∃ method, response = sent.arriving method := by
  unfold Network.received at received
  dsimp only at received
  induction responses generalizing messages with
  | nil => exact absurd received (by simp)
  | cons first responses inductionHypothesis =>
      cases messages with
      | nil => exact absurd received (by simp)
      | cons message messages =>
          rw [List.zipWith_cons_cons] at received
          rcases List.mem_cons.1 received with rfl | later
          · exact ⟨first, List.mem_cons_self, message.method, rfl⟩
          · obtain ⟨sent, sentIn, method, isSent⟩ := inductionHypothesis later
            exact ⟨sent, List.mem_cons_of_mem _ sentIn, method, isSent⟩

/-! ## Exchanges -/

theorem origin_eq {left right : Url} (scheme : left.scheme = right.scheme)
    (authority : left.authority = right.authority) : left.origin = right.origin := by
  unfold origin host? port? kind
  rw [scheme, authority]

/-- A redirect to a path leads to the same server. -/
theorem origin_redirectTarget? {url target : Url} {response : Response} {method : Method}
    (byPath : response.LeadsByPath)
    (leads : redirectTarget? url (response.arriving method) = some target) :
    target.origin = url.origin := by
  unfold redirectTarget? at leads
  split at leads
  · rename_i redirects
    obtain ⟨header, found, leads⟩ := Option.bind_eq_some_iff.1 leads
    obtain ⟨resolved, _⟩ := Option.filter_eq_some_iff.1 leads
    have leadsOn : (response.arriving method).leadsOn = true := by
      unfold Response.leadsOn
      rw [Bool.or_assoc, redirects, Bool.or_true]
    cases resolves : url.resolve header.value with
    | error cause =>
        rw [resolves] at resolved
        cases resolved
    | ok place =>
        rw [resolves] at resolved
        cases resolved
        obtain ⟨scheme, authority⟩ := origin_resolve (byPath.arriving method leadsOn found) resolves
        exact origin_eq scheme authority
  · cases leads

/-- Every message of an exchange goes to the server of the first, if all redirects are to
paths. -/
theorem origin_follow {responses : List Response}
    (byPath : ∀ response ∈ responses, response.LeadsByPath) (left : Nat) (message : Message) :
    ∀ sent ∈ ((follow left message).answered responses).messages,
      sent.url.origin = message.url.origin := by
  induction left using Nat.strongRecOn generalizing message responses with
  | ind left inductionHypothesis =>
      obtain ⟨next, shape, cases⟩ := follow_cases left message
      rw [shape]
      cases responses with
      | nil =>
          intro sent sentIn
          rw [List.mem_singleton.1 sentIn]
      | cons first responses =>
          rw [List.forall_mem_cons] at byPath
          rw [Dialogue.messages_answered_send, List.forall_mem_cons]
          refine ⟨rfl, ?_⟩
          rcases cases (first.arriving message.method) with ended | ⟨failure, ended⟩ |
            ⟨less, target, rfl, leads, _, goesOn⟩
          · rw [ended]
            cases responses <;> exact List.forall_mem_nil _
          · rw [ended]
            cases responses <;> exact List.forall_mem_nil _
          · have step : (redirected message first.status target).url = target := by
              unfold redirected
              dsimp only
              split <;> rfl
            rw [goesOn]
            intro sent sentIn
            rw [inductionHypothesis less (Nat.lt_succ_self less) byPath.2 _ sent sentIn]
            exact (congrArg origin step).trans (origin_redirectTarget? byPath.1 leads)

end BillingClient.Http
