import BillingClient.Proofs.Call.Result
import BillingClient.Proofs.Client.Resource
import BillingClient.Proofs.Call.Resource
import BillingClient.Proofs.Http.Location

/-!
Contract: a call whose responses lead to paths alone stays at its server.

The path of every request starts with a slash, so it stands behind the base of the server URL
without changing the server that this names (`origin_urlOf`). A place that is a path is at the
server of the base as well, and no redirect to a path leads away (`origin_follow`). Main statement:
`call_origin`.
-/

namespace BillingClient

open BillingClient.Client
open BillingClient.Http

/-- All calls ask for paths under the server URL, those of plugins included. -/
theorem Call.exists_path_eq {call : Call} {options : Options} {request : Request}
    (asked : call.operation.request options = .ok request) :
    ∃ rest, request.path.toList = '/' :: rest := by
  have ofResource (server : ∀ plugin, call ≠ .plugin plugin) :
      ∃ rest, request.path.toList = '/' :: rest := by
    obtain ⟨list, path⟩ := Call.exists_resource server asked
    exact ⟨resourceTail list, by rw [path, toList_resource]⟩
  have ofPlugin (uri : String) : ∃ rest, (PluginCall.path uri).toList = '/' :: rest :=
    ⟨_, String.toList_append⟩
  cases call with
  | plugin call =>
      cases call with
      | get | head | post | put | delete | options =>
          cases asked
          exact ofPlugin _
  | _ => exact ofResource nofun

/-! ## The server of a client -/

namespace Client

variable (client : Client) {server : Url}

/-- The base of a client names its server as the server URL does, and so does every path behind it
that is part of a URL. -/
theorem exists_base_server (validated : client.config.validate = .ok server) :
    ∃ base, Url.parse client.config.baseUrl = .ok base ∧
      (base.scheme = server.scheme ∧ base.authority = server.authority) ∧
      ∀ path url query, (∃ rest, path.toList = '/' :: rest) → client.urlOf path query = .ok url →
        url.scheme = server.scheme ∧ url.authority = server.authority := by
  obtain ⟨found, valid, parsed, isWeb⟩ := client.exists_server
  cases validated.symm.trans valid
  have whole := client.config.toList_serverUrl
  rw [← String.ofList_toList (s := client.config.serverUrl), whole] at parsed
  obtain ⟨base, isBase, scheme, authority, paths⟩ := Url.exists_server_of_parse parsed isWeb
  rw [String.ofList_toList] at isBase
  refine ⟨base, isBase, ⟨scheme, authority⟩, ?_⟩
  rintro path url query ⟨rest, pathIs⟩ made
  have joined : client.config.baseUrl ++ path =
      String.ofList (client.config.baseUrl.toList ++ '/' :: rest) := by
    rw [← String.toList_inj, String.toList_append, String.toList_ofList, pathIs]
  unfold urlOf at made
  rw [joined] at made
  split at made
  · rename_i found parsed
    cases made
    exact paths rest found parsed
  · cases made

/-- The base of a client is at its server, and so is every path behind it that is part of a URL. -/
theorem exists_base (validated : client.config.validate = .ok server) :
    ∃ base, Url.parse client.config.baseUrl = .ok base ∧ base.origin = server.origin ∧
      ∀ path url query, (∃ rest, path.toList = '/' :: rest) → client.urlOf path query = .ok url →
        url.origin = server.origin := by
  obtain ⟨base, isBase, ⟨scheme, authority⟩, paths⟩ := client.exists_base_server validated
  refine ⟨base, isBase, origin_eq scheme authority, fun path url query rooted made => ?_⟩
  obtain ⟨scheme, authority⟩ := paths path url query rooted made
  exact origin_eq scheme authority

/-- The place that a path names is at the server. -/
theorem origin_locationUrl (validated : client.config.validate = .ok server) {location : String}
    {query : Query} {url : Url} (pathOnly : Url.IsPathOnly location)
    (leads : client.locationUrl location query = .ok url) : url.origin = server.origin := by
  obtain ⟨base, isBase, atServer, _⟩ := client.exists_base validated
  obtain ⟨found, resolved, isFound, resolves, rfl⟩ :=
    (locationUrl_eq_ok_iff client location query url).1 leads
  cases isBase.symm.trans isFound
  obtain ⟨scheme, authority⟩ := Url.origin_resolve pathOnly resolves
  exact (origin_eq scheme authority).trans atServer

variable {responses : List Response} (byPath : ∀ response ∈ responses, response.LeadsByPath)

include byPath

theorem origin_sendDraft {draft : Draft} (atServer : draft.url.origin = server.origin) :
    ∀ message ∈ ((client.sendDraft draft).outcome (.answering responses)).messages,
      message.url.origin = server.origin := by
  rw [sendDraft_eq]
  cases made : draft.message client.config.userAgent with
  | error failure =>
      rw [Talk.outcome_known]
      exact List.forall_mem_nil _
  | ok message =>
      obtain ⟨_, _, rfl⟩ := (Draft.message_eq_ok_iff draft _ message).1 made
      dsimp only
      rw [messages_exchangeTalk]
      intro sent sentIn
      rw [origin_follow byPath maxRedirects _ sent sentIn]
      exact (origin_target draft.url).trans atServer

theorem origin_fetchTalk (validated : client.config.validate = .ok server) (request : Request)
    (options : Options) {response : Response}
    (pathOnly : response.status = 201 → ∀ location, response.header? "location" = some location →
      Url.IsPathOnly location) :
    ∀ message ∈ ((client.fetchTalk request options response).outcome
      (.answering responses)).messages, message.url.origin = server.origin := by
  have fetches := fetches_fetchTalk client request options response
  generalize client.fetchTalk request options response = talk at fetches
  cases fetches with
  | kept | unnamed | refused =>
      rw [Talk.outcome_known]
      exact List.forall_mem_nil _
  | fetched _ created named leads =>
      apply client.origin_sendDraft byPath
      exact client.origin_locationUrl validated (pathOnly created _ named) leads

theorem origin_send (validated : client.config.validate = .ok server) {request : Request}
    (rooted : ∃ rest, request.path.toList = '/' :: rest) (options : Options) :
    ∀ message ∈ ((client.send request options).outcome (.answering responses)).messages,
      message.url.origin = server.origin := by
  have primary : ∀ message ∈
      ((client.primaryTalk request options).outcome (.answering responses)).messages,
      message.url.origin = server.origin := by
    unfold primaryTalk
    cases made : client.urlOf request.path (options.query ++ request.query) with
    | error error =>
        rw [known_error_bind, Talk.outcome_known]
        exact List.forall_mem_nil _
    | ok url =>
        obtain ⟨base, _, _, paths⟩ := client.exists_base validated
        rw [known_ok_bind]
        exact client.origin_sendDraft byPath (paths request.path url _ rooted made)
  rw [send_eq]
  cases ended : ((client.primaryTalk request options).outcome (.answering responses)).result with
  | error error =>
      rw [Talk.outcome_bind_error _ ended]
      dsimp only
      exact primary
  | ok response =>
      rw [Talk.outcome_bind_ok _ ended, Outcome.afterAll]
      dsimp only
      rw [List.forall_mem_append]
      refine ⟨primary, ?_⟩
      have received := List.mem_of_getLast? (getLast?_received_primaryTalk ended)
      obtain ⟨sent, sentIn, method, rfl⟩ := Network.exists_of_mem_received received
      apply client.origin_fetchTalk (fun other otherIn => byPath other (List.mem_of_mem_drop otherIn))
        validated
      intro created location named
      obtain ⟨header, found, readable⟩ := Option.bind_eq_some_iff.1 named
      have value : header.value = location := by
        unfold Header.readable? at readable
        split at readable
        · exact Option.some.inj readable
        · cases readable
      have lower : "location".toLower = "location" := by decide +kernel
      rw [lower] at found
      rw [← value]
      apply (byPath sent sentIn).arriving method ?_ found
      unfold Response.leadsOn
      rw [created]
      rfl

end Client

/-! ## Calls -/

/-- Every message of a call goes to the scheme, host and port of the server URL, if the places that
the responses lead to are paths. -/
theorem call_origin (client : Client) (call : Call) (options : Options) (responses : List Response)
    (byPath : ∀ response ∈ responses, response.LeadsByPath) :
    ∃ server, client.config.validate = .ok server ∧
      ∀ message ∈ (client.call call options (.answering responses)).messages,
        message.url.origin = server.origin := by
  obtain ⟨server, validated, _⟩ := client.exists_server
  refine ⟨server, validated, ?_⟩
  unfold Client.call Client.perform
  cases asked : call.operation.request options with
  | error error =>
      rw [known_error_bind, Talk.outcome_known]
      exact List.forall_mem_nil _
  | ok request =>
      rw [known_ok_bind, ask, Talk.messages_bind_known]
      exact client.origin_send byPath validated (Call.exists_path_eq asked) options

/-- A created object that is fetched from a path, by way of another path with tabs and blanks
around it. -/
theorem call_origin_created :
    let responses := [createdAt "/1.0/kb/accounts/7",
      ⟨302, [⟨"location", " \t/1.0\t/kb/accounts/8 "⟩], []⟩, ⟨200, [], []⟩]
    let sent := (standard.call (.account (.create {})) { createdBy := some "me" }
      (.answering responses)).messages
    sent.length = 3 ∧ ∀ message ∈ sent,
      message.url.origin = ⟨"http", some (.ipv4 0x7F000001), some 8080⟩ := by
  intro responses sent
  refine ⟨by decide +kernel, ?_⟩
  obtain ⟨server, validated, atServer⟩ := call_origin standard (.account (.create {}))
    { createdBy := some "me" } responses (by decide +kernel)
  have isServer : standard.config.validate =
      .ok ⟨"http", some ⟨"", "", .ipv4 0x7F000001, some 8080⟩, .segments [""], none, none⟩ :=
    eq_ok_of_toOption (by decide +kernel)
  cases validated.symm.trans isServer
  exact atServer

end BillingClient
