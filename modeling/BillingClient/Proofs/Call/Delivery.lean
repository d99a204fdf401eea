import BillingClient.Proofs.Call.Resource
import BillingClient.Proofs.Url.Query

/-!
Contract: parameters arrive as they were given.

The first message of either exchange of a call has the query of the URL that it was made from, with
the parameters behind it: those of the caller, then those of the operation, and for a created object
those for fetching it. Main statement: `send_delivers`.
-/

namespace BillingClient

open BillingClient.Client
open BillingClient.Http
open BillingClient.Url

/-! ## Exchanges -/

namespace Client

variable (client : Client)

theorem urlOf_eq_ok_iff (path : String) (query : Query) (url : Url) :
    client.urlOf path query = .ok url ↔
      ∃ parsed, Url.parse (client.config.baseUrl ++ path) = .ok parsed ∧
        url = parsed.appendPairs query.pairs := by
  unfold urlOf
  cases Url.parse (client.config.baseUrl ++ path) with
  | error cause => simp
  | ok parsed => simp [eq_comm]

/-- A mark that the server URL does not have is not in its base either. -/
theorem Config.not_mem_baseUrl {config : Config} {mark : Char}
    (absent : mark ∉ config.serverUrl.toList) : mark ∉ config.baseUrl.toList := by
  have whole := config.toList_serverUrl
  rw [whole, List.mem_append, not_or] at absent
  exact absent.1

/-- Behind a server URL without query and fragment a path keeps its own. -/
theorem parts_of_isExtension {path : String} {parsed url : Url} {pairs : List (String × String)}
    (noQuery : '?' ∉ client.config.serverUrl.toList)
    (noFragment : '#' ∉ client.config.serverUrl.toList)
    (isParsed : Url.parse (client.config.baseUrl ++ path) = .ok parsed)
    (extension : IsExtension url parsed pairs) :
    url.queryPairs = textPairs path ++ pairs ∧ url.fragment = (Parts.ofText path).fragmentText := by
  have holds := holdsParts_of_parse isParsed
  have noBaseQuery := Config.not_mem_baseUrl noQuery
  have noBaseFragment := Config.not_mem_baseUrl noFragment
  constructor
  · rw [extension.queryPairs_eq, holds.queryPairs_eq, textPairs_append noBaseQuery noBaseFragment]
  · rw [extension.fragment_eq, holds.2]
    unfold Parts.fragmentText
    rw [(parts_ofText_append noBaseQuery noBaseFragment path).2]

variable {client} {request : Request} {options : Options} {network : Network} {message : Message}

/-- The first message of a call has the parameters behind the query of its path. -/
theorem isExtension_of_head?_messages_send
    (first : ((client.send request options).outcome network).messages.head? = some message) :
    ∃ parsed, Url.parse (client.config.baseUrl ++ request.path) = .ok parsed ∧
      IsExtension message.url parsed (options.query.pairs ++ request.query.pairs) := by
  obtain ⟨url, made, drafted⟩ := exists_of_head?_messages_send client first
  obtain ⟨_, _, rfl⟩ := (message_primary_eq_ok_iff client request options url _).1 drafted
  obtain ⟨parsed, isParsed, rfl⟩ := (client.urlOf_eq_ok_iff request.path _ url).1 made
  exact ⟨parsed, isParsed, (isExtension_appendPairs parsed _).target⟩

/-- The messages behind those of the request itself fetch what it created. -/
theorem drop_messages_send {response : Response}
    (ended : ((client.primaryTalk request options).outcome network).result = .ok response) :
    let primary := (client.primaryTalk request options).outcome network
    ((client.send request options).outcome network).messages.drop primary.messages.length =
      ((client.fetchTalk request options response).outcome
        (network.after primary.messages.length)).messages := by
  have goesOn := Talk.outcome_bind_ok (client.fetchTalk request options) ended
  rw [← send_eq] at goesOn
  rw [goesOn]
  exact List.drop_left

/-- The first message that fetches a created object has the parameters for that behind the query of
its place. -/
theorem isExtension_of_head?_messages_fetchTalk {response : Response}
    (first : ((client.fetchTalk request options response).outcome network).messages.head? =
      some message) :
    ∃ location base resolved, response.header? "location" = some location ∧
      Url.parse client.config.baseUrl = .ok base ∧ base.resolve location = .ok resolved ∧
      IsExtension message.url resolved options.followQuery.pairs := by
  have fetches := fetches_fetchTalk client request options response
  generalize client.fetchTalk request options response = talk at fetches first
  cases fetches with
  | kept | unnamed | refused =>
      rw [Talk.outcome_known] at first
      cases first
  | @fetched location target asked created named leads =>
      rw [head?_messages_sendDraft] at first
      obtain ⟨base, resolved, isBase, resolves, rfl⟩ :=
        (locationUrl_eq_ok_iff client location _ target).1 leads
      refine ⟨location, base, resolved, named, isBase, resolves, ?_⟩
      rw [url_of_sentFirst? first]
      exact (isExtension_appendPairs resolved _).target

end Client

/-! ## Paths -/

/-- Only the address of a plugin can have parameters in the path of a call. -/
theorem Call.textPairs_path {call : Call} {options : Options} {request : Request}
    (asked : call.operation.request options = .ok request)
    (some : textPairs request.path ≠ []) :
    '?' ∈ request.path.toList ∧ ∃ plugin, call = .plugin plugin := by
  constructor
  · by_contra noQuery
    exact some (textPairs_eq_nil noQuery)
  · by_contra noPlugin
    obtain ⟨list, path⟩ :=
      Call.exists_resource (fun plugin isPlugin => noPlugin ⟨plugin, isPlugin⟩) asked
    apply some
    apply textPairs_eq_nil
    rw [path, toList_resource, List.mem_cons]
    rintro (slash | inTail)
    · cases slash
    · exact (isPathText_resourceTail list '?' inTail).2.1 rfl

/-! ## Parameters -/

/-- The first message of a call has the parameters of its request behind those of the caller, and
these behind what the server URL or the address of a plugin has of its own. -/
theorem exists_queryPairs_of_head?_messages_call {client : Client} {call : Call}
    {options : Options} {network : Network} {message : Message}
    (first : (client.call call options network).messages.head? = some message) :
    ∃ request own, call.operation.request options = .ok request ∧
      message.url.queryPairs = own ++ options.query.pairs ++ request.query.pairs ∧
      ('?' ∉ client.config.serverUrl.toList → '#' ∉ client.config.serverUrl.toList →
        (∀ plugin, call ≠ .plugin plugin) → own = []) := by
  obtain ⟨request, _, asked, _⟩ := exists_of_head?_messages_call client first
  rw [messages_call client asked] at first
  obtain ⟨parsed, isParsed, extension⟩ := isExtension_of_head?_messages_send first
  refine ⟨request, parsed.queryPairs, asked, ?_, fun noQuery noFragment server => ?_⟩
  · rw [extension.queryPairs_eq, List.append_assoc]
  · rw [(holdsParts_of_parse isParsed).queryPairs_eq, textPairs_append
      (Config.not_mem_baseUrl noQuery) (Config.not_mem_baseUrl noFragment)]
    by_contra some
    obtain ⟨_, plugin, isPlugin⟩ := Call.textPairs_path asked some
    exact server plugin isPlugin

/-- Behind a server URL without query and fragment, the first message of a call has the pairs in the
text of its path, those of the caller and those of the operation, in this order; only calls of
plugins have pairs in their paths. The first message that fetches a created object has the pairs of
the place that the response names, and those for fetching. Without parameters a query stays as it
is, and so does a fragment in any case. -/
theorem send_delivers (client : Client) (request : Request) (options : Options)
    (network : Network) :
    let primary := (client.primaryTalk request options).outcome network
    let sent := ((client.send request options).outcome network).messages
    (∀ message, sent.head? = some message →
      (∃ parsed, Url.parse (client.config.baseUrl ++ request.path) = .ok parsed ∧
        IsExtension message.url parsed (options.query.pairs ++ request.query.pairs)) ∧
      ('?' ∉ client.config.serverUrl.toList → '#' ∉ client.config.serverUrl.toList →
        message.url.queryPairs =
            textPairs request.path ++ options.query.pairs ++ request.query.pairs ∧
          message.url.fragment = (Parts.ofText request.path).fragmentText)) ∧
    (∀ response message, primary.result = .ok response →
      (sent.drop primary.messages.length).head? = some message →
      ∃ location base resolved, response.header? "location" = some location ∧
        Url.parse client.config.baseUrl = .ok base ∧ base.resolve location = .ok resolved ∧
        IsExtension message.url resolved options.followQuery.pairs ∧
        ((Parts.ofText location).query ≠ none → resolved.queryPairs = textPairs location) ∧
        resolved.fragment = (Parts.ofText location).fragmentText) ∧
    ∀ call : Call, call.operation.request options = .ok request →
      (client.call call options network).messages = sent ∧
      (textPairs request.path ≠ [] →
        '?' ∈ request.path.toList ∧ ∃ plugin, call = .plugin plugin) := by
  intro primary sent
  refine ⟨fun message first => ?_, fun response message ended second => ?_, fun call asked => ?_⟩
  · obtain ⟨parsed, isParsed, extension⟩ := isExtension_of_head?_messages_send first
    refine ⟨⟨parsed, isParsed, extension⟩, fun noQuery noFragment => ?_⟩
    rw [List.append_assoc]
    exact client.parts_of_isExtension noQuery noFragment isParsed extension
  · rw [drop_messages_send ended] at second
    obtain ⟨location, base, resolved, named, isBase, resolves, extension⟩ :=
      isExtension_of_head?_messages_fetchTalk second
    refine ⟨location, base, resolved, named, isBase, resolves, extension, ?_⟩
    rcases resolve_parts resolves with holds | ⟨noQuery, _, fragment⟩
    · exact ⟨fun _ => holds.queryPairs_eq, holds.2⟩
    · exact ⟨absurd noQuery, fragment⟩
  · exact ⟨messages_call client asked network, Call.textPairs_path asked⟩

/-- A plugin is called with pairs and a fragment in its address, and what it creates is fetched from
a place that has both as well. -/
theorem send_delivers_plugin :
    let call := Call.plugin (.post "p?a=b&&c#d" none)
    let options : Options :=
      { query := ⟨[("", "ü&=+%#"), ("a", "")]⟩, followsLocation := some true
        followQuery := ⟨[("y", " ")]⟩ }
    let network := Network.answering [createdAt "/x?y=%2B&#z?w=1", ⟨200, [], []⟩]
    ∃ first second, (standard.call call options network).messages = [first, second] ∧
      first.url.queryPairs = [("a", "b"), ("c", ""), ("", "ü&=+%#"), ("a", "")] ∧
      second.url.queryPairs = [("y", "+"), ("y", " ")] := by
  intro call options network
  let request : Request := { method := .post, path := "/plugins/p?a=b&&c#d", accept := "*/*" }
  have asked : call.operation.request options = .ok request := eq_ok_of_toOption (by decide +kernel)
  have ended : ((standard.primaryTalk request options).outcome network).result =
      .ok (createdAt "/x?y=%2B&#z?w=1") := eq_ok_of_toOption (by decide +kernel)
  have one : ((standard.primaryTalk request options).outcome network).messages.length = 1 := by
    decide +kernel
  obtain ⟨primary, fetched, calls⟩ := send_delivers standard request options network
  have two : (standard.call call options network).messages.length = 2 := by decide +kernel
  obtain ⟨first, second, messages⟩ := List.length_eq_two.1 two
  rw [← (calls call asked).1, messages] at primary fetched
  refine ⟨first, second, messages, ?_, ?_⟩
  · have path : textPairs request.path = [("a", "b"), ("c", "")] := by decide +kernel
    rw [((primary first rfl).2 (by decide) (by decide)).1, path]
    rfl
  · rw [one] at fetched
    obtain ⟨location, base, resolved, named, _, _, extension, own, _⟩ :=
      fetched _ second ended rfl
    have isNamed : (createdAt "/x?y=%2B&#z?w=1").header? "location" = some "/x?y=%2B&#z?w=1" := by
      decide +kernel
    cases isNamed.symm.trans named
    have place : textPairs "/x?y=%2B&#z?w=1" = [("y", "+")] := by decide +kernel
    rw [extension.queryPairs_eq, own (by decide +kernel), place]
    rfl

end BillingClient
