import BillingClient.Proofs.Call.Delivery
import BillingClient.Proofs.Call.Origin
import BillingClient.Proofs.Url.Root

/-!
Contract: which server URLs a client can work with.

A server URL is accepted for what is read from it, but the URLs of requests are made from its text.
They are at the server in any case, and under its path if the text ends where this does, which is
the same for every call that puts no text of the caller into its path. Main statement:
`call_reaches_iff`.
-/

namespace BillingClient

open BillingClient.Client
open BillingClient.Http
open BillingClient.Text
open BillingClient.Url

/-- Whether a URL is at a server, has a path in place of the slashes at the end of the path of the
server, and has some parameters and no more in its query. -/
structure Url.Reaches (url server : Url) (path : String) (query : Query) : Prop where
  origin_eq : url.origin = server.origin
  pathText_eq : url.pathText = withoutSlashes server.pathText ++ path
  query_eq : url.query = extendQuery none query.pairs

/-- Whether a server URL ends where the path of the server does. -/
structure Client.Config.EndsAtRoot (config : Config) (server : Url) : Prop where
  noQuery : '?' ∉ config.serverUrl.toList
  noFragment : '#' ∉ config.serverUrl.toList
  /-- Without a slash to drop at its end, the URL does not end with a blank either, nor with a
  backslash, nor with a slash in front of tabs and line ends. -/
  endsVisibly : slashCount config.serverUrl = 0 →
    ∀ c ∈ (config.serverUrl.toList.filter isInner).getLast?, 0x20 < c.toNat ∧ isSlash true c = false
  /-- The slashes at the end of the path are dropped with those of the URL, or are just the one of
  every path. -/
  dropsSlashes : slashCount server.pathText ≤ max 1 (slashCount config.serverUrl)

/-- The path of a resource is more than slashes. -/
theorem Client.Request.resource_ne_slashes (list : List String) (count : Nat) :
    Request.resource list ≠ slashes count := by
  intro same
  have digitIn : '1' ∈ (Request.resource list).toList := by
    rw [toList_resource, resourceTail]
    exact List.mem_cons_of_mem _ (List.mem_append_left _ (by decide +kernel))
  rw [same, slashes, String.toList_ofList] at digitIn
  exact absurd (List.eq_of_mem_replicate digitIn) (by decide)

namespace Client

variable {client : Client} {server : Url} (validated : client.config.validate = .ok server)

include validated

/-- The server URL of a client, as its base and slashes. -/
theorem parse_of_validate :
    Url.parse (String.ofList (client.config.baseUrl.toList ++
      List.replicate (slashCount client.config.serverUrl) '/')) = .ok server ∧
      Http.isWebAddress server = true := by
  obtain ⟨found, valid, parsed, isWeb⟩ := client.exists_server
  cases validated.symm.trans valid
  rw [← client.config.toList_serverUrl, String.ofList_toList]
  exact ⟨parsed, isWeb⟩

/-- The base of a client has the root of its server exactly if the server URL ends there. -/
theorem endsAtRoot_iff (noQuery : '?' ∉ client.config.baseUrl.toList)
    (noFragment : '#' ∉ client.config.baseUrl.toList) :
    client.config.EndsAtRoot server ↔ HasRoot client.config.baseUrl.toList server := by
  obtain ⟨parsed, isWeb⟩ := parse_of_validate validated
  have unmarked {mark : Char} (notSlash : mark ≠ '/')
      (notBase : mark ∉ client.config.baseUrl.toList) :
      mark ∉ client.config.serverUrl.toList := by
    rw [client.config.toList_serverUrl, List.mem_append, not_or]
    exact ⟨notBase, fun markIn => notSlash (List.eq_of_mem_replicate markIn)⟩
  -- A URL without slashes at its end is its own base.
  have isBase (none : slashCount client.config.serverUrl = 0) :
      client.config.serverUrl.toList = client.config.baseUrl.toList := by
    rw [client.config.toList_serverUrl, none, List.replicate_zero, List.append_nil]
  rw [hasRoot_iff noQuery noFragment parsed isWeb]
  constructor
  · rintro ⟨_, _, endsVisibly, dropsSlashes⟩
    refine ⟨fun none => ?_, dropsSlashes⟩
    rw [← isBase none]
    exact endsVisibly none
  · rintro ⟨endsVisibly, dropsSlashes⟩
    refine ⟨unmarked (by decide) noQuery, unmarked (by decide) noFragment, fun none => ?_,
      dropsSlashes⟩
    rw [isBase none]
    exact endsVisibly none

section

variable {list : List String} (areEntered : ∀ segment ∈ list, IsEntered segment)

include areEntered

/-- A server that one resource is under ends at its root. -/
theorem endsAtRoot_of_reaches {query : Query} {url : Url}
    (made : client.urlOf (Request.resource list) query = .ok url)
    (reaches : url.Reaches server (Request.resource list) query) :
    client.config.EndsAtRoot server := by
  obtain ⟨parsed, isWeb⟩ := parse_of_validate validated
  obtain ⟨read, isRead, rfl⟩ := (client.urlOf_eq_ok_iff _ query url).1 made
  rw [baseUrl_append_resource] at isRead
  have path : read.pathText = withoutSlashes server.pathText ++ Request.resource list :=
    reaches.pathText_eq
  obtain ⟨noQuery, noFragment⟩ := unmarked_of_pathText parsed isWeb isRead path
    (Request.resource_ne_slashes list)
  obtain ⟨authority, entered, under⟩ := parse_base_path noQuery noFragment parsed isWeb
    (isPathText_resourceTail list) isRead
  rw [endsAtRoot_iff validated noQuery noFragment, hasRoot_iff_of_under under]
  rw [Except.ok.inj (isRead.symm.trans (under _ (isPathText_resourceTail list)))] at path
  have reached := segmentsText_walk_resourceTail entered areEntered
  exact ((String.append_left_inj _).1 (reached.symm.trans path)).symm

/-- All resources are under a server that ends at its root. -/
theorem Config.EndsAtRoot.exists_reaches (ends : client.config.EndsAtRoot server) (query : Query) :
    ∃ url, client.urlOf (Request.resource list) query = .ok url ∧
      url.Reaches server (Request.resource list) query := by
  obtain ⟨authority, entered, under, root⟩ := (endsAtRoot_iff validated
    (Config.not_mem_baseUrl ends.noQuery) (Config.not_mem_baseUrl ends.noFragment)).1 ends
  have made : client.urlOf (Request.resource list) query =
      .ok ((goingOn server.scheme authority entered (resourceTail list)).appendPairs
        query.pairs) := by
    rw [urlOf_eq_ok_iff, baseUrl_append_resource]
    exact ⟨_, under _ (isPathText_resourceTail list), rfl⟩
  obtain ⟨_, _, _, atServer⟩ := client.exists_base validated
  refine ⟨_, made, atServer _ _ query ⟨_, toList_resource list⟩ made, ?_, rfl⟩
  rw [root]
  exact segmentsText_walk_resourceTail entered areEntered

end

end Client

/-! ## Calls -/

/-- Which server URLs a client can work with. Whatever is accepted, requests go to the scheme, host
and port that are read from it, if they go anywhere. Their URLs are made, with the path of the call
behind the path of the server, and with its parameters alone, exactly if the server URL ends where
the path of the server does. -/
theorem call_reaches_iff (client : Client) : ∃ server, client.config.validate = .ok server ∧
    ∀ (call : Call) (options : Options) (request : Request), (∀ plugin, call ≠ .plugin plugin) →
      call.freeText? = none → call.operation.request options = .ok request →
      let query := options.query ++ request.query
      (∀ url, client.urlOf request.path query = .ok url → url.origin = server.origin) ∧
        ((∃ url, client.urlOf request.path query = .ok url ∧
          url.Reaches server request.path query) ↔ client.config.EndsAtRoot server) := by
  obtain ⟨server, validated, _⟩ := client.exists_server
  refine ⟨server, validated, fun call options request notPlugin noText asked => ⟨?_, ?_⟩⟩
  · obtain ⟨_, _, _, atServer⟩ := client.exists_base validated
    exact fun url => atServer _ url _ (Call.exists_path_eq asked)
  · obtain ⟨list, path, areEntered⟩ := Call.enters_of_noText notPlugin noText options request asked
    rw [path]
    constructor
    · rintro ⟨url, made, reaches⟩
      exact endsAtRoot_of_reaches validated areEntered made reaches
    · intro ends
      exact ends.exists_reaches validated areEntered _

/-- A server URL with a path and two slashes behind it can be worked with, one with a query not. -/
theorem call_reaches_permissions :
    let path := "/1.0/kb/security/permissions"
    let under : Client :=
      { config := { serverUrl := "http://127.0.0.1:8080/killbill//" }
        isAccepted := eq_ok_of_toOption (by decide +kernel) }
    let marked : Client :=
      { config := { serverUrl := "http://127.0.0.1:8080/?x=1" }
        isAccepted := eq_ok_of_toOption (by decide +kernel) }
    (∃ server url, under.config.validate = .ok server ∧ under.urlOf path {} = .ok url ∧
      url.Reaches server path {}) ∧
    ∃ server, marked.config.validate = .ok server ∧
      ¬ ∃ url, marked.urlOf path {} = .ok url ∧ url.Reaches server path {} := by
  intro path under marked
  have asked : Call.permissions.operation.request {} = .ok { method := .get, path } :=
    eq_ok_of_toOption (by decide +kernel)
  constructor
  · obtain ⟨server, validated, calls⟩ := call_reaches_iff under
    have isServer : under.config.validate = .ok ⟨"http", some ⟨"", "", .ipv4 0x7F000001, some 8080⟩,
        .segments ["killbill", "", ""], none, none⟩ := eq_ok_of_toOption (by decide +kernel)
    obtain rfl := Except.ok.inj (validated.symm.trans isServer)
    have twoSlashes : slashCount under.config.serverUrl = 2 := by decide +kernel
    obtain ⟨url, made, reaches⟩ := (calls .permissions _ _ nofun rfl asked).2.2 {
      noQuery := by decide +kernel
      noFragment := by decide +kernel
      endsVisibly := by
        rw [twoSlashes]
        exact nofun
      dropsSlashes := by decide +kernel }
    exact ⟨_, url, validated, made, reaches⟩
  · obtain ⟨server, validated, calls⟩ := call_reaches_iff marked
    refine ⟨server, validated, fun reached => ?_⟩
    have ends := (calls .permissions _ _ nofun rfl asked).2.1 reached
    exact ends.noQuery (by decide +kernel)

end BillingClient
