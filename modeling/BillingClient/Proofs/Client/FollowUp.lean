import BillingClient.Proofs.Client.Talk
import BillingClient.Proofs.Http.Draft
import Mathlib.Tactic.Tauto

/-!
Contract: how a created object is fetched.

A call is its primary exchange, and when that ends with a 201 and the object is to be fetched,
one more exchange: `send_eq`. Main statement: `send_follows_location`, for what the second
exchange asks for and what both first messages say of the caller.
-/

namespace BillingClient.Client

open BillingClient.Http

/-! ## Headers -/

theorem mem_headerOf {name : String} {value : Option String} {pair : String × String} :
    pair ∈ headerOf name value ↔ ∃ present, value = some present ∧ pair = (name, present) := by
  unfold headerOf
  cases value <;> simp

/-- The names of the headers that say who asks. -/
def identityNames : List String :=
  ["Authorization", "Accept", "X-Killbill-ApiKey", "X-Killbill-ApiSecret", "X-Request-Id"]

/-- The names of the headers that name the author of a change. -/
def auditNames : List String :=
  ["X-Killbill-CreatedBy", "X-Killbill-Reason", "X-Killbill-Comment"]

theorem name_mem_identityNames {client : Client} {accept : String} {options : Options}
    {pair : String × String} (pairIn : pair ∈ client.identityHeaders accept options) :
    pair.1 ∈ identityNames := by
  simp only [identityHeaders, List.mem_append, List.mem_cons, List.not_mem_nil, or_false,
    mem_headerOf] at pairIn
  rcases pairIn with (((rfl | rfl) | ⟨_, _, rfl⟩) | ⟨_, _, rfl⟩) | ⟨_, _, rfl⟩
  all_goals simp [identityNames]

theorem name_mem_auditNames {options : Options} {pair : String × String}
    (pairIn : pair ∈ auditHeaders options) : pair.1 ∈ auditNames := by
  simp only [auditHeaders, List.mem_append, mem_headerOf] at pairIn
  rcases pairIn with (⟨_, _, rfl⟩ | ⟨_, _, rfl⟩) | ⟨_, _, rfl⟩
  all_goals simp [auditNames]

/-- The default user agent, unless one of some headers names another. -/
def agentHeaders (agent : String) (pairs : List (String × String)) : List Header :=
  if pairs.any (·.1.toLower = "user-agent") then [] else [⟨"user-agent", agent⟩]

theorem withAgent_written (agent : String) (pairs : List (String × String)) :
    Draft.withAgent agent (Header.written pairs) =
      Header.written pairs ++ agentHeaders agent pairs := by
  unfold Draft.withAgent agentHeaders
  rw [Header.isSome_find?_written]
  split
  · rw [List.append_nil]
  · rfl

/-- Only the headers of the caller can name the user agent. -/
theorem agentHeaders_append (agent : String) {before : List (String × String)}
    (custom after : List (String × String))
    (notBefore : ∀ pair ∈ before, pair.1.toLower ≠ "user-agent")
    (notAfter : ∀ pair ∈ after, pair.1.toLower ≠ "user-agent") :
    agentHeaders agent (before ++ custom ++ after) = agentHeaders agent custom := by
  have none {pairs : List (String × String)}
      (others : ∀ pair ∈ pairs, pair.1.toLower ≠ "user-agent") :
      pairs.any (·.1.toLower = "user-agent") = false := by
    rw [List.any_eq_false]
    intro pair pairIn
    simpa using others pair pairIn
  unfold agentHeaders
  rw [List.any_append, List.any_append, none notBefore, none notAfter, Bool.false_or, Bool.or_false]

theorem urlHeaders_not_agent (url : Url) :
    ∀ pair ∈ Draft.urlHeaders url, pair.1.toLower ≠ "user-agent" := by
  have other : "authorization".toLower ≠ "user-agent" := by decide +kernel
  intro pair pairIn
  rw [Draft.name_of_mem_urlHeaders pairIn]
  exact other

theorem identityHeaders_not_agent (client : Client) (accept : String) (options : Options) :
    ∀ pair ∈ client.identityHeaders accept options, pair.1.toLower ≠ "user-agent" := by
  have names : ∀ name ∈ identityNames, name.toLower ≠ "user-agent" := by decide +kernel
  exact fun pair pairIn => names pair.1 (name_mem_identityNames pairIn)

theorem auditHeaders_not_agent (options : Options) :
    ∀ pair ∈ auditHeaders options, pair.1.toLower ≠ "user-agent" := by
  have names : ∀ name ∈ auditNames, name.toLower ≠ "user-agent" := by decide +kernel
  exact fun pair pairIn => names pair.1 (name_mem_auditNames pairIn)

theorem contentHeaders_not_agent (value : Option String) :
    ∀ pair ∈ headerOf "Content-Type" value, pair.1.toLower ≠ "user-agent" := by
  have other : "Content-Type".toLower ≠ "user-agent" := by decide +kernel
  intro pair pairIn
  obtain ⟨_, _, rfl⟩ := mem_headerOf.1 pairIn
  exact other

/-! ## The first messages -/

/-- The first message of a call. Beside the body and its type it carries the audit trail. -/
def primaryMessage (client : Client) (request : Request) (options : Options) (url : Url) :
    Message where
  method := request.method
  url := Draft.target url
  headers := Header.written (Draft.urlHeaders url) ++
    Header.written (client.identityHeaders request.accept options) ++
    Header.written (auditHeaders options) ++ Header.written options.headers ++
    Header.written (headerOf "Content-Type" (request.body.map Body.contentType)) ++
    agentHeaders client.config.userAgent options.headers
  body := request.body.map Body.content

/-- The message that fetches a created object. -/
def followUpMessage (client : Client) (request : Request) (options : Options) (url : Url) :
    Message where
  method := .get
  url := Draft.target url
  headers := Header.written (Draft.urlHeaders url) ++
    Header.written (client.identityHeaders request.accept options) ++
    Header.written options.headers ++ agentHeaders client.config.userAgent options.headers
  body := none

theorem message_primary_eq_ok_iff (client : Client) (request : Request) (options : Options)
    (url : Url) (message : Message) :
    (client.primary request options url).message client.config.userAgent = .ok message ↔
      (∀ pair ∈ (client.primary request options url).headers, Header.IsGood pair) ∧
      isReachable (Draft.target url) = true ∧
      message = client.primaryMessage request options url := by
  rw [Draft.message_eq_ok_iff, withAgent_written]
  have headers : Draft.urlHeaders url ++ (client.primary request options url).headers =
      Draft.urlHeaders url ++ client.identityHeaders request.accept options ++
        auditHeaders options ++ options.headers ++
        headerOf "Content-Type" (request.body.map Body.contentType) := by
    simp only [primary, List.append_assoc]
  have notBefore : ∀ pair ∈ Draft.urlHeaders url ++
      client.identityHeaders request.accept options ++ auditHeaders options,
      pair.1.toLower ≠ "user-agent" := by
    rw [List.forall_mem_append, List.forall_mem_append]
    exact ⟨⟨urlHeaders_not_agent url, identityHeaders_not_agent client _ options⟩,
      auditHeaders_not_agent options⟩
  have agent := agentHeaders_append client.config.userAgent options.headers _ notBefore
    (contentHeaders_not_agent (request.body.map Body.contentType))
  have url : (client.primary request options url).url = url := rfl
  rw [url, headers, agent]
  simp only [Header.written_append]
  rfl

theorem message_followUp_eq_ok_iff (client : Client) (request : Request) (options : Options)
    (url : Url) (message : Message) :
    (client.followUp request options url).message client.config.userAgent = .ok message ↔
      (∀ pair ∈ (client.followUp request options url).headers, Header.IsGood pair) ∧
      isReachable (Draft.target url) = true ∧
      message = client.followUpMessage request options url := by
  rw [Draft.message_eq_ok_iff, withAgent_written]
  have headers : Draft.urlHeaders url ++ (client.followUp request options url).headers =
      Draft.urlHeaders url ++ client.identityHeaders request.accept options ++
        options.headers ++ [] := by
    simp only [followUp, List.append_assoc, List.append_nil]
  have notBefore : ∀ pair ∈ Draft.urlHeaders url ++
      client.identityHeaders request.accept options, pair.1.toLower ≠ "user-agent" := by
    rw [List.forall_mem_append]
    exact ⟨urlHeaders_not_agent url, identityHeaders_not_agent client _ options⟩
  have agent := agentHeaders_append client.config.userAgent options.headers [] notBefore
    fun pair pairIn => by cases pairIn
  have url : (client.followUp request options url).url = url := rfl
  rw [url, headers, agent, List.append_nil]
  simp only [Header.written_append]
  rfl

/-- What a message says beside the body it may say without. -/
theorem isGood_followUp {client : Client} {request : Request} {options : Options} {url : Url}
    (good : ∀ pair ∈ (client.primary request options url).headers, Header.IsGood pair)
    (target : Url) :
    ∀ pair ∈ (client.followUp request options target).headers, Header.IsGood pair := by
  intro pair pairIn
  apply good
  simp only [followUp, primary, List.mem_append] at pairIn ⊢
  tauto

/-! ## The call -/

/-- The primary exchange of a call. -/
def primaryTalk (client : Client) (request : Request) (options : Options) : Talk Response := do
  let url ← known (client.urlOf request.path (options.query ++ request.query))
  client.sendDraft (client.primary request options url)

/-- What comes after the primary exchange. -/
def fetchTalk (client : Client) (request : Request) (options : Options) (response : Response) :
    Talk Response :=
  if follows request options && response.status = 201 then do
    let some location := response.header? "location" | known (.error .missingLocation)
    let target ← known (client.locationUrl location options.followQuery)
    client.sendDraft (client.followUp request options target)
  else pure response

theorem send_eq (client : Client) (request : Request) (options : Options) :
    client.send request options =
      client.primaryTalk request options >>= client.fetchTalk request options := by
  unfold send primaryTalk
  cases client.urlOf request.path (options.query ++ request.query) <;> rfl

section FetchTalk

variable {client : Client} {request : Request} {options : Options} {response : Response}

theorem fetchTalk_of_stays
    (stays : options.followsLocation.getD request.followsLocation = false ∨ response.status ≠ 201) :
    client.fetchTalk request options response = known (.ok response) := by
  have alone : (follows request options && decide (response.status = 201)) = false := by
    unfold follows
    rcases stays with notAsked | notCreated
    · rw [notAsked, Bool.false_and]
    · simp [notCreated]
  unfold fetchTalk
  rw [alone]
  rfl

variable (asked : options.followsLocation.getD request.followsLocation = true)
  (created : response.status = 201)

include asked created

theorem fetchTalk_of_none (missing : response.header? "location" = none) :
    client.fetchTalk request options response = known (.error .missingLocation) := by
  unfold fetchTalk follows
  rw [asked, created, missing]
  rfl

theorem fetchTalk_of_some {location : String}
    (named : response.header? "location" = some location) :
    client.fetchTalk request options response =
      known (client.locationUrl location options.followQuery) >>= fun target =>
        client.sendDraft (client.followUp request options target) := by
  unfold fetchTalk follows
  rw [asked, created, named]
  rfl

end FetchTalk

/-- What a client does with the response to a primary exchange: it keeps it, or it fetches the
object that was created from its place, or there is no such place. -/
inductive Fetches (client : Client) (request : Request) (options : Options) (response : Response) :
    Talk Response → Prop
  | kept (stays : options.followsLocation.getD request.followsLocation = false ∨
      response.status ≠ 201) : Fetches client request options response (known (.ok response))
  | unnamed (asked : options.followsLocation.getD request.followsLocation = true)
      (created : response.status = 201) (missing : response.header? "location" = none) :
      Fetches client request options response (known (.error .missingLocation))
  | refused {location : String} {error : Error}
      (asked : options.followsLocation.getD request.followsLocation = true)
      (created : response.status = 201) (named : response.header? "location" = some location)
      (refused : client.locationUrl location options.followQuery = .error error) :
      Fetches client request options response (known (.error error))
  | fetched {location : String} {target : Url}
      (asked : options.followsLocation.getD request.followsLocation = true)
      (created : response.status = 201) (named : response.header? "location" = some location)
      (leads : client.locationUrl location options.followQuery = .ok target) :
      Fetches client request options response
        (client.sendDraft (client.followUp request options target))

theorem fetches_fetchTalk (client : Client) (request : Request) (options : Options)
    (response : Response) :
    client.Fetches request options response (client.fetchTalk request options response) := by
  by_cases stays : options.followsLocation.getD request.followsLocation = false ∨
      response.status ≠ 201
  · rw [fetchTalk_of_stays stays]
    exact .kept stays
  · obtain ⟨asked, isCreated⟩ := not_or.1 stays
    have asked := Bool.of_not_eq_false asked
    have isCreated := Decidable.of_not_not isCreated
    cases named : response.header? "location" with
    | none =>
        rw [fetchTalk_of_none asked isCreated named]
        exact .unnamed asked isCreated named
    | some location =>
        rw [fetchTalk_of_some asked isCreated named]
        cases leads : client.locationUrl location options.followQuery with
        | error error =>
            rw [known_error_bind]
            exact .refused asked isCreated named leads
        | ok target =>
            rw [known_ok_bind]
            exact .fetched asked isCreated named leads

theorem locationUrl_eq_ok_iff (client : Client) (location : String) (query : Query) (url : Url) :
    client.locationUrl location query = .ok url ↔
      ∃ base resolved, Url.parse client.config.baseUrl = .ok base ∧
        base.resolve location = .ok resolved ∧ url = resolved.appendPairs query.pairs := by
  unfold locationUrl
  cases Url.parse client.config.baseUrl with
  | error cause => simp
  | ok base =>
      cases resolves : base.resolve location with
      | error cause => simp [resolves]
      | ok resolved => simp [resolves, eq_comm]

/-- A primary exchange that ends with a response began with the primary message. -/
theorem primaryTalk_ok {client : Client} {request : Request} {options : Options}
    {network : Network} {response : Response}
    (ended : ((client.primaryTalk request options).outcome network).result = .ok response) :
    ∃ url responses, client.urlOf request.path (options.query ++ request.query) = .ok url ∧
      network = .answering responses ∧
      ((client.primaryTalk request options).outcome network).messages.head? =
        some (client.primaryMessage request options url) ∧
      ∀ pair ∈ (client.primary request options url).headers, Header.IsGood pair := by
  unfold primaryTalk at ended ⊢
  cases made : client.urlOf request.path (options.query ++ request.query) with
  | error error =>
      rw [made, known_error_bind, Talk.outcome_known] at ended
      cases ended
  | ok url =>
      rw [made, known_ok_bind, sendDraft_eq] at ended
      rw [known_ok_bind, sendDraft_eq]
      cases drafted : (client.primary request options url).message client.config.userAgent with
      | error failure =>
          rw [drafted, Talk.outcome_known] at ended
          cases ended
      | ok message =>
          rw [drafted] at ended
          obtain ⟨good, _, rfl⟩ := (message_primary_eq_ok_iff client request options url _).1 drafted
          cases network with
          | unreachable =>
              dsimp only at ended
              rw [exchangeTalk_unreachable] at ended
              cases ended
          | answering responses =>
              exact ⟨url, responses, rfl, rfl, exchangeTalk_head? _ responses, good⟩

/-- A call is its primary exchange, unless that ends with a 201 and the created object is to be
fetched. Then the call fails, with nothing more sent, where the response names no place, or one
that does not resolve, or one that no request can go to. Else it makes one more exchange, whose
first message asks for that place without the body and the audit trail of the first, and whose
result is that of the call. -/
theorem send_follows_location (client : Client) (request : Request) (options : Options)
    (network : Network) :
    let primary := (client.primaryTalk request options).outcome network
    let call := (client.send request options).outcome network
    ((∀ response, primary.result = .ok response →
        options.followsLocation.getD request.followsLocation = false ∨ response.status ≠ 201) →
      call = primary) ∧
    ∀ response, primary.result = .ok response →
      options.followsLocation.getD request.followsLocation = true → response.status = 201 →
      (response.header? "location" = none →
        call = ⟨primary.messages, .error .missingLocation⟩) ∧
      ∀ location, response.header? "location" = some location →
        ((∀ base resolved, Url.parse client.config.baseUrl = .ok base →
            base.resolve location ≠ .ok resolved) →
          ∃ cause, call = ⟨primary.messages, .error cause⟩) ∧
        ∀ base resolved, Url.parse client.config.baseUrl = .ok base →
          base.resolve location = .ok resolved →
          let target := resolved.appendPairs options.followQuery.pairs
          let second := client.followUpMessage request options target
          let fetched := (exchangeTalk second).outcome (network.after primary.messages.length)
          (isReachable (Draft.target target) = false →
            call = ⟨primary.messages, .error (.http (.builder (some (Draft.target target))))⟩) ∧
          (isReachable (Draft.target target) = true →
            (∃ url, client.urlOf request.path (options.query ++ request.query) = .ok url ∧
              primary.messages.head? = some (client.primaryMessage request options url)) ∧
            fetched.messages.head? = some second ∧
            call = fetched.afterAll primary.messages) := by
  intro primary call
  have whole : call = Talk.outcome (client.primaryTalk request options >>=
      client.fetchTalk request options) network := by
    rw [← send_eq]
  constructor
  · intro stays
    cases ended : primary.result with
    | error error =>
        rw [whole, Talk.outcome_bind_error _ ended, ← ended]
    | ok response =>
        rw [whole, Talk.outcome_bind_ok _ ended, fetchTalk_of_stays (stays response ended),
          Talk.outcome_known, Outcome.afterAll, List.append_nil, ← ended]
  · intro response ended asked created
    obtain ⟨url, responses, urlMade, answering, first, good⟩ := primaryTalk_ok ended
    have goesOn := Talk.outcome_bind_ok (client.fetchTalk request options) ended
    rw [← whole] at goesOn
    refine ⟨fun missing => ?_, fun location named => ?_⟩
    · rw [goesOn, fetchTalk_of_none asked created missing, Talk.outcome_known, Outcome.afterAll,
        List.append_nil]
    · rw [fetchTalk_of_some asked created named] at goesOn
      refine ⟨fun unresolved => ?_, fun base resolved isBase resolves => ?_⟩
      · cases made : client.locationUrl location options.followQuery with
        | ok target =>
            obtain ⟨base, resolved, isBase, resolves, _⟩ :=
              (locationUrl_eq_ok_iff client location _ target).1 made
            exact absurd resolves (unresolved base resolved isBase)
        | error cause =>
            refine ⟨cause, ?_⟩
            rw [goesOn, made, known_error_bind, Talk.outcome_known, Outcome.afterAll,
              List.append_nil]
      · intro target second fetched
        have made := (locationUrl_eq_ok_iff client location options.followQuery target).2
          ⟨base, resolved, isBase, resolves, rfl⟩
        have stillGood := isGood_followUp good target
        rw [made, known_ok_bind, sendDraft_eq] at goesOn
        refine ⟨fun unreachable => ?_, fun reachable => ⟨⟨url, urlMade, first⟩, ?_, ?_⟩⟩
        · rw [goesOn, Draft.message_of_not_isReachable _ _ stillGood unreachable]
          dsimp only
          rw [Talk.outcome_known, Outcome.afterAll, List.append_nil]
          rfl
        · show ((exchangeTalk second).outcome (network.after _)).messages.head? = some second
          rw [answering]
          exact exchangeTalk_head? second _
        · have drafted := (message_followUp_eq_ok_iff client request options target second).2
            ⟨stillGood, reachable, rfl⟩
          rw [goesOn, drafted]

/-! ## Two created objects -/

theorem eq_ok_of_toOption {ε α : Type} {result : Except ε α} {value : α}
    (found : result.toOption = some value) : result = .ok value := by
  cases result with
  | error error => cases found
  | ok value =>
      cases found
      rfl

/-- A client with the default configuration. -/
def standard : Client where
  config := {}
  isAccepted := eq_ok_of_toOption (by decide +kernel)

/-- A request that creates an object and fetches it. -/
def creation : Request :=
  { method := .post, path := "/1.0/kb/accounts", followsLocation := true }

/-- The response that an object was created at some place. -/
def createdAt (location : String) : Response :=
  ⟨201, [⟨"location", location⟩], []⟩

/-- An object that was created beside the others is fetched from there. -/
theorem send_follows_location_path :
    let network := Network.answering [createdAt "/1.0/kb/accounts/7?a=b", ⟨200, [], []⟩]
    let place : Url := ⟨"http", some ⟨"", "", .ipv4 0x7F000001, some 8080⟩,
      .segments ["1.0", "kb", "accounts", "7"], some "a=b", none⟩
    let primary := (standard.primaryTalk creation {}).outcome network
    isReachable (Draft.target place) = true ∧
    (standard.send creation {}).outcome network =
      ((exchangeTalk (standard.followUpMessage creation {} place)).outcome
        (network.after primary.messages.length)).afterAll primary.messages := by
  intro network place primary
  have base : Url.parse standard.config.baseUrl =
      .ok ⟨"http", some ⟨"", "", .ipv4 0x7F000001, some 8080⟩, .segments [""], none, none⟩ :=
    eq_ok_of_toOption (by decide +kernel)
  have resolves : Url.resolve
      ⟨"http", some ⟨"", "", .ipv4 0x7F000001, some 8080⟩, .segments [""], none, none⟩
      "/1.0/kb/accounts/7?a=b" = .ok place :=
    eq_ok_of_toOption (by decide +kernel)
  have ended : primary.result = .ok (createdAt "/1.0/kb/accounts/7?a=b") :=
    eq_ok_of_toOption (by decide +kernel)
  have reachable : isReachable (Draft.target place) = true := by decide +kernel
  have law := send_follows_location standard creation {} network
  exact ⟨reachable, ((((law.2 _ ended rfl rfl).2 _ (by decide +kernel)).2 _ _ base resolves).2
    reachable).2.2⟩

/-- A web address whose host no request can name is not asked for anything. -/
theorem send_refuses_unnameable_host :
    let network := Network.answering [createdAt "http://a`b/x", ⟨200, [], []⟩]
    let primary := (standard.primaryTalk creation {}).outcome network
    let call := (standard.send creation {}).outcome network
    primary.result.toOption = some (createdAt "http://a`b/x") ∧
    ((Url.parse standard.config.baseUrl).toOption.bind fun base =>
      (base.resolve "http://a`b/x").toOption).any isWebAddress = true ∧
    call.messages = primary.messages ∧ call.result.toOption = none := by
  decide +kernel

end BillingClient.Client
