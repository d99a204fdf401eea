import BillingClient.Client.Config
import BillingClient.Client.Options
import BillingClient.Client.Reply
import BillingClient.Client.Request
import BillingClient.Http.Draft
import BillingClient.Url.Query

/-!
Contract: clients, and what they say to the server.

A client has a configuration that has been accepted. `send` makes one exchange, and
when the response says that an object was created, and it is to be fetched, a second
one at the place that the response names. That one carries neither the body nor the
audit trail of the first. `run` holds the whole call on a network.
-/

namespace BillingClient

open BillingClient.Http

structure Client where
  config : Client.Config
  isAccepted : config.check = .ok ()

namespace Client

/-- The client of a configuration, or why there is none. -/
def ofConfig (config : Config) : Except Error Client :=
  match h : config.check with
  | .ok () => .ok ⟨config, h⟩
  | .error error => .error error

/-- The milliseconds that a response is waited for. -/
def requestTimeoutMillis (client : Client) : Nat :=
  1000 * client.config.requestTimeoutSeconds

def urlOf (client : Client) (path : String) (query : Query) : Except Error Url :=
  match Url.parse (client.config.baseUrl ++ path) with
  | .ok url => .ok (url.appendPairs query.pairs)
  | .error cause => .error (.invalidArgument (.path path cause))

/-- The URL of a created object. -/
def locationUrl (client : Client) (location : String) (query : Query) : Except Error Url :=
  match Url.parse client.config.baseUrl with
  | .error cause => .error (.configuration (.baseUrl cause))
  | .ok base =>
    match base.resolve location with
    | .ok url => .ok (url.appendPairs query.pairs)
    | .error cause => .error (.invalidArgument (.location location cause))

/-- A header that may be absent. -/
def headerOf (name : String) (value : Option String) : List (String × String) :=
  value.toList.map (name, ·)

/-- The headers that name the author of a change. -/
def auditHeaders (options : Options) : List (String × String) :=
  headerOf "X-Killbill-CreatedBy" options.createdBy ++
    headerOf "X-Killbill-Reason" options.reason ++
    headerOf "X-Killbill-Comment" options.comment

/-- The headers of every request: who asks, for which tenant, and what for. -/
def identityHeaders (client : Client) (accept : String) (options : Options) :
    List (String × String) :=
  let config := client.config
  [("Authorization", basicCredentials (options.user.getD config.username)
      (options.password.getD config.password)),
    ("Accept", accept)] ++
    headerOf "X-Killbill-ApiKey" (options.tenantApiKey.or config.apiKey) ++
    headerOf "X-Killbill-ApiSecret" (options.tenantApiSecret.or config.apiSecret) ++
    headerOf "X-Request-Id" options.requestId

/-- The first request of a call. -/
def primary (client : Client) (request : Request) (options : Options) (url : Url) : Draft where
  method := request.method
  url := url
  headers := client.identityHeaders request.accept options ++ auditHeaders options ++
    options.headers ++ headerOf "Content-Type" (request.body.map Body.contentType)
  body := request.body.map Body.content

/-- The request that fetches a created object. -/
def followUp (client : Client) (request : Request) (options : Options) (url : Url) : Draft where
  method := .get
  url := url
  headers := client.identityHeaders request.accept options ++ options.headers
  body := none

/-- What a client says to the server to come to a result or a failure. -/
abbrev Talk := ExceptT Error Dialogue

/-- A result that needs nothing to be said. -/
def known {α : Type} (result : Except Error α) : Talk α :=
  ExceptT.mk (pure result)

/-- Sends a draft, and follows redirects. -/
def sendDraft (client : Client) (draft : Draft) : Talk Response := do
  let message ← known ((draft.message client.config.userAgent).mapError .http)
  ExceptT.mk ((exchange message).bind fun result => pure (result.mapError .http))

/-- Whether a call fetches the object that it creates. -/
def follows (request : Request) (options : Options) : Bool :=
  options.followsLocation.getD request.followsLocation

/-- Sends a request, and fetches what it created. -/
def send (client : Client) (request : Request) (options : Options) : Talk Response := do
  let url ← known (client.urlOf request.path (options.query ++ request.query))
  let response ← client.sendDraft (client.primary request options url)
  if follows request options && response.status = 201 then
    let some location := response.header? "location" | known (.error .missingLocation)
    let target ← known (client.locationUrl location options.followQuery)
    client.sendDraft (client.followUp request options target)
  else pure response

/-- The messages that were sent in a call, and its result. -/
structure Outcome (α : Type) where
  messages : List Message
  result : Except Error α

/-- The outcome of a talk on a network. -/
def Talk.outcome {α : Type} (talk : Talk α) (network : Network) : Outcome α :=
  let transcript := Dialogue.run talk network
  ⟨transcript.messages,
    match transcript.result with
    | .ok result => result
    | .error failure => .error (.http failure)⟩

/-- Sends a request and reads its reply. -/
def ask {α : Type} (client : Client) (request : Request) (reply : Reply α) (options : Options) :
    Talk α := do
  let response ← client.send request options
  known (reply.read request.method response)

end Client

end BillingClient
