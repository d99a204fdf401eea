import BillingClient.Client.Error
import BillingClient.Http.Redirect
import BillingClient.Json.Record
import BillingClient.Url.Reader

/-!
Contract: how a client reaches its server, and where that is set.

A configuration is accepted when its server URL is a web address and its user agent
may stand in a header. It is read from a JSON file, or layered: each variable of the
environment that is set counts before the first usable file, and that before the
defaults.
-/

namespace BillingClient.Client

open BillingClient.Json
open BillingClient.Text

structure Config where
  serverUrl : String := "http://127.0.0.1:8080"
  username : String := "admin"
  password : String := "password"
  apiKey : Option String := none
  apiSecret : Option String := none
  connectTimeoutSeconds : Nat := 10
  requestTimeoutSeconds : Nat := 10
  userAgent : String := "killbill-client-rust/0.1.0"
deriving DecidableEq, Repr, Inhabited

namespace Config

/-- The default configuration. -/
def default : Config := {}

/-- The form of a configuration in a file. -/
def record : Record Config where
  schema :=
    .field (.withDefault "server_url" .string default.serverUrl) <|
    .field (.withDefault "username" .string default.username) <|
    .field (.withDefault "password" .string default.password) <|
    .field (.nullable "api_key" .string) <|
    .field (.nullable "api_secret" .string) <|
    .field (.withDefault "connect_timeout_seconds" .unsigned64 default.connectTimeoutSeconds) <|
    .field (.withDefault "request_timeout_seconds" .unsigned64 default.requestTimeoutSeconds) <|
    .field (.withDefault "user_agent" .string default.userAgent) <|
    .done
  toRow value := (value.serverUrl, value.username, value.password, value.apiKey, value.apiSecret,
    value.connectTimeoutSeconds, value.requestTimeoutSeconds, value.userAgent, ())
  ofRow := fun (serverUrl, username, password, apiKey, apiSecret, connectTimeoutSeconds,
    requestTimeoutSeconds, userAgent, ()) =>
    { serverUrl, username, password, apiKey, apiSecret, connectTimeoutSeconds,
      requestTimeoutSeconds, userAgent }

@[inherit_doc record]
def codec : Codec Config :=
  record.codec

/-- A configuration with other credentials. -/
def withCredentials (config : Config) (username password : String) : Config :=
  { config with username, password }

/-- A configuration for another tenant. -/
def withTenant (config : Config) (apiKey apiSecret : String) : Config :=
  { config with apiKey := apiKey, apiSecret := apiSecret }

/-- The server URL, which has to be a web address. -/
def validate (config : Config) : Except Error Url :=
  match Url.parse config.serverUrl with
  | .error cause => .error (.configuration (.url config.serverUrl cause))
  | .ok url =>
    if Http.isWebAddress url then .ok url else .error (.configuration (.scheme url.scheme))

/-- Refuses a configuration that no client can work with. -/
def check (config : Config) : Except Error Unit := do
  let _ ← config.validate
  if Http.Header.isValue config.userAgent then .ok () else .error (.http (.builder none))

/-- The server URL as written, without slashes at its end. -/
def baseUrl (config : Config) : String :=
  String.ofList (config.serverUrl.toList.reverse.dropWhile (· = '/')).reverse

/-- The configuration in a file with some bytes; without a file there are none. -/
def ofFile (content : Option (List UInt8)) : Except Error Config := do
  let some bytes := content.filter (Utf8.decode? · |>.isSome)
    | .error (.configuration .unreadable)
  let some config := codec.ofBytes? bytes | .error (.configuration .unparsable)
  let _ ← config.validate
  .ok config

/-- The configuration in the first file that can be used. -/
def ofFiles (contents : List (Option (List UInt8))) : Config :=
  (contents.findSome? fun content => (ofFile content).toOption).getD default

/-- A configuration with the variables of an environment in place of its values. A
timeout has to be a number. -/
def withVariables (config : Config) (setting? : String → Option String) : Config :=
  let seconds? := fun name => (setting? name).bind (boundedNumber? maxUnsigned64)
  { config with
    serverUrl := (setting? "KILLBILL_URL").getD config.serverUrl
    username := (setting? "KILLBILL_USER").getD config.username
    password := (setting? "KILLBILL_PASSWORD").getD config.password
    apiKey := (setting? "KILLBILL_API_KEY").or config.apiKey
    apiSecret := (setting? "KILLBILL_API_SECRET").or config.apiSecret
    connectTimeoutSeconds :=
      (seconds? "KILLBILL_CONNECT_TIMEOUT_SECONDS").getD config.connectTimeoutSeconds
    requestTimeoutSeconds :=
      (seconds? "KILLBILL_REQUEST_TIMEOUT_SECONDS").getD config.requestTimeoutSeconds }

/-- The configuration that files and an environment give together. -/
def layered (contents : List (Option (List UInt8))) (setting? : String → Option String) :
    Config :=
  (ofFiles contents).withVariables setting?

end Config

end BillingClient.Client
