import BillingClient.Client.Query
import BillingClient.Http.Method
import BillingClient.Json.Record

/-!
Contract: requests to the server, as the operations ask for them.
-/

namespace BillingClient.Client

open BillingClient.Json
open BillingClient.Text

/-- How long a response is waited for. -/
inductive Patience where
  | configured
  | fixed (millis : Nat)
  | outlasting (completion : Completion)
deriving DecidableEq, Repr

/-- The milliseconds in place of the configured ones. -/
def Patience.override? (patience : Patience) (configured : Nat) : Option Nat :=
  match patience with
  | .configured => none
  | .fixed millis => some millis
  | .outlasting completion => some (completion.timeoutMillis configured)

structure Body where
  contentType : String
  content : String
deriving DecidableEq, Repr

namespace Body

/-- The JSON text of a value. -/
def json {α : Type} (codec : Codec α) (value : α) : Body :=
  ⟨"application/json", codec.text value⟩

def plain (content : String) : Body :=
  ⟨"text/plain", content⟩

def xml (content : String) : Body :=
  ⟨"text/xml", content⟩

end Body

/-- A request. The path is under the server URL. -/
structure Request where
  method : Http.Method
  path : String
  query : Query := {}
  body : Option Body := none
  accept : String := "application/json"
  /-- Whether an object that it creates is fetched. -/
  followsLocation : Bool := false
  patience : Patience := .configured
deriving DecidableEq, Repr

namespace Request

/-- A request whose response may come as late as a wait for completion ends. -/
def outlasting (request : Request) (completion : Completion) : Request :=
  if completion.isActive then { request with patience := .outlasting completion } else request

/-- A path of segments, each as it is written in a URL. -/
def segments (list : List String) : String :=
  String.join (list.map fun segment => "/" ++ Form.encodeSegment segment)

/-- The path of a resource of the server. -/
def resource (list : List String) : String :=
  segments ("1.0" :: "kb" :: list)

end Request

end BillingClient.Client
