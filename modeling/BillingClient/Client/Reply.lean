import BillingClient.Client.Error
import BillingClient.Http.Message
import BillingClient.Http.Method

/-!
Contract: how the last response of a call becomes its result.

A status of 400 or above is a failure, but a look-up that finds nothing (404) has an
empty result where the result may be empty.
-/

namespace BillingClient.Client

open BillingClient.Domain
open BillingClient.Http
open BillingClient.Json

/-- The failure that a response reports, if it reports one. -/
def Error.ofResponse? (response : Response) : Option Error :=
  if response.status < 400 then none
  else some (.api response.status response.text (BillingException.codec.ofBytes? response.body))

/-- The response, unless it reports a failure. -/
def accepted (response : Response) : Except Error Response :=
  match Error.ofResponse? response with
  | some error => .error error
  | none => .ok response

/-- The JSON value in the body of a response. -/
def decoded {α : Type} (codec : Codec α) (response : Response) : Except Error α :=
  match codec.ofBytes? response.body with
  | some value => .ok value
  | none => .error .serialization

/-- The JSON value in a response that must have one. -/
def readRequired {α : Type} (codec : Codec α) (response : Response) : Except Error α := do
  let response ← accepted response
  if response.body.isEmpty then .error .emptyResponse else decoded codec response

/-- Whether a response says that nothing was found. -/
def isNotFound (method : Method) (response : Response) : Bool :=
  method.isLookup && response.status = 404

/-- The JSON value in a response that may have none. -/
def readOptional {α : Type} (codec : Codec α) (method : Method) (response : Response) :
    Except Error (Option α) := do
  if isNotFound method response then .ok none
  else
    let response ← accepted response
    if response.status = 204 || response.body.isEmpty then .ok none
    else (decoded codec response).map some

/-- The text of a response that may have none. -/
def readText (method : Method) (response : Response) : Except Error (Option String) := do
  if isNotFound method response then .ok none
  else
    let response ← accepted response
    .ok (some response.text)

/-- What the result of a call is made of. -/
inductive Reply : Type → Type 1 where
  /-- A value. -/
  | required {α : Type} (codec : Codec α) : Reply α
  /-- A value that there may be. -/
  | optional {α : Type} (codec : Codec α) : Reply (Option α)
  /-- Values; there may be none. -/
  | listing {α : Type} (codec : Codec α) : Reply (List α)
  /-- Values that are parts of a value that there may be. -/
  | parts {α β : Type} (codec : Codec α) (select : α → List β) (part : Codec β) : Reply (List β)
  /-- Nothing but success. -/
  | unit : Reply Unit
  /-- A text that there may be. -/
  | text : Reply (Option String)
  /-- The response, whatever its status. -/
  | raw : Reply Response

/-- The result that a response to a request of some method gives. -/
def Reply.read {α : Type} (method : Method) (response : Response) : Reply α → Except Error α
  | .required codec => readRequired codec response
  | .optional codec => readOptional codec method response
  | .listing codec => (readOptional codec.list method response).map fun found => found.getD []
  | .parts codec select _ =>
    (readOptional codec method response).map fun found => (found.map select).getD []
  | .unit => (accepted response).map fun _ => ()
  | .text => readText method response
  | .raw => .ok response

end BillingClient.Client
