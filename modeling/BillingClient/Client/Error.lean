import BillingClient.Domain.Fault
import BillingClient.Http.Message
import BillingClient.Url.Error
import BillingClient.Vocabulary.Identifier
import BillingClient.Vocabulary.Words

/-!
Contract: why a call fails.

Each failure keeps its cause; `Error.message` is its wording. The local refusals are
those for which no request is sent.
-/

namespace BillingClient.Client

open BillingClient.Domain
open BillingClient.Vocabulary

/-- What is wrong with a value that a call is given or led to. -/
inductive InvalidArgument where
  | path (written : String) (cause : UrlError)
  | location (written : String) (cause : UrlError)
  | transactionType (type : TransactionType)
  | itemOwner (owner account : AccountId)
deriving DecidableEq, Repr

/-- The message of an invalid argument. -/
def InvalidArgument.message : InvalidArgument → String
  | .path written cause => "invalid path " ++ written ++ ": " ++ cause.message
  | .location written cause => "invalid Location " ++ written ++ ": " ++ cause.message
  | .transactionType type => "Invalid transaction type " ++ Wordlist.word type
  | .itemOwner owner account =>
    "item of account " ++ owner.text ++ " cannot be posted to account " ++ account.text

/-- What is wrong with a configuration. -/
inductive InvalidConfig where
  | url (written : String) (cause : UrlError)
  | scheme (name : String)
  | baseUrl (cause : UrlError)
  | unreadable
  | unparsable
deriving DecidableEq, Repr

/-- The message of an invalid configuration. -/
def InvalidConfig.message : InvalidConfig → String
  | .url written cause => "invalid server URL " ++ written ++ ": " ++ cause.message
  | .scheme name => "unsupported URL scheme: " ++ name
  | .baseUrl cause => "invalid server URL: " ++ cause.message
  | .unreadable => "cannot read"
  | .unparsable => "cannot parse"

/-- Why a call fails. -/
inductive Error where
  /-- No response came back. -/
  | http (cause : Http.Failure)
  /-- The server answered with a failure status. -/
  | api (status : Nat) (body : String) (fault : Option BillingException)
  /-- The body of the response has another shape. -/
  | serialization
  | missingParameter (parameter operation : String)
  | invalidArgument (cause : InvalidArgument)
  | missingLocation
  | emptyResponse
  | configuration (cause : InvalidConfig)

namespace Error

def message : Error → String
  | .http cause => "HTTP error: " ++ cause.message
  | .api status body _ =>
    "API error: " ++ String.ofList (Text.decimalDigits status) ++ " - " ++ body
  | .serialization => "serialization error"
  | .missingParameter parameter operation =>
    "Missing the required parameter '" ++ parameter ++ "' when calling " ++ operation
  | .invalidArgument cause => "invalid argument: " ++ cause.message
  | .missingLocation => "missing Location header in 201 response"
  | .emptyResponse => "empty response body"
  | .configuration cause => "configuration error: " ++ cause.message

/-- The status that the server answered with. -/
def status? : Error → Option Nat
  | .api status _ _ => some status
  | _ => none

/-- The code of the failure that the server reports. -/
def billingCode? : Error → Option Int
  | .api _ _ (some fault) => fault.code
  | _ => none

end Error

/-- A value that an operation cannot do without. -/
def required {α : Type} (value : Option α) (parameter operation : String) : Except Error α :=
  match value with
  | some value => .ok value
  | none => .error (.missingParameter parameter operation)

end BillingClient.Client
