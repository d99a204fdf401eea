import BillingClient.Http.Message
import BillingClient.Http.Redirect
import BillingClient.Text.Base64
import BillingClient.Text.Percent

/-!
Contract: requests before they are checked, and what makes them messages.

A user name in the URL becomes a header of its own and leaves the URL. The default
user agent gives way to one among the headers.
-/

namespace BillingClient.Http

open BillingClient.Text

/-- The value of an `authorization` header for a user name and password. -/
def basicCredentials (user password : String) : String :=
  "Basic " ++ String.ofList (Base64.encode (Utf8.encode (user ++ ":" ++ password)))

/-- A request as it is asked for. -/
structure Draft where
  method : Method
  url : Url
  headers : List (String × String)
  body : Option String
deriving Repr

namespace Draft

/-- The text of a percent-encoded part of a URL, if it is text. -/
def plainPart? (part : String) : Option String :=
  Utf8.decode? (Percent.decode part)

/-- The user name and password of a URL, if there are any that are text. -/
def urlUser? (url : Url) : Option (String × String) := do
  let authority ← url.authority
  let user ← plainPart? authority.username
  let password := if authority.password.isEmpty then none else plainPart? authority.password
  if user.isEmpty && password.isNone then none else some (user, password.getD "")

/-- The `authorization` that a URL asks for. -/
def urlHeaders (url : Url) : List (String × String) :=
  match urlUser? url with
  | none => []
  | some (user, password) => [("authorization", basicCredentials user password)]

/-- The URL that a request goes to. -/
def target (url : Url) : Url :=
  if (urlUser? url).isSome then url.withoutUser else url

/-- Headers with a default user agent. -/
def withAgent (agent : String) (headers : List Header) : List Header :=
  if (Header.find? headers "user-agent").isSome then headers
  else headers ++ [⟨"user-agent", agent⟩]

/-- The message of a draft: refused when a header is none, or the URL cannot be reached. -/
def message (draft : Draft) (agent : String) : Except Failure Message :=
  match (urlHeaders draft.url ++ draft.headers).mapM fun (name, value) =>
      Header.ofText? name value with
  | none => .error (.builder none)
  | some headers =>
    let url := target draft.url
    if isReachable url then .ok ⟨draft.method, url, withAgent agent headers, draft.body⟩
    else .error (.builder (some url))

end Draft

end BillingClient.Http
