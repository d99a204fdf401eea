import BillingClient.Http.Header
import BillingClient.Text.Utf8
import BillingClient.Url.Basic

/-!
Contract: requests as they are sent, responses as they are received, and why an
exchange fails without a response.
-/

namespace BillingClient.Http

/-- A request as it is sent. -/
structure Message where
  method : Method
  url : Url
  headers : List Header
  body : Option String
deriving DecidableEq, Repr, Inhabited

structure Response where
  status : Nat
  headers : List Header
  body : List UInt8
deriving DecidableEq, Repr, Inhabited

namespace Response

def isSuccess (response : Response) : Bool :=
  200 ≤ response.status && response.status < 300

/-- The first value of a header, by its name in any case, if it is plain text. -/
def header? (response : Response) (name : String) : Option String :=
  (Header.find? response.headers name.toLower).bind Header.readable?

/-- The body as text; bytes that are no text are shown as U+FFFD. -/
def text (response : Response) : String :=
  Text.Utf8.decodeLossy response.body

/-- What arrives of a response: there are no blanks around header values, and no body
after a request for the head alone or with a status that has none. -/
def arriving (response : Response) (method : Method) : Response :=
  { response with
    headers := response.headers.map Header.trimmed
    body := if method = .head || response.status = 204 || response.status = 304 then []
      else response.body }

end Response

/-- Why an exchange gives no response. -/
inductive Failure where
  /-- A request cannot be made; the URL is given when it is at fault. -/
  | builder (url : Option Url)
  /-- No response came back. -/
  | sending (url : Url)
  /-- There were too many redirects. -/
  | redirect (url : Url)
deriving DecidableEq, Repr

def Failure.message : Failure → String
  | .builder none => "builder error"
  | .builder (some url) => "builder error for url (" ++ url.text ++ ")"
  | .sending url => "error sending request for url (" ++ url.text ++ ")"
  | .redirect url => "error following redirect for url (" ++ url.text ++ ")"

end BillingClient.Http
