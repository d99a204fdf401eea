import BillingClient.Http.Dialogue
import BillingClient.Url.Reader

/-!
Contract: redirects.

A response with a status of redirection and a `location` that resolves against the URL
of the request leads to a further request there. `exchange` follows up to ten of them.

Transports differ in what they make of a redirect. The one that is assumed here
- follows ten redirects and fails at the eleventh, where others follow nine;
- turns every method but a look-up into GET, and drops the body, at 301, 302 and 303, where
  others keep every method but POST at 301 and 302;
- repeats the request as it was, with its body, at 307 and 308;
- names the page before as `referer`, and keeps secret headers from another host or port;
- takes a response whose `location` is absent, does not resolve or cannot be named in a request as
  the last one, and fails where it is no web address.
-/

namespace BillingClient.Http

/-- The greatest number of redirects in one exchange. -/
def maxRedirects : Nat := 10

/-- The statuses that redirect to a plain look-up, without the body. -/
def isSeeOther (status : Nat) : Bool :=
  [301, 302, 303].contains status

/-- The statuses that redirect the same request. -/
def isSameElsewhere (status : Nat) : Bool :=
  [307, 308].contains status

/-- The headers that speak of a body. -/
def bodyHeaders : List String :=
  ["transfer-encoding", "content-encoding", "content-type", "content-length"]

/-- The headers that are for one server only. -/
def secretHeaders : List String :=
  ["authorization", "cookie", "cookie2", "proxy-authorization", "www-authenticate"]

/-- Whether the host of a URL holds only characters that a request line may hold. -/
def hasPlainHost (url : Url) : Bool :=
  !(url.host?.any fun host => host.text.toList.any ['"', '`', '{', '}'].contains)

/-- The greatest count of bytes in a URL that a request names. -/
def maxUrlSize : Nat := 65534

/-- Whether a request can name a URL. -/
def isNameable (url : Url) : Bool :=
  hasPlainHost url && url.text.utf8ByteSize ≤ maxUrlSize

/-- Whether a URL is a web address. -/
def isWebAddress (url : Url) : Bool :=
  ["http", "https"].contains url.scheme

/-- Whether a request can go to a URL. -/
def isReachable (url : Url) : Bool :=
  isWebAddress url && isNameable url

def redirectTarget? (url : Url) (response : Response) : Option Url :=
  if isSeeOther response.status || isSameElsewhere response.status then
    (Header.find? response.headers "location").bind fun header =>
      (url.resolve header.value).toOption.filter isNameable
  else none

/-- Names the page that leads to a request, unless that would tell a plain server about
a protected one. -/
def withReferer (previous target : Url) (headers : List Header) : List Header :=
  if target.scheme = "http" && previous.scheme = "https" then headers
  else Header.replace ⟨"referer", previous.withoutUser.withoutFragment.text⟩ headers

/-- Whether two URLs lead to one server. -/
def isSameServer (previous target : Url) : Bool :=
  previous.host? = target.host? && previous.port? = target.port?

/-- The request that a redirect turns a request into. -/
def redirected (message : Message) (status : Nat) (target : Url) : Message :=
  let named := withReferer message.url target message.headers
  let kept := if isSameServer message.url target then named
    else Header.without secretHeaders named
  if isSeeOther status then
    { method := if message.method.isLookup then message.method else .get
      url := target
      headers := Header.without bodyHeaders kept
      body := none }
  else { message with url := target, headers := kept }

/-- Sends a request and follows up to `left` redirects. -/
def follow (left : Nat) (message : Message) : Dialogue (Except Failure Response) :=
  .send message fun response =>
    match redirectTarget? message.url response with
    | none => .done (.ok response)
    | some target =>
      match left with
      | 0 => .done (.error (.redirect message.url))
      | left + 1 =>
        if isReachable target then follow left (redirected message response.status target)
        else .done (.error (.builder (some target)))

/-- A request and the redirects it meets. -/
def exchange (message : Message) : Dialogue (Except Failure Response) :=
  follow maxRedirects message

end BillingClient.Http
