import BillingClient.Url.Host

/-!
Contract: URLs as their parts.

A part is kept as it is written in the URL, percent-encoded; the text of a URL joins
the parts with their delimiters. The origin (scheme, host and port) says which server
a web address leads to.
-/

namespace BillingClient

/-- How URLs of a scheme are read. The special schemes are those of the web and of
files; their paths are never empty, and `\` divides their segments as `/` does. -/
inductive Url.SchemeKind where
  | web (defaultPort : Nat)
  | file
  | plain
deriving DecidableEq, Repr

def Url.SchemeKind.ofName : String → Url.SchemeKind
  | "http" => .web 80
  | "https" => .web 443
  | "ws" => .web 80
  | "wss" => .web 443
  | "ftp" => .web 21
  | "file" => .file
  | _ => .plain

def Url.SchemeKind.isSpecial : Url.SchemeKind → Bool
  | .plain => false
  | _ => true

/-- The port that need not be written. -/
def Url.SchemeKind.defaultPort? : Url.SchemeKind → Option Nat
  | .web port => some port
  | _ => none

/-- What stands between `//` and the path. An absent user name or password is empty, as
is an absent host; the default port of the scheme is never given. -/
structure Url.Authority where
  username : String
  password : String
  host : Url.Host
  port : Option Nat
deriving DecidableEq, Repr, Inhabited

/-- A path: segments with a `/` before each, or a text that is no list of segments. -/
inductive Url.Path where
  | segments (list : List String)
  | rootless (content : String)
deriving DecidableEq, Repr, Inhabited

structure Url where
  scheme : String
  authority : Option Url.Authority
  path : Url.Path
  query : Option String
  fragment : Option String
deriving DecidableEq, Repr, Inhabited

namespace Url

/-- The user name and password with their delimiters. -/
def Authority.userText (authority : Authority) : String :=
  if authority.username.isEmpty && authority.password.isEmpty then ""
  else if authority.password.isEmpty then authority.username ++ "@"
  else authority.username ++ ":" ++ authority.password ++ "@"

/-- The host, and the port with its delimiter. -/
def Authority.hostText (authority : Authority) : String :=
  authority.host.text ++
    match authority.port with
    | none => ""
    | some port => ":" ++ String.ofList (Text.decimalDigits port)

/-- An authority after its `//`. -/
def Authority.text (authority : Authority) : String :=
  "//" ++ authority.userText ++ authority.hostText

/-- Segments with a `/` before each. -/
def segmentsText (segments : List String) : String :=
  String.join (segments.map ("/" ++ ·))

def Path.text : Path → String
  | .segments list => segmentsText list
  | .rootless content => content

/-- The path as it stands after the scheme and the authority. Without an authority,
`/.` keeps an empty first segment from reading as the start of one. -/
def pathText (url : Url) : String :=
  match url.authority, url.path with
  | none, .segments ("" :: second :: rest) => "/." ++ segmentsText ("" :: second :: rest)
  | _, path => path.text

/-- A part that may be absent, after its delimiter. -/
def partText (delimiter : String) : Option String → String
  | none => ""
  | some part => delimiter ++ part

def text (url : Url) : String :=
  url.scheme ++ ":" ++ (url.authority.map Authority.text).getD "" ++ url.pathText ++
    partText "?" url.query ++ partText "#" url.fragment

/-- The kind of the scheme of a URL. -/
def kind (url : Url) : SchemeKind :=
  .ofName url.scheme

def host? (url : Url) : Option Host :=
  url.authority.map Authority.host

/-- The port that a URL leads to. -/
def port? (url : Url) : Option Nat :=
  (url.authority.bind Authority.port).or url.kind.defaultPort?

/-- A URL without its user name and password. -/
def withoutUser (url : Url) : Url :=
  { url with authority := url.authority.map fun authority =>
      { authority with username := "", password := "" } }

/-- A URL without its fragment. -/
def withoutFragment (url : Url) : Url :=
  { url with fragment := none }

/-- The server that a URL leads to. -/
structure Origin where
  scheme : String
  host : Option Host
  port : Option Nat
deriving DecidableEq, Repr

def origin (url : Url) : Origin :=
  ⟨url.scheme, url.host?, url.port?⟩

end Url

end BillingClient
