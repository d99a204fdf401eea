import BillingClient.Url.Parts

/-!
Contract: the authority of a URL, read from text.

The last `@` ends the user name and password, which their first `:` divides. The host
goes up to the first `:` outside brackets, and the port after it is a number of 16
bits. A web address needs a host.
-/

namespace BillingClient.Url

open BillingClient.Text

/-- A text divided at its last mark, if there is one. -/
def divideLast? (mark : Char) (text : List Char) : Option (List Char × List Char) :=
  match text.reverse.dropWhile (· ≠ mark) with
  | [] => none
  | _ :: before => some (before.reverse, (text.reverse.takeWhile (· ≠ mark)).reverse)

/-- A text divided at the first colon outside brackets, if there is one. -/
def divideHost (isInside : Bool) : List Char → List Char × Option (List Char)
  | [] => ([], none)
  | c :: rest =>
    if c = ':' && !isInside then ([], some rest)
    else
      let (host, port) := divideHost (c == '[' || (isInside && c != ']')) rest
      (c :: host, port)

/-- The greatest port. -/
def maxPort : Nat := 65535

/-- A port that is not the default one, and what follows its digits, which may only be
a backslash and what comes after it. -/
def readPort (kind : SchemeKind) (text : List Char) :
    Except UrlError (Option Nat × List Char) :=
  let digits := text.takeWhile Char.isDigit
  let rest := text.dropWhile Char.isDigit
  if rest.head?.any (· ≠ '\\') then .error .invalidPort
  else if digits.isEmpty then .ok (none, rest)
  else
    match (digitsValue? digits).filter (· ≤ maxPort) with
    | none => .error .invalidPort
    | some port => .ok (if kind.defaultPort? = some port then none else some port, rest)

def readHost (kind : SchemeKind) (text : List Char) (hasPort : Bool) : Except UrlError Host := do
  let host ← match kind, text with
    | .plain, _ => Host.readPlain text
    | _, [] => .error .emptyHost
    | _, _ => Host.read text
  if host = .name "" && hasPort then .error .emptyHost else .ok host

/-- A name and a password, encoded. -/
def readUser (text : List Char) : String × String :=
  let (name, password) := divideOnce ':' text
  let encoded := fun part => String.ofList (Percent.encodeChars userKeeps part)
  (encoded name, encoded (password.getD []))

/-- The name and password of an authority, not yet divided, if it has any, and its server. -/
def divideUser (whole : List Char) : Option (List Char) × List Char :=
  match divideLast? '@' whole with
  | none => (none, whole)
  | some (user, server) => (some user, server)

/-- The authority of a user and a server, and what follows the digits of its port. -/
def readParts (kind : SchemeKind) (user : Option (List Char)) (server : List Char) :
    Except UrlError (Authority × List Char) := do
  let (username, password) := readUser (user.getD [])
  let (hostText, portText) := divideHost false server
  let host ← readHost kind hostText portText.isSome
  let (port, rest) ← readPort kind (portText.getD [])
  if host = .name "" && !(username.isEmpty && password.isEmpty) then .error .emptyHost
  else .ok (⟨username, password, host, port⟩, rest)

/-- An authority and what comes after it in the hierarchy. `isLast` says whether nothing
follows the hierarchy. -/
def readAuthority (kind : SchemeKind) (isLast : Bool) (text : List Char) :
    Except UrlError (Authority × List Char) := do
  let whole := text.takeWhile (!isSlash kind.isSpecial ·)
  let path := text.dropWhile (!isSlash kind.isSpecial ·)
  let (user, server) := divideUser whole
  if user = some [] && server.isEmpty && !(path.isEmpty && isLast) then .error .emptyHost
  else
    let (authority, rest) ← readParts kind user server
    .ok (authority, rest ++ path)

end BillingClient.Url
