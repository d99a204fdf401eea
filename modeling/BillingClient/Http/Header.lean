import BillingClient.Http.Method
import BillingClient.Text.Blank

/-!
Contract: header fields.

A name is a token, kept in lower case. A value has no control characters but tabs.
-/

namespace BillingClient.Http

structure Header where
  name : String
  value : String
deriving DecidableEq, Repr, Inhabited

namespace Header

/-- The greatest length of a header name. -/
def maxNameLength : Nat := 65535

/-- Whether a text may be a header name. -/
def isName (text : String) : Bool :=
  isToken text && text.length ≤ maxNameLength

/-- Whether a text may be a header value. -/
def isValue (text : String) : Bool :=
  text.toList.all fun c => c == '\t' || (0x20 ≤ c.toNat && c.toNat ≠ 0x7F)

/-- The header of a name, in any case, and a value. -/
def ofText? (name value : String) : Option Header :=
  if isName name && isValue value then some ⟨name.toLower, value⟩ else none

/-- Whether a value is plain text: visible ASCII, blanks and tabs. -/
def isReadable (value : String) : Bool :=
  value.toList.all fun c => c == '\t' || (0x20 ≤ c.toNat && c.toNat < 0x7F)

/-- The value, if it is plain text. -/
def readable? (header : Header) : Option String :=
  if isReadable header.value then some header.value else none

/-- A header without blanks and tabs around its value. -/
def trimmed (header : Header) : Header :=
  { header with value :=
      String.ofList (Text.trimBoth (fun c => c == ' ' || c == '\t') header.value.toList) }

/-- The first header with a name. -/
def find? (headers : List Header) (name : String) : Option Header :=
  headers.find? (·.name = name)

/-- Headers without those of some names. -/
def without (names : List String) (headers : List Header) : List Header :=
  headers.filter (!names.contains ·.name)

/-- Headers with one in place of all of its name. -/
def replace (header : Header) (headers : List Header) : List Header :=
  without [header.name] headers ++ [header]

end Header

end BillingClient.Http
