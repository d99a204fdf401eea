import BillingClient.Text.Blank
import BillingClient.Url.Path

/-!
Contract: a text divided into the parts of a URL.

Blanks and controls around the text are dropped, tabs and line ends wherever they
stand. The fragment follows the first `#`, the query the first `?` before it; what is
left is the hierarchy: scheme, authority and path. The parts are not yet encoded.
-/

namespace BillingClient.Url

open BillingClient.Text

/-- The text without what a URL never holds. -/
def clean (text : String) : List Char :=
  (trimBoth (·.toNat ≤ 0x20) text.toList).filter fun c => ['\t', '\n', '\r'].all (· != c)

/-- A text divided at the first mark, if there is one. -/
def divideOnce (mark : Char) (text : List Char) : List Char × Option (List Char) :=
  match text.dropWhile (· ≠ mark) with
  | [] => (text, none)
  | _ :: rest => (text.takeWhile (· ≠ mark), some rest)

structure Parts where
  hierarchy : List Char
  query : Option (List Char)
  fragment : Option (List Char)
deriving DecidableEq, Repr

namespace Parts

def ofText (text : String) : Parts :=
  let (body, fragment) := divideOnce '#' (clean text)
  let (hierarchy, query) := divideOnce '?' body
  ⟨hierarchy, query, fragment⟩

/-- The query as it stands in a URL. -/
def queryText (parts : Parts) (isSpecial : Bool) : Option String :=
  parts.query.map fun query => String.ofList (Percent.encodeChars (queryKeeps isSpecial) query)

/-- The fragment as it stands in a URL. -/
def fragmentText (parts : Parts) : Option String :=
  parts.fragment.map fun fragment => String.ofList (Percent.encodeChars fragmentKeeps fragment)

end Parts

/-- Whether a character may stand in a scheme after its first letter. -/
def isSchemeChar (c : Char) : Bool :=
  c.isAlphanum || c == '+' || c == '-' || c == '.'

/-- The scheme of a text, in lower case, and what follows its colon. -/
def divideScheme? (text : List Char) : Option (String × List Char) :=
  if text.head?.any Char.isAlpha then
    match text.dropWhile isSchemeChar with
    | ':' :: rest => some (String.ofList ((text.takeWhile isSchemeChar).map Char.toLower), rest)
    | _ => none
  else none

end BillingClient.Url
