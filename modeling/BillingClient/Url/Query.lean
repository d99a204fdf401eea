import BillingClient.Text.Form
import BillingClient.Url.Basic

/-!
Contract: the query of a URL as a list of pairs.
-/

namespace BillingClient.Url

open BillingClient.Text

/-- The pairs of the query, in order. -/
def queryPairs (url : Url) : List (String × String) :=
  Form.readPairs (url.query.getD "")

/-- A query with pairs after what it already holds. -/
def extendQuery (query : Option String) (pairs : List (String × String)) : Option String :=
  match pairs, query with
  | [], query => query
  | pairs, none => some (Form.writePairs pairs)
  | pairs, some before =>
    if before.isEmpty then some (Form.writePairs pairs)
    else some (before ++ "&" ++ Form.writePairs pairs)

/-- A URL with pairs at the end of its query. No pairs leave it as it is. -/
def appendPairs (url : Url) (pairs : List (String × String)) : Url :=
  { url with query := extendQuery url.query pairs }

end BillingClient.Url
