import BillingClient.Json.Codec
import BillingClient.Vocabulary.Term

/-!
Contract: currency codes, three letters from A to Z.
-/

namespace BillingClient.Vocabulary

/-- Whether a text is three letters from A to Z. -/
def isCurrencyCode (code : String) : Bool :=
  let letters := code.toList
  letters.length == 3 && letters.all fun c => 'A' ≤ c && c ≤ 'Z'

structure Currency where
  code : String
  isCode : isCurrencyCode code = true
deriving DecidableEq, Repr

namespace Currency

/-- The currency with a code, or why there is none. -/
def parse (code : String) : Except Refusal Currency :=
  if h : isCurrencyCode code = true then .ok ⟨code, h⟩ else .error (.currency code)

/-- The text that names the type and the code. -/
def described (currency : Currency) : String :=
  "Currency(" ++ currency.code ++ ")"

def codec : Json.Codec Currency :=
  Json.Codec.string.refine (fun text => (parse text).toOption) code

end Currency

end BillingClient.Vocabulary
