import BillingClient.Calendar.Instant
import BillingClient.Client.Page
import BillingClient.Number.Decimal
import BillingClient.Text.Form
import BillingClient.Vocabulary.Words

/-!
Contract: the parameters of a request.

Parameters are pairs in order, and a key may occur more than once. A list of them is
put together from short lists, one for each argument of a call.
-/

namespace BillingClient.Client

open BillingClient.Calendar
open BillingClient.Number
open BillingClient.Text
open BillingClient.Vocabulary

structure Query where
  pairs : List (String × String) := []
deriving DecidableEq, Repr, Inhabited

namespace Query

instance : Append Query := ⟨fun first second => ⟨first.pairs ++ second.pairs⟩⟩

/-- The first value of a key. -/
def get? (query : Query) (key : String) : Option String :=
  (query.pairs.find? (·.1 = key)).map Prod.snd

/-- Every value of a key, in order. -/
def getAll (query : Query) (key : String) : List String :=
  (query.pairs.filter (·.1 = key)).map Prod.snd

def size (query : Query) : Nat :=
  query.pairs.length

/-- Whether there are no parameters. -/
def isEmpty (query : Query) : Bool :=
  query.pairs.isEmpty

def value (key value : String) : Query :=
  ⟨[(key, value)]⟩

/-- A parameter that may be absent. -/
def optional (key : String) : Option String → Query
  | none => {}
  | some text => value key text

/-- A parameter for each value. -/
def each (key : String) (values : List String) : Query :=
  ⟨values.map (key, ·)⟩

def flag (key : String) (isSet : Bool) : Query :=
  value key (if isSet then "true" else "false")

/-- The decimal text of a number. -/
def naturalText (number : Nat) : String :=
  String.ofList (decimalDigits number)

def integer (key : String) (number : Int) : Query :=
  value key ((if number < 0 then "-" else "") ++ naturalText number.natAbs)

/-- An amount that may be absent. -/
def decimal (key : String) (amount : Option Decimal) : Query :=
  optional key (amount.map Decimal.text)

/-- A day that may be absent. -/
def date (key : String) (day : Option Date) : Query :=
  optional key (day.map Date.text)

/-- An instant that may be absent, in whole milliseconds. -/
def instant (key : String) (at? : Option Instant) : Query :=
  optional key (at?.map (Instant.text .millis))

/-- A word that may be absent. -/
def word {α : Type} [Wordlist α] (key : String) (term : Option α) : Query :=
  optional key (term.map Wordlist.word)

/-- How much of the audit history is asked for. -/
def audit (level : AuditLevel) : Query :=
  value "audit" (Wordlist.word level)

def page (page : Page) : Query :=
  value "offset" (naturalText page.offset) ++ value "limit" (naturalText page.limit)

/-- Properties for a plugin: one parameter each, whose value is again a pair in form
encoding. -/
def pluginProperties (properties : List (String × String)) : Query :=
  each "pluginProperty" (properties.map Form.writePair)

def completion (completion : Completion) : Query :=
  if completion.isActive then
    flag "callCompletion" true ++ value "callTimeoutSec" (naturalText completion.timeoutSeconds)
  else {}

end Query

end BillingClient.Client
