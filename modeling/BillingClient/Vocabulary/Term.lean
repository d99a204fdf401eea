/-!
Contract: the words a text may be, and why a text is refused.

A `Wordlist` is a finite type whose values are single words on the wire. Reading
finds the value with exactly the given word; `Refusal` says what a refused text was
meant to be.
-/

namespace BillingClient.Vocabulary

/-- Why a text is no term of the vocabulary. Each cause keeps the text. -/
inductive Refusal where
  | identifier (text : String)
  | currency (text : String)
  | word (kind text : String)
deriving DecidableEq, Repr

def Refusal.message : Refusal → String
  | .identifier text => "invalid UUID format: " ++ text
  | .currency text => "invalid currency code: " ++ text
  | .word kind text => "unknown " ++ kind ++ " value: " ++ text

/-- How a value is spelled: its word on the wire, and its name for programmers. -/
structure Spelling where
  word : String
  label : String

/-- A finite type whose values are words. -/
class Wordlist (α : Type) where
  /-- What the words are. -/
  kind : String
  /-- Every value, in order. -/
  values : List α
  spelling : α → Spelling

namespace Wordlist

variable {α : Type} [Wordlist α]

def word (value : α) : String :=
  (spelling value).word

def ofWord? (text : String) : Option α :=
  values.find? (word · = text)

/-- The value with a word, or why there is none. -/
def parse (text : String) : Except Refusal α :=
  match ofWord? text with
  | some value => .ok value
  | none => .error (.word (kind α) text)

end Wordlist

end BillingClient.Vocabulary
