import BillingClient.Text.Digits
import BillingClient.Text.Form

/-!
Contract: tables of characters, written as texts of hexadecimal code points and ranges.
-/

namespace BillingClient.Url.Idna

open BillingClient.Text

def tableWords (table : String) : List (List Char) :=
  (Form.splitAt ' ' (table.toList.map fun c => if c = '\n' then ' ' else c)).filter (!·.isEmpty)

/-- The number that hexadecimal digits write; other characters are skipped. -/
def hexNumber (digits : List Char) : Nat :=
  digits.foldl (fun value c => match hexDigit? c with
    | some digit => value * 16 + digit
    | none => value) 0

structure CharRange where
  first : Nat
  last : Nat
deriving Repr

/-- Whether a code point lies in a range. -/
def CharRange.contains (range : CharRange) (code : Nat) : Bool :=
  range.first ≤ code && code ≤ range.last

/-- The range that a word `A` or `A-Z` names. -/
def CharRange.ofWord (word : List Char) : CharRange :=
  match Form.divideAt '-' word with
  | (first, []) => ⟨hexNumber first, hexNumber first⟩
  | (first, last) => ⟨hexNumber first, hexNumber last⟩

def ranges (table : String) : List CharRange :=
  (tableWords table).map CharRange.ofWord

/-- Whether a character is in one of the ranges. -/
def inRanges (table : List CharRange) (c : Char) : Bool :=
  table.any (·.contains c.toNat)

end BillingClient.Url.Idna
