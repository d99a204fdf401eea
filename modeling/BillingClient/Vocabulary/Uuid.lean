import BillingClient.Text.Digits

/-!
Contract: universally unique identifiers.

A UUID is a number of 128 bits. Its text is 32 lower-case hexadecimal digits in
groups of 8, 4, 4, 4 and 12 with hyphens between them. It is read from 32 digits of
either case, from the hyphenated form, and from that form in braces or after
`urn:uuid:`.
-/

namespace BillingClient.Vocabulary

open BillingClient.Text

/-- One more than the greatest UUID. -/
def Uuid.limit : Nat := Nat.pow 2 128

/-- A 128-bit identifier. -/
structure Uuid where
  value : Nat
  value_lt : value < Uuid.limit
deriving DecidableEq, Repr

namespace Uuid

instance : Inhabited Uuid := ⟨⟨0, by decide⟩⟩

/-- The `width` last hexadecimal digits of a number. -/
def hexDigits : Nat → Nat → List Char
  | 0, _ => []
  | width + 1, value => hexDigits width (value / 16) ++ [lowerHexDigit (value % 16)]

/-- The 32 digits of a UUID. -/
def digits (uuid : Uuid) : List Char :=
  hexDigits 32 uuid.value

/-- Digits with hyphens after the 8th, 12th, 16th and 20th. -/
def hyphenate (digits : List Char) : List Char :=
  digits.take 8 ++ '-' :: (digits.drop 8).take 4 ++ '-' :: (digits.drop 12).take 4 ++
    '-' :: (digits.drop 16).take 4 ++ '-' :: digits.drop 20

/-- The hyphenated text of a UUID. -/
def text (uuid : Uuid) : String :=
  String.ofList (hyphenate uuid.digits)

/-- The number that hexadecimal digits write. -/
def hexValue? (digits : List Char) : Option Nat :=
  digits.foldlM (fun value c => (hexDigit? c).map (value * 16 + ·)) 0

/-- Reads 32 digits. -/
def ofDigits? (digits : List Char) : Option Uuid :=
  if digits.length = 32 then
    (hexValue? digits).bind fun value =>
      if h : value < limit then some ⟨value, h⟩ else none
  else none

def ofHyphenated? (text : List Char) : Option Uuid :=
  let digits := text.filter (· ≠ '-')
  if text = hyphenate digits then ofDigits? digits else none

/-- The text between braces. -/
def unbraced? (text : List Char) : Option (List Char) :=
  match text with
  | '{' :: rest => if rest.getLast? = some '}' then some rest.dropLast else none
  | _ => none

/-- The text after `urn:uuid:`, in any case. -/
def afterUrn? (text : List Char) : Option (List Char) :=
  if (text.take 9).map Char.toLower = "urn:uuid:".toList then some (text.drop 9) else none

/-- Reads any of the four forms. -/
def ofText? (text : String) : Option Uuid :=
  let text := text.toList
  (ofDigits? text).or <| (ofHyphenated? text).or <|
    ((unbraced? text).bind ofHyphenated?).or ((afterUrn? text).bind ofHyphenated?)

end Uuid

end BillingClient.Vocabulary
