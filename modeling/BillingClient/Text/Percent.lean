import BillingClient.Text.Digits
import BillingClient.Text.Utf8

/-!
Contract: percent-encoding of text, byte by byte.

`encode` keeps the ASCII characters of a set and writes every other byte of the
UTF-8 form as `%` and two upper-case hexadecimal digits. `decode` reads any text
back to bytes: a `%` that is not followed by two hexadecimal digits stands for
itself.
-/

namespace BillingClient.Text.Percent

/-- A byte as `%XX`. -/
def escape (byte : UInt8) : List Char :=
  ['%', upperHexDigit (byte.toNat / 16), upperHexDigit (byte.toNat % 16)]

/-- A character: itself when it is ASCII and kept, else its bytes escaped. -/
def encodeChar (keeps : Char → Bool) (c : Char) : List Char :=
  if c.toNat < 0x80 && keeps c then [c]
  else (String.utf8EncodeChar c).flatMap escape

/-- A text with only the characters of `keeps` left as they are. -/
def encodeChars (keeps : Char → Bool) (text : List Char) : List Char :=
  text.flatMap (encodeChar keeps)

/-- A string with only the characters of `keeps` left as they are. -/
def encode (keeps : Char → Bool) (text : String) : String :=
  String.ofList (encodeChars keeps text.toList)

/-- The bytes that a percent-encoded text stands for. -/
def decodeBytes : List UInt8 → List UInt8
  | 0x25 :: high :: low :: rest =>
    match hexDigit? (Char.ofNat high.toNat), hexDigit? (Char.ofNat low.toNat) with
    | some h, some l => UInt8.ofNat (h * 16 + l) :: decodeBytes rest
    | _, _ => 0x25 :: decodeBytes (high :: low :: rest)
  | byte :: rest => byte :: decodeBytes rest
  | [] => []

/-- The bytes that a percent-encoded string stands for. -/
def decode (text : String) : List UInt8 :=
  decodeBytes (Utf8.encode text)

end BillingClient.Text.Percent
