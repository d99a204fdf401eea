/-!
Contract: digits and the numbers they write.

Owns single digits in bases up to sixteen, the value of a decimal digit string,
zero-padded printing, and the reading of a bounded decimal number.
-/

namespace BillingClient.Text

/-- The value of a decimal digit. -/
def decimalDigit? (c : Char) : Option Nat :=
  if '0' ≤ c && c ≤ '9' then some (c.toNat - 48) else none

/-- The value of a hexadecimal digit, of either case. -/
def hexDigit? (c : Char) : Option Nat :=
  if '0' ≤ c && c ≤ '9' then some (c.toNat - 48)
  else if 'a' ≤ c && c ≤ 'f' then some (c.toNat - 87)
  else if 'A' ≤ c && c ≤ 'F' then some (c.toNat - 55)
  else none

/-- The lower-case hexadecimal digit of a value below sixteen. -/
def lowerHexDigit (value : Nat) : Char :=
  if value < 10 then Char.ofNat (48 + value) else Char.ofNat (87 + value)

/-- The upper-case hexadecimal digit of a value below sixteen. -/
def upperHexDigit (value : Nat) : Char :=
  if value < 10 then Char.ofNat (48 + value) else Char.ofNat (55 + value)

/-- The decimal digits of a number, most significant first. -/
def decimalDigits (value : Nat) : List Char :=
  Nat.toDigits 10 value

/-- The decimal digits of a number, padded with zeros to a least width. -/
def padded (width value : Nat) : List Char :=
  let digits := decimalDigits value
  List.replicate (width - digits.length) '0' ++ digits

/-- The number written by decimal digits, most significant first. -/
def digitsValue? (digits : List Char) : Option Nat :=
  digits.foldlM (fun value c => (decimalDigit? c).map (value * 10 + ·)) 0

/-- Reads an unsigned decimal number that is at most `bound`: an optional plus
sign and at least one digit, nothing else. -/
def boundedNumber? (bound : Nat) (text : String) : Option Nat :=
  let digits := match text.toList with
    | '+' :: rest => rest
    | other => other
  if digits.isEmpty then none
  else (digitsValue? digits).filter (· ≤ bound)

/-- The greatest value of an unsigned 64-bit number. -/
def maxUnsigned64 : Nat := Nat.pow 2 64 - 1

/-- The greatest value of an unsigned 32-bit number. -/
def maxUnsigned32 : Nat := Nat.pow 2 32 - 1

end BillingClient.Text
