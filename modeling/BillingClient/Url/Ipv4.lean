import BillingClient.Text.Digits
import BillingClient.Text.Form

/-!
Contract: IPv4 addresses in URLs.

An address is a number below 2^32. It is read from one to four parts between dots,
each decimal, octal (after `0`) or hexadecimal (after `0x`); the last part fills all
the bytes that are left. A trailing dot is allowed.
-/

namespace BillingClient.Url.Ipv4

open BillingClient.Text

/-- The digits of a part and their base. -/
def partDigits (part : List Char) : Nat × List Char :=
  match part with
  | '0' :: 'x' :: rest => (16, rest)
  | '0' :: 'X' :: rest => (16, rest)
  | '0' :: c :: rest => (8, c :: rest)
  | digits => (10, digits)

/-- The number of a part; an absent number after a base mark is zero. -/
def readPart? (part : List Char) : Option Nat :=
  if part.isEmpty then none
  else
    let (base, digits) := partDigits part
    digits.foldlM (fun value c =>
      ((hexDigit? c).filter (· < base)).map (value * base + ·)) 0

/-- Whether a host has to be an IPv4 address: its last part, a trailing dot aside, is
a number. -/
def endsInNumber (host : List Char) : Bool :=
  match (Form.splitAt '.' host).reverse with
  | [] :: last :: _ => (readPart? last).isSome || isDecimal last
  | [] :: [] => false
  | last :: _ => (readPart? last).isSome || isDecimal last
  | [] => false
where
  isDecimal (part : List Char) : Bool :=
    !part.isEmpty && part.all (decimalDigit? · |>.isSome)

/-- The address of parts: all but the last are bytes, the last fills the rest. -/
def ofParts? : (room : Nat) → List Nat → Option Nat
  | _, [] => none
  | room, [last] => if last < Nat.pow 256 room then some last else none
  | 0, _ => none
  | room + 1, part :: rest =>
    if part < 256 then (ofParts? room rest).map (part * Nat.pow 256 room + ·) else none

/-- The address that a host writes. -/
def read? (host : List Char) : Option Nat :=
  let parts := Form.splitAt '.' host
  let parts := if parts.getLast? = some [] then parts.dropLast else parts
  if 4 < parts.length then none
  else (parts.mapM readPart?).bind (ofParts? 4)

/-- The text of an address: four decimal bytes. -/
def chars (address : Nat) : List Char :=
  decimalDigits (address / 0x1000000 % 0x100) ++ '.' ::
    decimalDigits (address / 0x10000 % 0x100) ++ '.' ::
    decimalDigits (address / 0x100 % 0x100) ++ '.' :: decimalDigits (address % 0x100)

end BillingClient.Url.Ipv4
