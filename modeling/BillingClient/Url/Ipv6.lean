import BillingClient.Text.Digits
import BillingClient.Text.Form

/-!
Contract: IPv6 addresses in URLs.

An address is eight pieces of 16 bits. In its text the first of the longest runs of
two or more zero pieces is `::`. It is read from hexadecimal pieces between colons, one
`::` for a run of zeros, and four decimal bytes in place of the last two pieces.
-/

namespace BillingClient.Url.Ipv6

open BillingClient.Text

/-- The piece that one to four hexadecimal digits write. -/
def readPiece? (digits : List Char) : Option Nat :=
  if digits.isEmpty || 4 < digits.length then none
  else digits.foldlM (fun value c => (hexDigit? c).map (value * 16 + ·)) 0

/-- The byte that decimal digits write, without a leading zero. -/
def readByte? (digits : List Char) : Option Nat :=
  if digits.isEmpty || (1 < digits.length && digits.head? = some '0') then none
  else (digitsValue? digits).filter (· < 256)

/-- The two pieces that four decimal bytes write. -/
def readBytes? (text : List Char) : Option (List Nat) :=
  match (Form.splitAt '.' text).mapM readByte? with
  | some [a, b, c, d] => some [a * 256 + b, c * 256 + d]
  | _ => none

/-- The pieces between colons. The last of them may be four bytes, where the text is
the end of the address. -/
def readPieces? (isEnd : Bool) : List (List Char) → Option (List Nat)
  | [] => some []
  | [last] =>
    if isEnd && last.contains '.' then readBytes? last else (readPiece? last).map ([·])
  | piece :: rest => do
    let value ← readPiece? piece
    let values ← readPieces? isEnd rest
    some (value :: values)

/-- The pieces of one side of a `::`, which may have none. -/
def readSide? (isEnd : Bool) (text : List Char) : Option (List Nat) :=
  if text.isEmpty then some [] else readPieces? isEnd (Form.splitAt ':' text)

/-- The text before and after the first `::`. -/
def divideAtGap : List Char → Option (List Char × List Char)
  | ':' :: ':' :: rest => some ([], rest)
  | c :: rest => (divideAtGap rest).map fun (before, after) => (c :: before, after)
  | [] => none

/-- The address that a text writes. -/
def read? (text : List Char) : Option (List Nat) :=
  match divideAtGap text with
  | none => (readPieces? true (Form.splitAt ':' text)).filter (·.length == 8)
  | some (before, after) => do
    let front ← readSide? false before
    let back ← readSide? true after
    let count := front.length + back.length
    if count < 8 then some (front ++ List.replicate (8 - count) 0 ++ back) else none

/-- The hexadecimal digits of a piece, without leading zeros. -/
def pieceChars (piece : Nat) : List Char :=
  Nat.toDigits 16 piece

/-- Pieces joined by colons. -/
def joinPieces : List Nat → List Char
  | [] => []
  | [piece] => pieceChars piece
  | piece :: rest => pieceChars piece ++ ':' :: joinPieces rest

/-- The length of the run of zeros at the front. -/
def zerosAtFront (pieces : List Nat) : Nat :=
  (pieces.takeWhile (· == 0)).length

/-- The start of the first longest run of two or more zeros, and its length. -/
def longestGap? (pieces : List Nat) : Option (Nat × Nat) :=
  (List.range pieces.length).foldl (fun best start =>
    let length := zerosAtFront (pieces.drop start)
    if length < 2 then best
    else match best with
      | some (_, longest) => if longest < length then some (start, length) else best
      | none => some (start, length)) none

def chars (pieces : List Nat) : List Char :=
  match longestGap? pieces with
  | none => joinPieces pieces
  | some (start, length) =>
    joinPieces (pieces.take start) ++ ':' :: ':' :: joinPieces (pieces.drop (start + length))

end BillingClient.Url.Ipv6
