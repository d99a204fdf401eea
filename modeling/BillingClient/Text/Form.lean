import BillingClient.Text.Percent

/-!
Contract: the `application/x-www-form-urlencoded` format.

`encode` writes one name or value, `writePairs` a list of pairs joined by `&`, and
`readPairs` reads such a list: pieces between `&`, empty pieces skipped, the first
`=` of a piece divides it. `encodeSegment` writes one path segment, where a blank
is `%20` so that `+` never stands for it.
-/

namespace BillingClient.Text.Form

/-- The characters that stand for themselves. -/
def isPlain (c : Char) : Bool :=
  ('a' ≤ c && c ≤ 'z') || ('A' ≤ c && c ≤ 'Z') || ('0' ≤ c && c ≤ '9') ||
  c == '*' || c == '-' || c == '.' || c == '_'

/-- A blank as `+`, any other character as itself or percent-encoded. -/
def encodeChar (c : Char) : List Char :=
  if c = ' ' then ['+'] else Percent.encodeChar isPlain c

def encode (text : String) : String :=
  String.ofList (text.toList.flatMap encodeChar)

/-- A pair as `name=value`. -/
def writePair (pair : String × String) : String :=
  encode pair.1 ++ "=" ++ encode pair.2

/-- A list of pairs, joined by `&`. -/
def writePairs (pairs : List (String × String)) : String :=
  "&".intercalate (pairs.map writePair)

/-- Bytes with `+` read as a blank. -/
def plusToBlank (bytes : List UInt8) : List UInt8 :=
  bytes.map fun byte => if byte = 0x2B then 0x20 else byte

/-- The text that an encoded name or value stands for. -/
def decode (bytes : List UInt8) : String :=
  Utf8.decodeLossy (Percent.decodeBytes (plusToBlank bytes))

/-- The pieces of a list between the elements equal to `separator`. -/
def splitAt {α : Type} [DecidableEq α] (separator : α) : List α → List (List α)
  | [] => [[]]
  | x :: rest =>
    if x = separator then [] :: splitAt separator rest
    else match splitAt separator rest with
      | [] => [[x]]
      | piece :: pieces => (x :: piece) :: pieces

/-- A list divided at the first element equal to `separator`, which belongs to
neither part. -/
def divideAt {α : Type} [DecidableEq α] (separator : α) (xs : List α) : List α × List α :=
  (xs.takeWhile (· ≠ separator), (xs.dropWhile (· ≠ separator)).drop 1)

/-- The pairs of an encoded list. -/
def readPairs (text : String) : List (String × String) :=
  ((splitAt 0x26 (Utf8.encode text)).filter (!·.isEmpty)).map fun piece =>
    let (name, value) := divideAt 0x3D piece
    (decode name, decode value)

/-- A text as one path segment. -/
def encodeSegment (text : String) : String :=
  String.ofList (text.toList.flatMap (Percent.encodeChar isPlain))

end BillingClient.Text.Form
