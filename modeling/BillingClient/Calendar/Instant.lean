import BillingClient.Calendar.Date

/-!
Contract: instants in universal time, to the nanosecond.

Owns the type, its text in RFC 3339 with any number of fraction digits, and the
reading of a relaxed RFC 3339 text, whose offset moves the instant to universal
time. A leap second is second 59 with a nanosecond count of 10^9 or more, and is
written as second 60.

Does not own: such a count at any other second. No text names such a time, and what
would be written for it names the next second, so it would not be read back.
-/

namespace BillingClient.Calendar

open BillingClient.Text

def secondsPerDay : Nat := 86400

def nanosPerSecond : Nat := 1000000000

/-- Whether the parts are a time of day. Only the last second of a minute may be
a leap second. -/
def isTime (second nano : Nat) : Bool :=
  second < secondsPerDay && nano < 2 * nanosPerSecond &&
  (nano < nanosPerSecond || second % 60 == 59)

/-- A second of a day in universal time, and the nanoseconds after its start. -/
structure Instant where
  date : Date
  second : Nat
  nano : Nat
  isTime : Calendar.isTime second nano = true
deriving DecidableEq, Repr

namespace Instant

/-- The instant with the given parts, if there is one. -/
def ofParts? (date : Date) (second nano : Nat) : Option Instant :=
  if h : Calendar.isTime second nano = true then some ⟨date, second, nano, h⟩ else none

instance : Inhabited Instant := ⟨⟨default, 0, 0, by decide⟩⟩

/-- The instant that a local time names when clocks run `offset` seconds ahead of
universal time, less than a day either way. -/
def ofLocal? (date : Date) (second nano : Nat) (offset : Int) : Option Instant :=
  let shifted := Int.ofNat second - offset
  if shifted < 0 then
    date.previous?.bind (ofParts? · (shifted + Int.ofNat secondsPerDay).toNat nano)
  else if Int.ofNat secondsPerDay ≤ shifted then
    date.next?.bind (ofParts? · (shifted - Int.ofNat secondsPerDay).toNat nano)
  else ofParts? date shifted.toNat nano

/-! ## Text -/

/-- How many fraction digits a text has. -/
inductive Precision where
  /-- Always three, the rest cut off. -/
  | millis
  /-- None, three, six or nine: the fewest that lose nothing. -/
  | exact
deriving DecidableEq, Repr

/-- The fraction digits of a count of nanoseconds below one second. -/
def fractionText (precision : Precision) (nano : Nat) : List Char :=
  match precision with
  | .millis => '.' :: padded 3 (nano / 1000000)
  | .exact =>
    if nano = 0 then []
    else if nano % 1000000 = 0 then '.' :: padded 3 (nano / 1000000)
    else if nano % 1000 = 0 then '.' :: padded 6 (nano / 1000)
    else '.' :: padded 9 nano

/-- The characters of `YYYY-MM-DDTHH:MM:SS[.fraction]Z`. -/
def chars (precision : Precision) (instant : Instant) : List Char :=
  let leap := instant.nano / nanosPerSecond
  instant.date.chars ++ 'T' :: padded 2 (instant.second / 3600) ++
    ':' :: padded 2 (instant.second / 60 % 60) ++
    ':' :: padded 2 (instant.second % 60 + leap) ++
    fractionText precision (instant.nano % nanosPerSecond) ++ ['Z']

def text (precision : Precision) (instant : Instant) : String :=
  String.ofList (instant.chars precision)

/-! ## Reading -/

/-- Reads a fraction after its point: the nanoseconds of up to nine digits; more
digits are skipped. -/
def readFraction (text : List Char) : Option (Nat × List Char) :=
  (readNumber 9 text).map fun (value, rest) =>
    let width := text.length - rest.length
    (value * Nat.pow 10 (9 - width), rest.dropWhile (decimalDigit? · |>.isSome))

/-- Reads the nanoseconds after a second: none, or a point and a fraction. -/
def readNanos (text : List Char) : Option (Nat × List Char) :=
  match text with
  | '.' :: rest => readFraction rest
  | rest => some (0, rest)

/-- Reads `hour:minute:second[.fraction]`: the second of the day and the
nanoseconds. -/
def readTime (text : List Char) : Option (Nat × Nat × List Char) := do
  let (hour, text) ← readPart text
  let text ← readMark ':' text
  let (minute, text) ← readPart text
  let text ← readMark ':' text
  let (second, text) ← readPart text
  let (nano, text) ← readNanos text
  if 24 ≤ hour || 60 ≤ minute || 61 ≤ second then none
  else
    let start := hour * 3600 + minute * 60
    if second = 60 then some (start + 59, nano + nanosPerSecond, text)
    else some (start + second, nano, text)

/-- Reads `hh:mm` or `hhmm` after the sign of an offset, in seconds. Colons and
blanks may stand between the two. -/
def readOffsetSize (text : List Char) : Option (Nat × List Char) :=
  match text with
  | h₁ :: h₂ :: rest => do
    let tens ← decimalDigit? h₁
    let ones ← decimalDigit? h₂
    match rest.dropWhile (fun c => c == ':' || isBlank c) with
    | m₁ :: m₂ :: rest => do
      let minuteTens ← decimalDigit? m₁
      let minuteOnes ← decimalDigit? m₂
      if 6 ≤ minuteTens then none
      else some ((tens * 10 + ones) * 3600 + (minuteTens * 10 + minuteOnes) * 60, rest)
    | _ => none
  | _ => none

/-- Reads an offset: `Z` or `UTC` of any case, or a sign, hours and minutes. -/
def readOffset (text : List Char) : Option (Int × List Char) :=
  match text with
  | 'Z' :: rest | 'z' :: rest => some (0, rest)
  | '+' :: rest => (readOffsetSize rest).map fun (size, rest) => (Int.ofNat size, rest)
  | '-' :: rest | '\u2212' :: rest =>
    (readOffsetSize rest).map fun (size, rest) => (-Int.ofNat size, rest)
  | u :: t :: c :: rest =>
    if u.toUpper = 'U' && t.toUpper = 'T' && c.toUpper = 'C' then some (0, rest) else none
  | _ => none

/-- The instant that a relaxed RFC 3339 text names: `T`, `t` or a blank between
date and time, an offset less than a day, blanks after it. -/
def ofText? (text : String) : Option Instant := do
  let (date, rest) ← readDate text.toList
  let rest ← match rest with
    | 'T' :: rest | 't' :: rest | ' ' :: rest => some rest
    | _ => none
  let (second, nano, rest) ← readTime rest
  let (offset, rest) ← readOffset (dropBlanks rest)
  if !(dropBlanks rest).isEmpty || secondsPerDay ≤ offset.natAbs then none
  else ofLocal? date second nano offset

end Instant

end BillingClient.Calendar
