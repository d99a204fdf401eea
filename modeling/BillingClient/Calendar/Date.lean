import BillingClient.Text.Blank
import BillingClient.Text.Digits

/-!
Contract: local dates of the proleptic Gregorian calendar.

Owns the type (years -262143 to 262142), its text, the neighbouring days, and the
reading of `year-month-day`, where blanks may stand around the parts and a year
outside 0 to 9999 carries a sign.
-/

namespace BillingClient.Calendar

open BillingClient.Text

/-- Whether the year has a 29 February. -/
def isLeapYear (year : Int) : Bool :=
  year % 4 == 0 && (year % 100 != 0 || year % 400 == 0)

/-- The number of days of a month from 1 to 12. -/
def daysInMonth (year : Int) (month : Nat) : Nat :=
  match month with
  | 2 => if isLeapYear year then 29 else 28
  | 4 | 6 | 9 | 11 => 30
  | _ => 31

/-- The first and the last year of the calendar. -/
def minYear : Int := -262143
def maxYear : Int := 262142

/-- Whether the parts name a day of the calendar. -/
def isDay (year : Int) (month day : Nat) : Bool :=
  minYear ≤ year && year ≤ maxYear && 1 ≤ month && month ≤ 12 &&
  1 ≤ day && day ≤ daysInMonth year month

structure Date where
  year : Int
  month : Nat
  day : Nat
  isDay : Calendar.isDay year month day = true
deriving DecidableEq, Repr

namespace Date

/-- The day with the given parts, if there is one. -/
def ofParts? (year : Int) (month day : Nat) : Option Date :=
  if h : Calendar.isDay year month day = true then some ⟨year, month, day, h⟩ else none

instance : Inhabited Date := ⟨⟨1970, 1, 1, by decide⟩⟩

/-- The day after, unless this is the last one. -/
def next? (date : Date) : Option Date :=
  (ofParts? date.year date.month (date.day + 1)).or
    ((ofParts? date.year (date.month + 1) 1).or (ofParts? (date.year + 1) 1 1))

/-- The day before, unless this is the first one. -/
def previous? (date : Date) : Option Date :=
  if date.day = 1 then
    if date.month = 1 then ofParts? (date.year - 1) 12 31
    else ofParts? date.year (date.month - 1) (daysInMonth date.year (date.month - 1))
  else ofParts? date.year date.month (date.day - 1)

/-- The text of a year: four digits at least, and a sign outside 0 to 9999. -/
def yearText (year : Int) : List Char :=
  if 0 ≤ year ∧ year ≤ 9999 then padded 4 year.natAbs
  else (if year < 0 then '-' else '+') :: padded 4 year.natAbs

/-- The characters of `YYYY-MM-DD`. -/
def chars (date : Date) : List Char :=
  yearText date.year ++ '-' :: padded 2 date.month ++ '-' :: padded 2 date.day

/-- The text `YYYY-MM-DD`. -/
def text (date : Date) : String :=
  String.ofList date.chars

end Date

/-! ## Reading parts of a date or time -/

/-- The greatest value of a signed 64-bit number. -/
def maxSigned64 : Nat := Nat.pow 2 63 - 1

/-- Reads one to `width` digits, which may follow blanks. The number has to fit in
a signed 64-bit number. -/
def readNumber (width : Nat) (text : List Char) : Option (Nat × List Char) :=
  let digits := (text.take width).takeWhile (decimalDigit? · |>.isSome)
  if digits.isEmpty then none
  else (digitsValue? digits).bind fun value =>
    if value ≤ maxSigned64 then some (value, text.drop digits.length) else none

/-- Reads a number of one or two digits after blanks. -/
def readPart (text : List Char) : Option (Nat × List Char) :=
  readNumber 2 (dropBlanks text)

/-- Reads a year after blanks: up to four digits, or a sign and any number of
them. -/
def readYear (text : List Char) : Option (Int × List Char) :=
  match dropBlanks text with
  | '-' :: rest => (readNumber rest.length rest).map fun (value, rest) => (-Int.ofNat value, rest)
  | '+' :: rest => (readNumber rest.length rest).map fun (value, rest) => (Int.ofNat value, rest)
  | rest => (readNumber 4 rest).map fun (value, rest) => (Int.ofNat value, rest)

/-- Reads one character after blanks. -/
def readMark (mark : Char) (text : List Char) : Option (List Char) :=
  match dropBlanks text with
  | c :: rest => if c = mark then some rest else none
  | [] => none

/-- Reads `year-month-day`; blanks may stand before each part and mark. -/
def readDate (text : List Char) : Option (Date × List Char) := do
  let (year, text) ← readYear text
  let text ← readMark '-' text
  let (month, text) ← readPart text
  let text ← readMark '-' text
  let (day, text) ← readPart text
  let date ← Date.ofParts? year month day
  some (date, text)

/-- The day that a whole text names; blanks may follow it. -/
def Date.ofText? (text : String) : Option Date := do
  let (date, rest) ← readDate text.toList
  if (dropBlanks rest).isEmpty then some date else none

end BillingClient.Calendar
