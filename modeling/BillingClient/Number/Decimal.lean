import BillingClient.Number.Binary64
import BillingClient.Number.Shortest

/-!
Contract: decimal amounts with a 96-bit mantissa and a scale of at most 28.

Owns the type with its limits, its plain text, the reading of plain and
scientific texts, and the conversions from and to binary64. Reading keeps the
scale as written, and rounds half up where the digits do not fit. Two amounts are
equal when their values are, whatever their scales and the sign of a zero.
-/

namespace BillingClient.Number

open BillingClient.Text

/-- One more than the greatest mantissa. -/
def Decimal.mantissaLimit : Nat := Nat.pow 2 96

/-- The greatest scale. -/
def Decimal.maxScale : Nat := 28

/-- An amount: `mantissa` divided by ten to the power `scale`, negated when
`negative`. A zero is negative only when the digits of a negative amount were rounded
away. -/
structure Decimal where
  negative : Bool
  mantissa : Nat
  scale : Nat
  mantissa_lt : mantissa < Decimal.mantissaLimit
  scale_le : scale ≤ Decimal.maxScale
deriving DecidableEq, Repr

namespace Decimal

/-- The amount with the given parts, if they are within the limits. -/
def ofParts? (negative : Bool) (mantissa scale : Nat) : Option Decimal :=
  if h : mantissa < mantissaLimit ∧ scale ≤ maxScale then
    some ⟨negative, mantissa, scale, h.1, h.2⟩
  else none

def zero : Decimal := ⟨false, 0, 0, by decide, by decide⟩

instance : Inhabited Decimal := ⟨zero⟩

/-- An integer as an amount, if its magnitude fits. -/
def ofInt? (n : Int) : Option Decimal :=
  ofParts? (n < 0) n.natAbs 0

def signedMantissa (d : Decimal) : Int :=
  if d.negative then -Int.ofNat d.mantissa else Int.ofNat d.mantissa

def same (x y : Decimal) : Bool :=
  x.signedMantissa * Nat.pow 10 y.scale == y.signedMantissa * Nat.pow 10 x.scale

instance : BEq Decimal := ⟨same⟩

/-- The plain decimal text, with as many fraction digits as the scale. -/
def text (d : Decimal) : String :=
  let digits := padded (d.scale + 1) d.mantissa
  let whole := digits.take (digits.length - d.scale)
  let fraction := digits.drop (digits.length - d.scale)
  String.ofList ((if d.negative then ['-'] else []) ++ whole ++
    if d.scale = 0 then [] else '.' :: fraction)

/-! ## Reading texts -/

/-- What has been read of a plain text. -/
structure Progress where
  pointSeen : Bool
  digitSeen : Bool
  mantissa : Nat
  scale : Nat
deriving Repr

/-- Ends a text whose digits have no more room: what is left may hold only digits and
separators, and its first digit rounds the digits before it half up. A mantissa that
reaches the limit gives up one fraction digit. -/
def roundAt (progress : Progress) (left : List Char) : Option (Nat × Nat) := do
  let digits ← (left.filter (· ≠ '_')).mapM decimalDigit?
  if digits.headD 0 < 5 then some (progress.mantissa, progress.scale)
  else
    let raised := progress.mantissa + 1
    if raised < mantissaLimit then some (raised, progress.scale)
    else if progress.scale = 0 then none
    else some ((raised + 4) / 10, progress.scale - 1)

/-- Reads the rest of a plain text after its sign: mantissa and scale. -/
def readDigits : Progress → List Char → Option (Nat × Nat)
  | progress, [] =>
    if progress.digitSeen then some (progress.mantissa, progress.scale) else none
  | progress, next :: rest =>
    if progress.pointSeen && maxScale ≤ progress.scale then roundAt progress (next :: rest)
    else match decimalDigit? next with
      | some digit =>
        let mantissa := progress.mantissa * 10 + digit
        if mantissa < mantissaLimit then
          readDigits ⟨progress.pointSeen, true, mantissa,
            if progress.pointSeen then progress.scale + 1 else progress.scale⟩ rest
        else if progress.pointSeen then roundAt progress (next :: rest)
        else none
      | none =>
        if next = '.' && !progress.pointSeen then
          readDigits { progress with pointSeen := true } rest
        else if next = '_' && progress.digitSeen then readDigits progress rest
        else none

/-- Reads a plain text: an optional sign, digits, an optional point. The sign of a zero
is dropped. -/
def ofPlain? (text : List Char) : Option Decimal :=
  let (negative, digits) := match text with
    | '-' :: rest => (true, rest)
    | '+' :: rest => (false, rest)
    | other => (false, other)
  (readDigits ⟨false, false, 0, 0⟩ digits).bind fun (mantissa, scale) =>
    ofParts? (negative && mantissa != 0) mantissa scale

/-- A natural number divided by a power of ten, rounded half up. -/
def roundOff (value places : Nat) : Nat :=
  (2 * value + Nat.pow 10 places) / (2 * Nat.pow 10 places)

/-- The amount times ten to the power of `-exponent`, by raising the scale. Digits beyond
the greatest scale are rounded off; the sign stays, also that of a zero. -/
def shiftDown? (d : Decimal) (exponent : Nat) : Option Decimal :=
  if maxScale < exponent then none
  else
    let scale := d.scale + exponent
    ofParts? d.negative (roundOff d.mantissa (scale - maxScale)) (min scale maxScale)

/-- The amount times ten to the power of `exponent`: the scale is lowered as far
as it goes, beyond that the result is a whole number of scale zero. -/
def shiftUp? (d : Decimal) (exponent : Nat) : Option Decimal :=
  if exponent ≤ d.scale then ofParts? d.negative d.mantissa (d.scale - exponent)
  else if maxScale < exponent then none
  else ofParts? d.negative (d.mantissa * Nat.pow 10 (exponent - d.scale)) 0

/-- Reads a text with an exponent: a plain text, `e` or `E`, an exponent. -/
def ofScientific? (text : List Char) : Option Decimal :=
  let isMark (c : Char) : Bool := c == 'e' || c == 'E'
  match text.dropWhile (!isMark ·) with
  | [] => none
  | _ :: exponent =>
    (ofPlain? (text.takeWhile (!isMark ·))).bind fun base =>
      match exponent with
      | '-' :: digits =>
        (boundedNumber? maxUnsigned32 (String.ofList digits)).bind base.shiftDown?
      | digits =>
        (boundedNumber? maxUnsigned32 (String.ofList digits)).bind base.shiftUp?

/-- Reads a plain text, or else one with an exponent. -/
def ofText? (text : String) : Option Decimal :=
  (ofPlain? text.toList).or (ofScientific? text.toList)

/-- Reads a binary64 number through its shortest plain text. -/
def ofBinary64? (x : Binary64) : Option Decimal :=
  ofPlain? (FloatStyle.plain.write x).toList

/-! ## Writing as binary64 -/

/-- The binary64 number written for the magnitude of an amount. Whole and fractional part
are converted apart, and their sum is rounded to `scale` places. -/
def magnitudeToBinary64 (d : Decimal) : Binary64 :=
  if d.scale = 0 then Binary64.ofNat d.mantissa
  else
    let one := Nat.pow 10 d.scale
    let whole := Binary64.ofNat (d.mantissa / one)
    let fraction := (Binary64.ofNat (d.mantissa % one)).div (Binary64.ofNat one)
    if fraction.isZero then whole
    else
      let places := Binary64.powerOfTen d.scale
      ((whole.addMagnitudes fraction).mul places).round.div places

/-- The binary64 number written for an amount. A whole zero of scale zero has no sign. -/
def toBinary64 (d : Decimal) : Binary64 :=
  if d.negative && !(d.scale = 0 && d.mantissa = 0) then d.magnitudeToBinary64.neg
  else d.magnitudeToBinary64

end Decimal

end BillingClient.Number
