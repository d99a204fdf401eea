import BillingClient.Number.Binary64
import BillingClient.Text.Digits

/-!
Contract: the fewest decimal digits that read back as a given binary64 number.

Every count of units is a multiple of 10^-1074, so the number and the ends of the
interval that rounds to it are natural numbers of that scale. For one, two, …
seventeen digits the two neighbours on the decimal grid are tried; the first grid
with a neighbour inside the interval gives the digits, the nearer one if both are
inside; `Tie` settles which, when both are equally near. The ends belong to the
interval exactly when the significand is even.

`FloatStyle` says how a format chooses and writes those digits.
-/

namespace BillingClient.Number

open BillingClient.Text

/-- A decimal magnitude: `digits` times ten to the power `exponent`. -/
structure DecimalMagnitude where
  digits : Nat
  exponent : Int
deriving DecidableEq, Repr

/-- The decimal point of a count of units scaled by `5^1074`. -/
def unitScale : Nat := 1074

/-- A quarter of the distance to the next greater number and to the next smaller
one, in units, as a pair of numerators over four. -/
def quarterGaps (units : Nat) : Nat × Nat :=
  let step := Nat.pow 2 (Nat.log2 units - 52)
  let isPowerOfTwo := units == Nat.pow 2 (Nat.log2 units)
  (2 * step, if isPowerOfTwo && 1 < step then step else 2 * step)

/-- Drops the zeros at the end of the digits into the exponent. -/
def DecimalMagnitude.normalized : Nat → DecimalMagnitude → DecimalMagnitude
  | 0, m => m
  | fuel + 1, m =>
    if m.digits ≠ 0 ∧ m.digits % 10 = 0 then
      normalized fuel ⟨m.digits / 10, m.exponent + 1⟩
    else m

/-- Which of two digits is taken when both are equally near. -/
inductive Tie where
  | toEven
  | upward
deriving DecidableEq, Repr

/-- Whether the lower of two neighbours is taken, by their distances. -/
def Tie.takesLower (tie : Tie) (lower toLower toUpper : Nat) : Bool :=
  toLower < toUpper || (toLower == toUpper && tie == .toEven && lower % 2 == 0)

/-- The scaled magnitudes that round to a number, times four: the ends belong to it
when it is closed. -/
structure RoundingInterval where
  lower : Nat
  upper : Nat
  closed : Bool

/-- Whether a scaled magnitude rounds to the number. -/
def RoundingInterval.contains (interval : RoundingInterval) (candidate : Nat) : Bool :=
  if interval.closed then interval.lower ≤ 4 * candidate && 4 * candidate ≤ interval.upper
  else interval.lower < 4 * candidate && 4 * candidate < interval.upper

/-- The interval of the magnitudes that round to a count of units. -/
def RoundingInterval.of (units : Nat) : RoundingInterval :=
  let (above, below) := quarterGaps units
  let step := Nat.pow 2 (Nat.log2 units - 52)
  ⟨(4 * units - below) * Nat.pow 5 unitScale, (4 * units + above) * Nat.pow 5 unitScale,
    units / step % 2 == 0⟩

/-- The multiple of `grid` that is taken for a scaled magnitude: one of its two neighbours,
if the interval contains it. -/
def RoundingInterval.onGrid? (interval : RoundingInterval) (tie : Tie) (scaled grid : Nat) :
    Option Nat :=
  let down := scaled / grid
  let up := down + 1
  match interval.contains (down * grid), interval.contains (up * grid) with
  | true, true =>
    if tie.takesLower down (scaled - down * grid) (up * grid - scaled) then some down
    else some up
  | true, false => some down
  | false, true => some up
  | false, false => none

/-- The shortest digits of a scaled magnitude within an interval; `places` is the scale. -/
def RoundingInterval.shortest (interval : RoundingInterval) (tie : Tie) (scaled places : Nat) :
    DecimalMagnitude :=
  let length := (decimalDigits scaled).length
  let withDigits? (count : Nat) : Option DecimalMagnitude :=
    (interval.onGrid? tie scaled (Nat.pow 10 (length - count))).map
      (⟨·, Int.ofNat (length - count) - Int.ofNat places⟩)
  let found := ((List.range 17).map (· + 1)).findSome? withDigits?
  (found.getD ⟨scaled, -Int.ofNat places⟩).normalized length

/-- The shortest digits of a magnitude that is not zero. -/
def shortest (tie : Tie) (units : Nat) : DecimalMagnitude :=
  (RoundingInterval.of units).shortest tie (units * Nat.pow 5 unitScale) unitScale

/-- How a format writes a binary64 number. -/
structure FloatStyle where
  /-- The decimal exponents of the first digit that are written positionally. -/
  isPositional : Int → Bool
  /-- Whether a whole number is written with `.0`. -/
  pointZero : Bool
  /-- Whether a positive exponent has a plus sign. -/
  plusSign : Bool
  /-- The least count of digits of an exponent. -/
  exponentWidth : Nat
  tie : Tie

/-- Digits with a decimal point, no exponent. -/
def positional (pointZero : Bool) (digits : List Char) (exponent : Int) : List Char :=
  match exponent with
  | .ofNat zeros =>
    digits ++ List.replicate zeros '0' ++ (if pointZero then ['.', '0'] else [])
  | .negSucc n =>
    let places := n + 1
    if places < digits.length then
      digits.take (digits.length - places) ++ '.' :: digits.drop (digits.length - places)
    else '0' :: '.' :: List.replicate (places - digits.length) '0' ++ digits

/-- Digits with the point after the first one and an exponent. -/
def scientific (style : FloatStyle) (digits : List Char) (leading : Int) : List Char :=
  let sign := if leading < 0 then ['-'] else if style.plusSign then ['+'] else []
  let fraction := match digits.drop 1 with
    | [] => []
    | rest => '.' :: rest
  digits.take 1 ++ fraction ++ 'e' :: sign ++ padded style.exponentWidth leading.natAbs

/-- A decimal magnitude in a style. -/
def FloatStyle.writeMagnitude (style : FloatStyle) (magnitude : DecimalMagnitude) : List Char :=
  let digits := decimalDigits magnitude.digits
  let leading := magnitude.exponent + Int.ofNat digits.length - 1
  if style.isPositional leading then positional style.pointZero digits magnitude.exponent
  else scientific style digits leading

/-- The text of a number in a style. -/
def FloatStyle.write (style : FloatStyle) (x : Binary64) : String :=
  let sign := if x.negative then ['-'] else []
  if x.units = 0 then
    String.ofList (sign ++ (if style.pointZero then ['0', '.', '0'] else ['0']))
  else String.ofList (sign ++ style.writeMagnitude (shortest style.tie x.units))

/-- Plain decimal text: never an exponent, no `.0`, and of two equally near digits the
greater one. -/
def FloatStyle.plain : FloatStyle := ⟨fun _ => true, false, false, 1, .upward⟩

/-- JSON text: positional from 10^-5 up to below 10^16. -/
def FloatStyle.json : FloatStyle :=
  ⟨fun leading => -5 ≤ leading && leading < 16, true, false, 1, .toEven⟩

end BillingClient.Number
