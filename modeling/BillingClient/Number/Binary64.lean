/-!
Contract: exact arithmetic on finite binary64 numbers.

A number is a sign and a count of units, one unit being 2^-1074, the least
positive binary64. A count is representable when at most 53 bits of it are
significant, and every operation is the exact rational result rounded once by
`roundUnits`: to the nearest representable count, a tie to the even one. So all
of it is arithmetic of natural numbers. `isFinite` tells results that left the
range.
-/

namespace BillingClient.Number

/-- The quotient rounded to the nearest whole number, a tie to the even one. -/
def roundHalfEven (numerator denominator : Nat) : Nat :=
  let quotient := numerator / denominator
  let doubled := 2 * (numerator % denominator)
  if doubled < denominator then quotient
  else if denominator < doubled then quotient + 1
  else quotient + quotient % 2

/-- The quotient rounded to the nearest whole number, a tie away from zero. -/
def roundHalfUp (numerator denominator : Nat) : Nat :=
  (2 * numerator + denominator) / (2 * denominator)

/-- A binary64 number: `units` times 2^-1074, negated when `negative`. -/
structure Binary64 where
  negative : Bool
  units : Nat
deriving DecidableEq, Repr, Inhabited

namespace Binary64

def unitsInOne : Nat := Nat.pow 2 1074

/-- The least count of units that is out of range: 2^1024. -/
def unitsLimit : Nat := Nat.pow 2 2098

/-- The nearest representable count of units to a quotient, a tie to even. -/
def roundUnits (numerator denominator : Nat) : Nat :=
  let step := Nat.pow 2 (Nat.log2 (numerator / denominator) - 52)
  roundHalfEven numerator (denominator * step) * step

/-- Whether the magnitude is below 2^1024. -/
def isFinite (x : Binary64) : Bool :=
  x.units < unitsLimit

/-- Whether the number is a zero of either sign. -/
def isZero (x : Binary64) : Bool :=
  x.units == 0

/-- The number with its sign changed. -/
def neg (x : Binary64) : Binary64 :=
  ⟨!x.negative, x.units⟩

/-- The nearest number to a natural number. -/
def ofNat (n : Nat) : Binary64 :=
  ⟨false, roundUnits (n * unitsInOne) 1⟩

/-- The nearest number to an integer; zero has no sign. -/
def ofInt (n : Int) : Binary64 :=
  ⟨n < 0, (ofNat n.natAbs).units⟩

/-- The rounded product. -/
def mul (x y : Binary64) : Binary64 :=
  ⟨x.negative != y.negative, roundUnits (x.units * y.units) unitsInOne⟩

/-- The rounded quotient by a number that is not zero. -/
def div (x y : Binary64) : Binary64 :=
  ⟨x.negative != y.negative, roundUnits (x.units * unitsInOne) y.units⟩

/-- The rounded sum of two numbers that are not negative. -/
def addMagnitudes (x y : Binary64) : Binary64 :=
  ⟨false, roundUnits (x.units + y.units) 1⟩

/-- The nearest whole number, a tie away from zero. -/
def round (x : Binary64) : Binary64 :=
  ⟨x.negative, roundHalfUp x.units unitsInOne * unitsInOne⟩

/-- The nearest number to a power of ten. -/
def powerOfTen (exponent : Nat) : Binary64 :=
  ofNat (Nat.pow 10 exponent)

/-- Equality of numbers: the two zeros are equal. -/
def same (x y : Binary64) : Bool :=
  x.units == y.units && (x.negative == y.negative || x.units == 0)

instance : BEq Binary64 := ⟨same⟩

end Binary64

end BillingClient.Number
