import BillingClient.Number.Decimal
import BillingClient.Proofs.Number.Rounding

/-!
Contract: the binary64 number that is written for an amount.

Whole and fractional part are rounded apart, and so is what leads from them to the number. In all
it is at most fifteen roundings from the amount: `near_magnitudeToBinary64`. An amount of at most
fifteen digits and 22 places is rounded only once: `units_magnitudeToBinary64`.
-/

namespace BillingClient.Number

/-! ## Values of amounts -/

namespace Decimal

/-- The value of an amount without its sign. -/
def magnitude (d : Decimal) : ℚ :=
  d.mantissa / 10 ^ d.scale

/-- The value of an amount. -/
def value (d : Decimal) : ℚ :=
  d.signedMantissa / 10 ^ d.scale

theorem magnitude_nonneg (d : Decimal) : 0 ≤ d.magnitude := by
  unfold magnitude
  positivity

theorem value_eq (d : Decimal) :
    d.value = if d.negative then -d.magnitude else d.magnitude := by
  unfold value magnitude signedMantissa
  split
  · push_cast
    exact neg_div _ _
  · rfl

theorem abs_value (d : Decimal) : |d.value| = d.magnitude := by
  rw [value_eq]
  split
  · rw [abs_neg, abs_of_nonneg d.magnitude_nonneg]
  · rw [abs_of_nonneg d.magnitude_nonneg]

/-- The values of amounts are multiples of the last place. -/
theorem exists_value_eq (d : Decimal) : ∃ count : Int, d.value * 10 ^ 28 = count := by
  obtain ⟨places, split⟩ := Nat.exists_eq_add_of_le d.scale_le
  have last : maxScale = 28 := rfl
  refine ⟨d.signedMantissa * 10 ^ places, ?_⟩
  rw [value, ← last, split, pow_add]
  push_cast
  field_simp

/-- Amounts that are less than a unit of the last place apart are equal. -/
theorem value_eq_of_abs_sub_lt {x y : Decimal} (close : |x.value - y.value| < 1 / 10 ^ 28) :
    x.value = y.value := by
  obtain ⟨left, isLeft⟩ := x.exists_value_eq
  obtain ⟨right, isRight⟩ := y.exists_value_eq
  have unit : (0 : ℚ) < 10 ^ 28 := by positivity
  have scaled : |(left - right : ℚ)| < 1 := by
    rw [← isLeft, ← isRight, ← sub_mul, abs_mul, abs_of_pos unit, ← lt_div_iff₀ unit]
    exact close
  have same : left = right := by
    have integers : |left - right| < 1 := by exact_mod_cast scaled
    have zero := Int.abs_lt_one_iff.1 integers
    omega
  rw [← isRight.trans (congrArg _ same.symm)] at isLeft
  exact mul_right_cancel₀ unit.ne' isLeft

/-- Amounts are equal when their values are. -/
theorem beq_iff_value_eq (x y : Decimal) : (x == y) = true ↔ x.value = y.value := by
  have xPos : (0 : ℚ) < 10 ^ x.scale := by positivity
  have yPos : (0 : ℚ) < 10 ^ y.scale := by positivity
  show (x.signedMantissa * Nat.pow 10 y.scale == y.signedMantissa * Nat.pow 10 x.scale) = true ↔ _
  rw [beq_iff_eq, value, value, div_eq_div_iff xPos.ne' yPos.ne']
  constructor
  · intro same
    exact_mod_cast same
  · intro same
    exact_mod_cast same

end Decimal

/-! ## Rounding to whole numbers -/

theorem abs_roundHalfUp_sub_le {numerator denominator : Nat} (positive : 0 < denominator) :
    |(roundHalfUp numerator denominator : ℚ) - numerator / denominator| ≤ 1 / 2 := by
  have doubledPos : 0 < 2 * denominator := by omega
  have lower := Nat.div_mul_le_self (2 * numerator + denominator) (2 * denominator)
  have upper := Nat.lt_div_mul_add (a := 2 * numerator + denominator) doubledPos
  rw [← roundHalfUp] at lower upper
  have lowerCast : (roundHalfUp numerator denominator * (2 * denominator) : ℚ) ≤
      2 * numerator + denominator := by exact_mod_cast lower
  have upperCast : (2 * numerator + denominator : ℚ) <
      roundHalfUp numerator denominator * (2 * denominator) + 2 * denominator := by
    exact_mod_cast upper
  have denominatorPos : (0 : ℚ) < denominator := by exact_mod_cast positive
  rw [abs_le]
  constructor
  · rw [neg_le_sub_iff_le_add, div_le_iff₀ denominatorPos]
    linarith
  · rw [sub_le_iff_le_add, ← sub_le_iff_le_add', le_div_iff₀ denominatorPos]
    linarith

section

variable {rounded n : Nat} {exact : ℚ} (nearest : |(rounded : ℚ) - exact| ≤ 1 / 2)

include nearest

/-- A nearest whole number is at most twice as far from any other as what it is nearest to. -/
theorem abs_sub_le_of_nearest : |(rounded : ℚ) - n| ≤ 2 * |exact - n| := by
  by_cases same : rounded = n
  · rw [same, sub_self, abs_zero]
    positivity
  · have apartInt : (1 : Int) ≤ |(rounded : Int) - n| := Int.one_le_abs (by omega)
    have apart : (1 : ℚ) ≤ |(rounded : ℚ) - n| := by exact_mod_cast apartInt
    have triangle := abs_sub_le (rounded : ℚ) exact n
    linarith

theorem eq_of_nearest (close : |exact - n| < 1 / 2) : rounded = n := by
  by_contra different
  have apartInt : (1 : Int) ≤ |(rounded : Int) - n| := Int.one_le_abs (by omega)
  have apart : (1 : ℚ) ≤ |(rounded : ℚ) - n| := by exact_mod_cast apartInt
  have double := abs_sub_le_of_nearest (n := n) nearest
  linarith

end

namespace Binary64

theorem units_round (x : Binary64) :
    x.round.units = roundHalfUp x.units unitsInOne * unitsInOne := rfl

theorem magnitude_round (x : Binary64) :
    x.round.magnitude = roundHalfUp x.units unitsInOne := by
  rw [magnitude, units_round, Nat.cast_mul, mul_div_cancel_right₀ _ unitsInOne_cast_pos.ne']

theorem nearest_round (x : Binary64) :
    |(roundHalfUp x.units unitsInOne : ℚ) - x.magnitude| ≤ 1 / 2 :=
  abs_roundHalfUp_sub_le unitsInOne_pos

/-- What is less than a half from a whole number is rounded to it. -/
theorem units_round_of_abs_sub_lt {x : Binary64} {n : Nat} (close : |x.magnitude - n| < 1 / 2) :
    x.round.units = n * unitsInOne := by
  rw [units_round, eq_of_nearest x.nearest_round close]

/-- Rounding to a whole number may double the distance from the one that is meant. -/
theorem near_round {x : Binary64} {n : Nat} (near : Near 6 x.magnitude n) :
    Near 13 x.round.magnitude n := by
  have close := abs_sub_le_of_nearest (n := n) x.nearest_round
  rw [← magnitude_round] at close
  have distance := near.abs_sub_le
  refine .of_abs_sub_le_mul (2 * (roundingFactor ^ 6 - 1)) (Nat.cast_nonneg _)
    (by linarith) ?_ ?_
  · norm_num [roundingFactor]
  · norm_num [roundingFactor]

/-- What becomes of a sum of two magnitudes that is multiplied by a third. -/
theorem near_addMagnitudes_mul {whole part places : Binary64} {n k : Nat} {w p q : ℚ}
    (wholeNear : Near n whole.magnitude w) (partNear : Near n part.magnitude p)
    (placesNear : Near k places.magnitude q) (least : 1 / 10 ^ 59 ≤ w + p)
    (productLeast : 1 / 10 ^ 59 ≤ (w + p) * q) (few : n + k + 1 ≤ 20) :
    Near (n + k + 2) ((whole.addMagnitudes part).mul places).magnitude ((w + p) * q) := by
  have sum := wholeNear.add partNear
  have rounded := (near_addMagnitudes (isNormal_of_near sum (.inr least) (by omega))).trans sum
  have product := rounded.mul placesNear
  have normal := isNormal_of_near product (.inr productLeast) (by omega)
  exact ((near_mul normal).trans product).mono (by omega)

end Binary64

/-! ## Amounts as binary64 -/

namespace Decimal

open Binary64

/-- The fractional part of an amount as it is rounded. -/
def fractionBinary64 (d : Decimal) : Binary64 :=
  (ofNat (d.mantissa % 10 ^ d.scale)).div (ofNat (10 ^ d.scale))

/-- An amount with its places before the point, before it is rounded to a whole number. -/
def shiftedBinary64 (d : Decimal) : Binary64 :=
  ((ofNat (d.mantissa / 10 ^ d.scale)).addMagnitudes d.fractionBinary64).mul
    (ofNat (10 ^ d.scale))

section

variable (d : Decimal)

theorem pow_scale_le : 10 ^ d.scale ≤ 10 ^ 28 :=
  Nat.pow_le_pow_right (by decide) d.scale_le

theorem near_ofNat_pow_scale : Near 1 (ofNat (10 ^ d.scale)).magnitude (10 ^ d.scale) := by
  exact_mod_cast near_ofNat (10 ^ d.scale)

/-- Whole and fractional part make up an amount. -/
theorem magnitude_eq_add :
    d.magnitude = (d.mantissa / 10 ^ d.scale : Nat) +
      ((d.mantissa % 10 ^ d.scale : Nat) : ℚ) / 10 ^ d.scale := by
  have division : (10 ^ d.scale * (d.mantissa / 10 ^ d.scale) + d.mantissa % 10 ^ d.scale : Nat) =
      (d.mantissa : ℚ) := by rw [Nat.div_add_mod]
  have placesPos : (0 : ℚ) < 10 ^ d.scale := by positivity
  rw [magnitude, ← division]
  push_cast
  field_simp

/-- The least amount that is not zero. -/
theorem least_le_magnitude (some : d.mantissa ≠ 0) : 1 / 10 ^ 28 ≤ d.magnitude := by
  have places : (10 ^ d.scale : ℚ) ≤ 10 ^ 28 := by exact_mod_cast d.pow_scale_le
  have unit : (1 : ℚ) ≤ d.mantissa := by exact_mod_cast Nat.one_le_iff_ne_zero.2 some
  unfold magnitude
  gcongr

/-- The fractional part, by how near the numbers are that it is a quotient of. -/
theorem near_fractionBinary64 {n k : Nat}
    (topNear : Near n (ofNat (d.mantissa % 10 ^ d.scale)).magnitude
      (d.mantissa % 10 ^ d.scale : Nat))
    (bottomNear : Near k (ofNat (10 ^ d.scale)).magnitude (10 ^ d.scale)) (few : n + k ≤ 20) :
    Near (n + k + 1) d.fractionBinary64.magnitude
      ((d.mantissa % 10 ^ d.scale : Nat) / 10 ^ d.scale) := by
  have placesPos : (0 : ℚ) < 10 ^ d.scale := by positivity
  have quotient := topNear.div bottomNear
  have normal := isNormal_of_near quotient (by
    by_cases zero : d.mantissa % 10 ^ d.scale = 0
    · left
      rw [zero, Nat.cast_zero, zero_div]
    · right
      have places : (10 ^ d.scale : ℚ) ≤ 10 ^ 59 := by
        exact_mod_cast Nat.le_trans d.pow_scale_le (by norm_num)
      have unit : (1 : ℚ) ≤ (d.mantissa % 10 ^ d.scale : Nat) := by
        exact_mod_cast Nat.one_le_iff_ne_zero.2 zero
      gcongr) few
  exact ((near_div (units_ne_zero_of_near bottomNear placesPos.ne') normal).trans quotient).mono
    (by omega)

/-- A fractional part is zero where it is rounded to zero. -/
theorem isZero_fractionBinary64_iff :
    d.fractionBinary64.isZero = true ↔ d.mantissa % 10 ^ d.scale = 0 := by
  have placesPos : (10 ^ d.scale : ℚ) ≠ 0 := by positivity
  have near := d.near_fractionBinary64 (near_ofNat _) d.near_ofNat_pow_scale (by decide)
  rw [isZero, beq_iff_eq, ← magnitude_eq_zero_iff, near.eq_zero_iff, div_eq_zero_iff,
    or_iff_left placesPos, Nat.cast_eq_zero]

theorem magnitudeToBinary64_of_scale_eq_zero (whole : d.scale = 0) :
    d.magnitudeToBinary64 = ofNat d.mantissa := by
  rw [magnitudeToBinary64, if_pos whole]

/-- How the number for an amount is found: as that of its mantissa or of its whole part, if it has
no fractional one, or else from both parts. -/
theorem magnitudeToBinary64_cases :
    (d.scale = 0 ∧ d.magnitudeToBinary64 = ofNat d.mantissa) ∨
    (d.mantissa % 10 ^ d.scale = 0 ∧
      d.magnitudeToBinary64 = ofNat (d.mantissa / 10 ^ d.scale)) ∨
    (d.mantissa ≠ 0 ∧
      d.magnitudeToBinary64 = d.shiftedBinary64.round.div (ofNat (10 ^ d.scale))) := by
  by_cases whole : d.scale = 0
  · exact .inl ⟨whole, d.magnitudeToBinary64_of_scale_eq_zero whole⟩
  right
  by_cases zero : d.fractionBinary64.isZero = true
  · refine .inl ⟨d.isZero_fractionBinary64_iff.1 zero, ?_⟩
    unfold magnitudeToBinary64
    rw [if_neg whole]
    exact if_pos zero
  · refine .inr ⟨fun none => zero ?_, ?_⟩
    · rw [isZero_fractionBinary64_iff, none, Nat.zero_mod]
    · unfold magnitudeToBinary64
      rw [if_neg whole]
      exact if_neg zero

/-- What an amount is before it is rounded to a whole number. -/
theorem near_shiftedBinary64 {n k : Nat}
    (wholeNear : Near (n + k + 1) (ofNat (d.mantissa / 10 ^ d.scale)).magnitude
      (d.mantissa / 10 ^ d.scale : Nat))
    (topNear : Near n (ofNat (d.mantissa % 10 ^ d.scale)).magnitude
      (d.mantissa % 10 ^ d.scale : Nat))
    (bottomNear : Near k (ofNat (10 ^ d.scale)).magnitude (10 ^ d.scale))
    (few : n + 2 * k ≤ 18) (some : d.mantissa ≠ 0) :
    Near (n + 2 * k + 3) d.shiftedBinary64.magnitude d.mantissa := by
  have placesPos : (10 ^ d.scale : ℚ) ≠ 0 := by positivity
  have fractionNear := d.near_fractionBinary64 topNear bottomNear (by omega)
  have unit : (1 : ℚ) ≤ d.mantissa := by exact_mod_cast Nat.one_le_iff_ne_zero.2 some
  have least := d.least_le_magnitude some
  have product : d.magnitude * 10 ^ d.scale = d.mantissa := div_mul_cancel₀ _ placesPos
  have near := near_addMagnitudes_mul wholeNear fractionNear bottomNear
    (by rw [← magnitude_eq_add]; exact le_trans (by norm_num) least)
    (by rw [← magnitude_eq_add, product]; exact le_trans (by norm_num) unit) (by omega)
  rw [← magnitude_eq_add, product] at near
  exact near.mono (by omega)

/-- The number that is written for an amount is at most fifteen roundings from it. -/
theorem near_magnitudeToBinary64 : Near 15 d.magnitudeToBinary64.magnitude d.magnitude := by
  have wholeNear := near_ofNat (d.mantissa / 10 ^ d.scale)
  have topNear := near_ofNat (d.mantissa % 10 ^ d.scale)
  have bottomNear := d.near_ofNat_pow_scale
  have placesPos : (0 : ℚ) < 10 ^ d.scale := by positivity
  rcases d.magnitudeToBinary64_cases with ⟨whole, found⟩ | ⟨zero, found⟩ | ⟨some, found⟩
  · rw [found, magnitude, whole, pow_zero, div_one]
    exact (near_ofNat d.mantissa).mono (by decide)
  · rw [found, magnitude_eq_add, zero, Nat.cast_zero, zero_div, add_zero]
    exact wholeNear.mono (by decide)
  · have rounded := near_round
      (d.near_shiftedBinary64 (wholeNear.mono (by decide)) topNear bottomNear (by decide) some)
    have quotient := rounded.div bottomNear
    have normal := isNormal_of_near quotient
      (.inr (le_trans (by norm_num) (d.least_le_magnitude some))) (by decide)
    rw [found]
    exact (near_div (units_ne_zero_of_near bottomNear placesPos.ne') normal).trans quotient

theorem negative_magnitudeToBinary64 : d.magnitudeToBinary64.negative = false := by
  rcases d.magnitudeToBinary64_cases with ⟨_, found⟩ | ⟨_, found⟩ | ⟨_, found⟩
  · rw [found]
    rfl
  · rw [found]
    rfl
  · rw [found]
    simp only [shiftedBinary64, Binary64.div, Binary64.round, Binary64.mul, addMagnitudes, ofNat,
      bne_self_eq_false]

theorem units_toBinary64 : d.toBinary64.units = d.magnitudeToBinary64.units := by
  unfold toBinary64
  split <;> rfl

/-- An amount that is not zero is written with its sign. -/
theorem toBinary64_eq (some : d.mantissa ≠ 0) :
    d.toBinary64 = ⟨d.negative, d.magnitudeToBinary64.units⟩ := by
  have positive := d.negative_magnitudeToBinary64
  unfold toBinary64
  generalize d.magnitudeToBinary64 = magnitude at positive ⊢
  obtain ⟨negative, units⟩ := magnitude
  obtain rfl : negative = false := positive
  cases d.negative with
  | false => rfl
  | true => simp [some, neg]

/-! ## Short amounts -/

/-- An amount of at most fifteen digits and 22 places is rounded once. -/
theorem units_magnitudeToBinary64 (short : d.mantissa < 10 ^ 15) (few : d.scale ≤ 22) :
    d.magnitudeToBinary64.units = roundUnits (d.mantissa * unitsInOne) (10 ^ d.scale) := by
  have placesPos : 0 < 10 ^ d.scale := Nat.pow_pos (by decide)
  rcases d.magnitudeToBinary64_cases with ⟨whole, found⟩ | ⟨zero, found⟩ | ⟨some, found⟩
  · rw [found, whole, pow_zero]
    rfl
  · have division := Nat.div_add_mod d.mantissa (10 ^ d.scale)
    rw [zero, Nat.add_zero] at division
    rw [found]
    show roundUnits _ 1 = _
    refine roundUnits_congr Nat.one_pos placesPos ?_
    conv_rhs => rw [← division]
    ring
  · -- The parts are kept, so that only their quotient, sum and product are rounded.
    have fits : 10 ^ 15 < 2 ^ 53 := by norm_num
    have wholeUnits := units_ofNat_of_lt
      (Nat.lt_of_le_of_lt (Nat.div_le_self d.mantissa (10 ^ d.scale)) (short.trans fits))
    have topUnits := units_ofNat_of_lt
      (Nat.lt_of_le_of_lt (Nat.mod_le d.mantissa (10 ^ d.scale)) (short.trans fits))
    have bottomUnits := units_ofNat_pow few
    have bottomNear : Near 0 (ofNat (10 ^ d.scale)).magnitude (10 ^ d.scale) := by
      exact_mod_cast near_ofNat_of_units bottomUnits
    have shifted := d.near_shiftedBinary64 ((near_ofNat_of_units wholeUnits).mono (by decide))
      (near_ofNat_of_units topUnits) bottomNear (by decide) some
    rw [found]
    refine units_div_of_units (units_round_of_abs_sub_lt ?_) bottomUnits placesPos
    have mantissa : (d.mantissa : ℚ) ≤ 10 ^ 15 := by exact_mod_cast short.le
    have factor : roundingFactor ^ 3 - 1 < 1 / 2 / 10 ^ 15 := by norm_num [roundingFactor]
    have least := one_le_roundingFactor_pow 3
    calc
      _ ≤ (d.mantissa : ℚ) * (roundingFactor ^ 3 - 1) := shifted.abs_sub_le
      _ ≤ 10 ^ 15 * (roundingFactor ^ 3 - 1) :=
        mul_le_mul_of_nonneg_right mantissa (by linarith)
      _ < 1 / 2 := by linarith

end

end Decimal

end BillingClient.Number
