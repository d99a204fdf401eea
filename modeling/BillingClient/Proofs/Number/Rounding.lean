import BillingClient.Number.Shortest
import BillingClient.Proofs.Number.Near
import Mathlib.Tactic.LinearCombination

/-!
Contract: what rounding to binary64 does to a quotient.

`roundHalfEven` gives a whole number that is at most a half away, an even one if it is just a half.
For quotients that are not subnormal `roundUnits` rounds a significand of 53 bits in this way:
`exists_roundsTo`. Everything else is said of such a significand: a rounded quotient is one
rounding apart, and the quotient lies in the interval of what is rounded to the result.
-/

namespace BillingClient.Number

/-! ## Rounding to whole numbers -/

section

variable {numerator denominator : Nat}

/-- What is rounded is at most a half away, and less than that if the result is odd. -/
theorem roundHalfEven_nearest (numerator : Nat) (positive : 0 < denominator) :
    2 * (denominator * roundHalfEven numerator denominator) ≤ 2 * numerator + denominator ∧
    2 * numerator ≤ 2 * (denominator * roundHalfEven numerator denominator) + denominator ∧
    (roundHalfEven numerator denominator % 2 = 1 →
      2 * (denominator * roundHalfEven numerator denominator) < 2 * numerator + denominator ∧
      2 * numerator <
        2 * (denominator * roundHalfEven numerator denominator) + denominator) := by
  have division := Nat.div_add_mod numerator denominator
  have remainder := Nat.mod_lt numerator positive
  unfold roundHalfEven
  dsimp only
  split
  · omega
  · split
    · rw [Nat.mul_succ]
      omega
    · rcases Nat.mod_two_eq_zero_or_one (numerator / denominator) with even | odd
      · rw [even, Nat.add_zero]
        omega
      · rw [odd, Nat.mul_succ]
        omega

/-- Rounding depends only on the quotient. -/
theorem roundHalfEven_mul_right {factor : Nat} (positive : 0 < factor) :
    roundHalfEven (numerator * factor) (denominator * factor) =
      roundHalfEven numerator denominator := by
  unfold roundHalfEven
  dsimp only
  rw [Nat.mul_div_mul_right _ _ positive, Nat.mul_mod_mul_right, ← Nat.mul_assoc]
  simp only [Nat.mul_lt_mul_right positive]

theorem roundHalfEven_of_dvd (count : Nat) (positive : 0 < denominator) :
    roundHalfEven (count * denominator) denominator = count := by
  unfold roundHalfEven
  dsimp only
  rw [Nat.mul_mod_left, Nat.mul_div_cancel _ positive, if_pos positive]

end

namespace Binary64

/-! ## Rounding to binary64 -/

/-- Equal quotients are rounded to the same count of units. -/
theorem roundUnits_congr {numerator denominator numerator' denominator' : Nat}
    (positive : 0 < denominator) (positive' : 0 < denominator')
    (same : numerator * denominator' = numerator' * denominator) :
    roundUnits numerator denominator = roundUnits numerator' denominator' := by
  have quotient : numerator / denominator = numerator' / denominator' := by
    rw [← Nat.mul_div_mul_right numerator denominator positive', same,
      Nat.mul_comm denominator denominator', Nat.mul_div_mul_right _ _ positive]
  unfold roundUnits
  dsimp only
  rw [quotient]
  generalize Nat.pow 2 (Nat.log2 (numerator' / denominator') - 52) = step
  congr 1
  calc
    roundHalfEven numerator (denominator * step)
    _ = roundHalfEven (numerator * denominator') (denominator * step * denominator') :=
      (roundHalfEven_mul_right positive').symm
    _ = roundHalfEven (numerator' * denominator) (denominator' * step * denominator) := by
      rw [same]
      congr 1
      ring
    _ = roundHalfEven numerator' (denominator' * step) := roundHalfEven_mul_right positive

@[simp] theorem roundUnits_zero (denominator : Nat) : roundUnits 0 denominator = 0 := by
  simp [roundUnits, roundHalfEven]

/-- Counts with at most 53 significant bits are kept. -/
theorem roundUnits_of_representable {count significand denominator : Nat} (shift : Nat)
    (positive : 0 < denominator) (representable : count = significand * 2 ^ shift)
    (short : significand < 2 ^ 53) : roundUnits (count * denominator) denominator = count := by
  rw [roundUnits_congr positive Nat.one_pos (show _ = count * denominator by ring)]
  by_cases zero : count = 0
  · rw [zero, roundUnits_zero]
  · have below : count < 2 ^ (53 + shift) := by
      rw [representable, pow_add]
      exact Nat.mul_lt_mul_of_pos_right short (Nat.two_pow_pos shift)
    have length : Nat.log2 count - 52 ≤ shift := by
      have bits := (Nat.log2_lt zero).2 below
      omega
    obtain ⟨more, split⟩ := Nat.exists_eq_add_of_le length
    have divided : count = significand * 2 ^ more * 2 ^ (Nat.log2 count - 52) := by
      conv_lhs => rw [representable, split]
      ring
    unfold roundUnits
    dsimp only
    rw [Nat.div_one, Nat.one_mul]
    have kept := roundHalfEven_of_dvd (significand * 2 ^ more)
      (Nat.two_pow_pos (Nat.log2 count - 52))
    rw [← divided] at kept
    rw [show Nat.pow 2 (Nat.log2 count - 52) = 2 ^ (Nat.log2 count - 52) from rfl, kept, ← divided]

/-- A significand of 53 bits, or the least number of more bits, to which a quotient is rounded by at
most a half, by less than a half if the significand is odd. -/
structure RoundsTo (numerator denominator significand shift : Nat) : Prop where
  units : roundUnits numerator denominator = significand * 2 ^ shift
  long : 2 ^ 52 ≤ significand
  short : significand ≤ 2 ^ 53
  numerator_ge : denominator * 2 ^ shift * 2 ^ 52 ≤ numerator
  le : 2 * (denominator * 2 ^ shift * significand) ≤ 2 * numerator + denominator * 2 ^ shift
  ge : 2 * numerator ≤ 2 * (denominator * 2 ^ shift * significand) + denominator * 2 ^ shift
  odd : significand % 2 = 1 →
    2 * (denominator * 2 ^ shift * significand) < 2 * numerator + denominator * 2 ^ shift ∧
      2 * numerator < 2 * (denominator * 2 ^ shift * significand) + denominator * 2 ^ shift

/-- Quotients that are not subnormal are rounded to 53 significant bits. -/
theorem exists_roundsTo {numerator denominator : Nat} (positive : 0 < denominator)
    (normal : 2 ^ 52 * denominator ≤ numerator) :
    ∃ significand shift, RoundsTo numerator denominator significand shift := by
  have quotientLong : 2 ^ 52 ≤ numerator / denominator := (Nat.le_div_iff_mul_le positive).2 normal
  have quotientSome : numerator / denominator ≠ 0 := by
    have some : 0 < 2 ^ 52 := Nat.two_pow_pos 52
    omega
  obtain ⟨shift, length⟩ : ∃ shift, Nat.log2 (numerator / denominator) = 52 + shift :=
    Nat.exists_eq_add_of_le ((Nat.le_log2 quotientSome).2 quotientLong)
  have lower : 2 ^ (52 + shift) ≤ numerator / denominator := by
    rw [← length]
    exact Nat.log2_self_le quotientSome
  have upper : numerator / denominator < 2 ^ (52 + shift + 1) := by
    rw [← length]
    exact Nat.lt_log2_self
  rw [Nat.le_div_iff_mul_le positive] at lower
  rw [Nat.div_lt_iff_lt_mul positive] at upper
  set unit := denominator * 2 ^ shift with isUnit
  have unitPos : 0 < unit := Nat.mul_pos positive (Nat.two_pow_pos shift)
  have least : unit * 2 ^ 52 ≤ numerator := by
    calc
      unit * 2 ^ 52 = 2 ^ (52 + shift) * denominator := by rw [isUnit, pow_add]; ring
      _ ≤ numerator := lower
  have greatest : numerator < unit * 2 ^ 53 := by
    calc
      numerator < 2 ^ (52 + shift + 1) * denominator := upper
      _ = unit * 2 ^ 53 := by rw [isUnit, pow_add, pow_add]; ring
  obtain ⟨below, above, odd⟩ := roundHalfEven_nearest numerator unitPos
  refine ⟨roundHalfEven numerator unit, shift, ?_, ?_, ?_, least, below, above, odd⟩
  · unfold roundUnits
    dsimp only
    rw [length, Nat.add_sub_cancel_left]
    rfl
  · by_contra less
    have room : unit * (roundHalfEven numerator unit + 1) ≤ unit * 2 ^ 52 :=
      Nat.mul_le_mul_left unit (by omega)
    rw [Nat.mul_succ] at room
    omega
  · by_contra more
    have room : unit * (2 ^ 53 + 1) ≤ unit * roundHalfEven numerator unit :=
      Nat.mul_le_mul_left unit (by omega)
    rw [Nat.mul_succ] at room
    omega

/-- A rounded quotient is one rounding apart. -/
theorem near_roundUnits {numerator denominator : Nat} (positive : 0 < denominator)
    (normal : numerator = 0 ∨ 2 ^ 52 * denominator ≤ numerator) :
    Near 1 (roundUnits numerator denominator) (numerator / denominator : ℚ) := by
  rcases normal with rfl | normal
  · simpa using (Near.refl le_rfl).mono (Nat.zero_le 1)
  · obtain ⟨significand, shift, rounds⟩ := exists_roundsTo positive normal
    have denominatorPos : (0 : ℚ) < denominator := by exact_mod_cast positive
    have least : (denominator * 2 ^ shift * 2 ^ 52 : ℚ) ≤ numerator := by
      exact_mod_cast rounds.numerator_ge
    have le : (2 * (denominator * 2 ^ shift * significand) : ℚ) ≤
        2 * numerator + denominator * 2 ^ shift := by exact_mod_cast rounds.le
    have ge : (2 * numerator : ℚ) ≤
        2 * (denominator * 2 ^ shift * significand) + denominator * 2 ^ shift := by
      exact_mod_cast rounds.ge
    have distance : |(denominator * 2 ^ shift * significand - numerator : ℚ)| ≤
        numerator / 2 ^ 53 := abs_le.2 ⟨by linarith, by linarith⟩
    refine Near.of_abs_sub_le (by positivity) ?_
    rw [rounds.units]
    push_cast
    calc
      |(significand * 2 ^ shift - numerator / denominator : ℚ)|
      _ = |(denominator * 2 ^ shift * significand - numerator : ℚ)| / denominator := by
        rw [← abs_of_pos denominatorPos, ← abs_div, abs_of_pos denominatorPos]
        congr 1
        field_simp
      _ ≤ numerator / 2 ^ 53 / denominator := by gcongr
      _ = numerator / denominator / 2 ^ 53 := by ring

/-! ## Magnitudes -/

theorem exists_unitsInOne_eq : ∃ places, unitsInOne = 2 ^ places := by
  unfold unitsInOne
  generalize 1074 = places
  exact ⟨places, rfl⟩

theorem unitsInOne_pos : 0 < unitsInOne := by
  obtain ⟨places, same⟩ := exists_unitsInOne_eq
  rw [same]
  exact Nat.two_pow_pos places

theorem unitsInOne_cast_pos : (0 : ℚ) < unitsInOne := by
  exact_mod_cast unitsInOne_pos

/-- The value of a number without its sign. -/
def magnitude (x : Binary64) : ℚ :=
  x.units / unitsInOne

theorem magnitude_nonneg (x : Binary64) : 0 ≤ x.magnitude := by
  unfold magnitude
  positivity

theorem magnitude_eq_zero_iff (x : Binary64) : x.magnitude = 0 ↔ x.units = 0 := by
  rw [magnitude, div_eq_zero_iff, or_iff_left unitsInOne_cast_pos.ne', Nat.cast_eq_zero]

/-- Whether a magnitude is zero or keeps 53 significant bits. -/
def IsNormal (magnitude : ℚ) : Prop :=
  magnitude = 0 ∨ 2 ^ 52 / unitsInOne ≤ magnitude

/-- Amounts, and what they are computed from, are far above the subnormal numbers. -/
theorem isNormal_of_le {magnitude : ℚ} (least : 1 / 10 ^ 60 ≤ magnitude) :
    IsNormal magnitude := by
  have far : 2 ^ 52 * 10 ^ 60 ≤ unitsInOne := by decide +kernel
  have farCast : (2 ^ 52 * 10 ^ 60 : ℚ) ≤ unitsInOne := by exact_mod_cast far
  refine .inr (le_trans ?_ least)
  rw [div_le_div_iff₀ unitsInOne_cast_pos (by positivity), one_mul]
  exact farCast

/-- Few roundings keep a magnitude far above the subnormal numbers. -/
theorem isNormal_of_near {n : Nat} {x y : ℚ} (near : Near n x y)
    (least : y = 0 ∨ 1 / 10 ^ 59 ≤ y) (few : n ≤ 20) : IsNormal x := by
  rcases least with zero | least
  · exact .inl (near.eq_zero_iff.2 zero)
  · have factor : roundingFactor ^ 20 ≤ 10 := by norm_num [roundingFactor]
    have upper := (near.mono few).ge
    have room : x * roundingFactor ^ 20 ≤ x * 10 := mul_le_mul_of_nonneg_left factor near.nonneg
    have distant : (1 / 10 ^ 60 : ℚ) * 10 = 1 / 10 ^ 59 := by norm_num
    exact isNormal_of_le (by linarith)

theorem isFinite_of_magnitude_le {x : Binary64} (bounded : x.magnitude ≤ 10 ^ 60) :
    x.isFinite = true := by
  have limit : 10 ^ 60 * unitsInOne < unitsLimit := by decide +kernel
  rw [magnitude, div_le_iff₀ unitsInOne_cast_pos] at bounded
  have units : x.units ≤ 10 ^ 60 * unitsInOne := by exact_mod_cast bounded
  exact decide_eq_true (Nat.lt_of_le_of_lt units limit)

/-- A rounded quotient of units, as a magnitude. -/
theorem near_roundUnits_div {numerator denominator : Nat} {magnitude : ℚ}
    (positive : 0 < denominator) (value : (numerator / denominator / unitsInOne : ℚ) = magnitude)
    (normal : IsNormal magnitude) :
    Near 1 (roundUnits numerator denominator / unitsInOne) magnitude := by
  have unitsPos := unitsInOne_cast_pos
  have denominatorPos : (0 : ℚ) < denominator := by exact_mod_cast positive
  rw [← value] at normal ⊢
  refine (near_roundUnits positive ?_).div (.refl unitsPos.le)
  rcases normal with zero | normal
  · left
    rwa [div_eq_zero_iff, or_iff_left unitsPos.ne', div_eq_zero_iff,
      or_iff_left denominatorPos.ne', Nat.cast_eq_zero] at zero
  · right
    rw [div_le_div_iff_of_pos_right unitsPos, le_div_iff₀ denominatorPos] at normal
    exact_mod_cast normal

theorem near_ofNat (n : Nat) : Near 1 (ofNat n).magnitude n := by
  have unitsPos := unitsInOne_cast_pos
  refine near_roundUnits_div Nat.one_pos (by push_cast; field_simp) ?_
  rcases Nat.eq_zero_or_pos n with rfl | positive
  · exact .inl Nat.cast_zero
  · have least : (1 : ℚ) ≤ n := by exact_mod_cast positive
    exact isNormal_of_le (le_trans (by norm_num) least)

theorem near_powerOfTen (exponent : Nat) :
    Near 1 (powerOfTen exponent).magnitude (10 ^ exponent) := by
  have near := near_ofNat (Nat.pow 10 exponent)
  rwa [Nat.pow_eq, Nat.cast_pow, Nat.cast_ofNat] at near

section

variable {x y : Binary64}

theorem near_mul (normal : IsNormal (x.magnitude * y.magnitude)) :
    Near 1 (x.mul y).magnitude (x.magnitude * y.magnitude) := by
  have unitsPos := unitsInOne_cast_pos
  refine near_roundUnits_div unitsInOne_pos ?_ normal
  unfold magnitude
  push_cast
  field_simp

theorem near_div (some : y.units ≠ 0) (normal : IsNormal (x.magnitude / y.magnitude)) :
    Near 1 (x.div y).magnitude (x.magnitude / y.magnitude) := by
  have unitsPos := unitsInOne_cast_pos
  refine near_roundUnits_div (Nat.pos_of_ne_zero some) ?_ normal
  unfold magnitude
  push_cast
  field_simp

theorem near_addMagnitudes (normal : IsNormal (x.magnitude + y.magnitude)) :
    Near 1 (x.addMagnitudes y).magnitude (x.magnitude + y.magnitude) := by
  refine near_roundUnits_div Nat.one_pos ?_ normal
  unfold magnitude
  push_cast
  ring

end

theorem units_ne_zero_of_near {n : Nat} {x : Binary64} {y : ℚ} (near : Near n x.magnitude y)
    (some : y ≠ 0) : x.units ≠ 0 := by
  rwa [ne_eq, ← magnitude_eq_zero_iff, near.eq_zero_iff]

/-! ## Exact results -/

/-- Whole numbers with at most 53 significant bits are kept. -/
theorem units_ofNat {n : Nat} (significand shift : Nat)
    (representable : n = significand * 2 ^ shift) (short : significand < 2 ^ 53) :
    (ofNat n).units = n * unitsInOne := by
  obtain ⟨places, same⟩ := exists_unitsInOne_eq
  have split : n * unitsInOne = significand * 2 ^ (shift + places) := by
    rw [representable, same, pow_add]
    ring
  have kept := roundUnits_of_representable (shift + places) Nat.one_pos split short
  rwa [Nat.mul_one] at kept

theorem near_ofNat_of_units {n : Nat} (kept : (ofNat n).units = n * unitsInOne) :
    Near 0 (ofNat n).magnitude n := by
  rw [magnitude, kept, Nat.cast_mul, mul_div_cancel_right₀ _ unitsInOne_cast_pos.ne']
  exact .refl (Nat.cast_nonneg n)

/-- Whole numbers below `2 ^ 53` are kept. -/
theorem units_ofNat_of_lt {n : Nat} (short : n < 2 ^ 53) : (ofNat n).units = n * unitsInOne :=
  units_ofNat n 0 (Nat.mul_one n).symm short

/-- Powers of ten are kept as far as their powers of five are. -/
theorem units_ofNat_pow {places : Nat} (few : places ≤ 22) :
    (ofNat (10 ^ places)).units = 10 ^ places * unitsInOne := by
  refine units_ofNat (5 ^ places) places (Nat.mul_pow 5 2 places) ?_
  exact Nat.lt_of_le_of_lt (Nat.pow_le_pow_right (by decide) few) (by norm_num)

/-- The quotient of two whole numbers that are kept is rounded once. -/
theorem units_div_of_units {x y : Binary64} {n m : Nat} (top : x.units = n * unitsInOne)
    (bottom : y.units = m * unitsInOne) (positive : 0 < m) :
    (x.div y).units = roundUnits (n * unitsInOne) m := by
  show roundUnits (x.units * unitsInOne) y.units = _
  rw [top, bottom]
  exact roundUnits_congr (Nat.mul_pos positive unitsInOne_pos) positive (by ring)

end Binary64

end BillingClient.Number
