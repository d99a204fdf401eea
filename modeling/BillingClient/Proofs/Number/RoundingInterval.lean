import BillingClient.Proofs.Number.Rounding

/-!
Contract: the magnitudes that round to a binary64 number.

`Surrounds` gives the ends of the interval of a number with 53 significant bits by the distance to
the next greater number. What lies in the interval is one rounding apart, what is very near lies in
it, and so does every quotient that is rounded to the number: `contains_of_roundUnits`.
-/

namespace BillingClient.Number

namespace RoundingInterval

/-- Where an interval ends, by the distance `step` from a scaled magnitude to the next greater one.
Below a power of two the numbers may stand closer. -/
structure Surrounds (interval : RoundingInterval) (scaled step : Nat) : Prop where
  upper : interval.upper = 4 * scaled + 2 * step
  lower_le : interval.lower + step ≤ 4 * scaled
  le_lower : 4 * scaled ≤ interval.lower + 2 * step
  lower_of_ne : scaled ≠ step * 2 ^ 52 → interval.lower + 2 * step = 4 * scaled
  long : step * 2 ^ 52 ≤ scaled
  short : scaled < step * 2 ^ 53

/-- The factor between units and scaled magnitudes. -/
def unitFactor : Nat := Nat.pow 5 unitScale

theorem unitFactor_eq : unitFactor = Nat.pow 5 unitScale := by
  unfold unitFactor
  rfl

theorem unitFactor_pos : 0 < unitFactor := by
  unfold unitFactor
  generalize unitScale = places
  exact Nat.pow_pos (by decide)

theorem surrounds_of {units : Nat} (large : 2 ^ 52 ≤ units) :
    (of units).Surrounds (units * unitFactor) (2 ^ (Nat.log2 units - 52) * unitFactor) := by
  have some : units ≠ 0 := by
    have positive : 0 < 2 ^ 52 := Nat.two_pow_pos 52
    omega
  obtain ⟨shift, length⟩ : ∃ shift, Nat.log2 units = 52 + shift :=
    Nat.exists_eq_add_of_le ((Nat.le_log2 some).2 large)
  have lower : 2 ^ shift * 2 ^ 52 ≤ units := by
    rw [← pow_add, Nat.add_comm, ← length]
    exact Nat.log2_self_le some
  have upper : units < 2 ^ shift * 2 ^ 53 := by
    rw [← pow_add, Nat.add_comm, show 53 + shift = 52 + shift + 1 by omega, ← length]
    exact Nat.lt_log2_self
  have power : Nat.pow 2 (52 + shift) = 2 ^ shift * 2 ^ 52 := by
    rw [Nat.pow_eq, pow_add, Nat.mul_comm]
  have stepPos := Nat.two_pow_pos shift
  have factorPos := unitFactor_pos
  unfold of quarterGaps
  rw [← unitFactor_eq, length, Nat.add_sub_cancel_left, power]
  dsimp only
  rw [Nat.pow_eq]
  generalize 2 ^ shift = step at *
  have scaledLower := Nat.mul_le_mul_right unitFactor lower
  have scaledUpper := Nat.mul_lt_mul_of_pos_right upper factorPos
  rw [Nat.mul_right_comm] at scaledLower scaledUpper
  have product : 4 * units * unitFactor = 4 * (units * unitFactor) := Nat.mul_assoc ..
  have double : 2 * step * unitFactor = 2 * (step * unitFactor) := Nat.mul_assoc ..
  split
  · rename_i powerOfTwo
    simp only [Bool.and_eq_true, beq_iff_eq, decide_eq_true_eq] at powerOfTwo
    rw [Nat.sub_mul, Nat.add_mul, product, double]
    refine ⟨rfl, by dsimp only; omega, by dsimp only; omega, fun different => ?_, scaledLower,
      scaledUpper⟩
    refine absurd ?_ different
    rw [powerOfTwo.1, Nat.mul_right_comm]
  · rw [Nat.sub_mul, Nat.add_mul, product, double]
    exact ⟨rfl, by dsimp only; omega, by dsimp only; omega, fun _ => by dsimp only; omega,
      scaledLower, scaledUpper⟩

variable {interval : RoundingInterval} {candidate : Nat}

theorem contains_of_lt (lower : interval.lower < 4 * candidate)
    (upper : 4 * candidate < interval.upper) : interval.contains candidate = true := by
  unfold contains
  split <;> simp <;> omega

theorem le_of_contains (inside : interval.contains candidate = true) :
    interval.lower ≤ 4 * candidate ∧ 4 * candidate ≤ interval.upper := by
  unfold contains at inside
  split at inside <;> simp at inside <;> omega

/-- An interval contains what lies between two of its magnitudes. -/
theorem contains_of_between {least greatest : Nat} (insideLeast : interval.contains least = true)
    (insideGreatest : interval.contains greatest = true) (lower : least ≤ candidate)
    (upper : candidate ≤ greatest) : interval.contains candidate = true := by
  unfold contains at *
  split at insideLeast
  · rename_i closed
    rw [if_pos closed] at insideGreatest ⊢
    simp at *
    omega
  · rename_i closed
    rw [if_neg closed] at insideGreatest ⊢
    simp at *
    omega

namespace Surrounds

variable {scaled step : Nat} (surrounds : interval.Surrounds scaled step)

include surrounds

theorem contains_of_close (distance : Nat) (close : 2 ^ 54 * distance < scaled)
    (lower : scaled ≤ candidate + distance) (upper : candidate ≤ scaled + distance) :
    interval.contains candidate = true := by
  have bounds := surrounds.upper
  have below := surrounds.lower_le
  have short := surrounds.short
  apply contains_of_lt
  · by_cases powerOfTwo : scaled = step * 2 ^ 52
    · omega
    · have lowerIs := surrounds.lower_of_ne powerOfTwo
      omega
  · omega

theorem contains_self : interval.contains scaled = true := by
  have positive : 0 < scaled := by
    have long := surrounds.long
    have short := surrounds.short
    omega
  exact surrounds.contains_of_close 0 (by omega) (by omega) (by omega)

/-- What rounds to a number is one rounding apart. -/
theorem near_of_contains (inside : interval.contains candidate = true) :
    Near 1 candidate scaled := by
  obtain ⟨lower, upper⟩ := le_of_contains inside
  have upperIs := surrounds.upper
  have lowerIs := surrounds.le_lower
  have below : 2 * scaled ≤ 2 * candidate + step := by omega
  have above : 2 * candidate ≤ 2 * scaled + step := by omega
  have belowCast : (2 * scaled : ℚ) ≤ 2 * candidate + step := by exact_mod_cast below
  have aboveCast : (2 * candidate : ℚ) ≤ 2 * scaled + step := by exact_mod_cast above
  have long : (step * 2 ^ 52 : ℚ) ≤ scaled := by exact_mod_cast surrounds.long
  exact .of_abs_sub_le (by positivity) (abs_le.2 ⟨by linarith, by linarith⟩)

end Surrounds

/-! ## Rounded quotients -/

theorem log2_mul_two_pow {significand shift : Nat} (long : 2 ^ 52 ≤ significand)
    (short : significand < 2 ^ 53) : Nat.log2 (significand * 2 ^ shift) = 52 + shift := by
  have shiftPos := Nat.two_pow_pos shift
  have some : significand * 2 ^ shift ≠ 0 :=
    Nat.mul_ne_zero (by have := Nat.two_pow_pos 52; omega) shiftPos.ne'
  rw [Nat.log2_eq_iff some]
  constructor
  · rw [pow_add]
    exact Nat.mul_le_mul_right _ long
  · rw [show 52 + shift + 1 = 53 + shift by omega, pow_add]
    exact Nat.mul_lt_mul_of_pos_right short shiftPos

theorem closed_of {significand : Nat} (shift : Nat) (long : 2 ^ 52 ≤ significand)
    (short : significand < 2 ^ 53) :
    (of (significand * 2 ^ shift)).closed = (significand % 2 == 0) := by
  unfold of
  dsimp only
  rw [log2_mul_two_pow long short, Nat.add_sub_cancel_left, Nat.pow_eq,
    Nat.mul_div_cancel _ (Nat.two_pow_pos shift)]

/-- A magnitude lies in an interval if it is at most half a step away, and where the numbers stand
closer below, half of that. The ends count if the interval is closed. -/
theorem Surrounds.contains_of_halfStep {scaled step : Nat}
    (surrounds : interval.Surrounds scaled step)
    (lower : 2 * scaled ≤ 2 * candidate + step) (upper : 2 * candidate ≤ 2 * scaled + step)
    (powerOfTwo : scaled = step * 2 ^ 52 →
      interval.closed = true ∧ 4 * scaled ≤ 4 * candidate + step)
    (ends : interval.closed = true ∨
      2 * scaled < 2 * candidate + step ∧ 2 * candidate < 2 * scaled + step) :
    interval.contains candidate = true := by
  have upperIs := surrounds.upper
  have below := surrounds.lower_le
  have lowerIs := surrounds.lower_of_ne
  by_cases isPower : scaled = step * 2 ^ 52
  · obtain ⟨closed, least⟩ := powerOfTwo isPower
    rw [contains, if_pos closed]
    simp
    omega
  · have lowerIs := lowerIs isPower
    by_cases closed : interval.closed = true
    · rw [contains, if_pos closed]
      simp
      omega
    · have strict := ends.resolve_left closed
      exact contains_of_lt (by omega) (by omega)

/-- What is at most half a step from a significand of 53 bits lies in the interval of the number. -/
theorem contains_of_significand {significand shift : Nat} (long : 2 ^ 52 ≤ significand)
    (short : significand < 2 ^ 53) (least : 2 ^ shift * unitFactor * 2 ^ 52 ≤ candidate)
    (lower : 2 * (significand * 2 ^ shift * unitFactor) ≤ 2 * candidate + 2 ^ shift * unitFactor)
    (upper : 2 * candidate ≤ 2 * (significand * 2 ^ shift * unitFactor) + 2 ^ shift * unitFactor)
    (odd : significand % 2 = 1 →
      2 * (significand * 2 ^ shift * unitFactor) < 2 * candidate + 2 ^ shift * unitFactor ∧
      2 * candidate < 2 * (significand * 2 ^ shift * unitFactor) + 2 ^ shift * unitFactor) :
    (of (significand * 2 ^ shift)).contains candidate = true := by
  have large : 2 ^ 52 ≤ significand * 2 ^ shift :=
    Nat.le_trans long (Nat.le_mul_of_pos_right _ (Nat.two_pow_pos shift))
  have surrounds := surrounds_of large
  rw [log2_mul_two_pow long short, Nat.add_sub_cancel_left] at surrounds
  have closed := closed_of shift long short
  apply surrounds.contains_of_halfStep lower upper
  · intro powerOfTwo
    have isLeast : significand = 2 ^ 52 := by
      have stepPos : 0 < 2 ^ shift * unitFactor :=
        Nat.mul_pos (Nat.two_pow_pos shift) unitFactor_pos
      rw [Nat.mul_assoc, Nat.mul_comm] at powerOfTwo
      exact Nat.eq_of_mul_eq_mul_left stepPos powerOfTwo
    refine ⟨by rw [closed, isLeast]; rfl, ?_⟩
    omega
  · rw [closed]
    rcases Nat.mod_two_eq_zero_or_one significand with even | isOdd
    · left
      rw [even]
      rfl
    · right
      exact odd isOdd

/-- A significand that was rounded up to a power of two has one more bit. -/
theorem contains_of_carry {shift : Nat}
    (lower : 2 * (2 ^ 53 * 2 ^ shift * unitFactor) ≤ 2 * candidate + 2 ^ shift * unitFactor)
    (upper : 2 * candidate ≤ 2 * (2 ^ 53 * 2 ^ shift * unitFactor) + 2 ^ shift * unitFactor) :
    (of (2 ^ 53 * 2 ^ shift)).contains candidate = true := by
  have units : 2 ^ 53 * 2 ^ shift = 2 ^ 52 * 2 ^ (shift + 1) := by ring
  have large : 2 ^ 52 ≤ 2 ^ 52 * 2 ^ (shift + 1) := Nat.le_mul_of_pos_right _ (Nat.two_pow_pos _)
  have surrounds := surrounds_of large
  rw [log2_mul_two_pow (Nat.le_refl _) (by decide), Nat.add_sub_cancel_left] at surrounds
  have closed : (of (2 ^ 52 * 2 ^ (shift + 1))).closed = true :=
    closed_of _ (Nat.le_refl _) (by decide)
  have twice : 2 ^ (shift + 1) * unitFactor = 2 * (2 ^ shift * unitFactor) := by ring
  rw [units] at lower upper ⊢
  apply surrounds.contains_of_halfStep
  · omega
  · omega
  · exact fun _ => ⟨closed, by omega⟩
  · exact .inl closed

/-- A quotient lies in the interval of the number that it is rounded to. -/
theorem contains_of_roundUnits {numerator denominator : Nat} (positive : 0 < denominator)
    (normal : 2 ^ 52 * denominator ≤ numerator)
    (scaled : candidate * denominator = numerator * unitFactor) :
    (of (Binary64.roundUnits numerator denominator)).contains candidate = true := by
  obtain ⟨significand, shift, rounds⟩ := Binary64.exists_roundsTo positive normal
  -- The bounds of the significand are compared with the candidate on the scale of both.
  have bound {left right : Nat} (holds : left ≤ right) : left * unitFactor ≤ right * unitFactor :=
    Nat.mul_le_mul_right _ holds
  have strictBound {left right : Nat} (holds : left < right) :
      left * unitFactor < right * unitFactor :=
    Nat.mul_lt_mul_of_pos_right holds unitFactor_pos
  have cancel {left right : Nat} (holds : left * denominator ≤ right * denominator) :
      left ≤ right :=
    Nat.le_of_mul_le_mul_right holds positive
  have strictCancel {left right : Nat} (holds : left * denominator < right * denominator) :
      left < right :=
    Nat.lt_of_mul_lt_mul_right holds
  have least : 2 ^ shift * unitFactor * 2 ^ 52 ≤ candidate := by
    apply cancel
    linear_combination bound rounds.numerator_ge + scaled.symm
  have lower : 2 * (significand * 2 ^ shift * unitFactor) ≤
      2 * candidate + 2 ^ shift * unitFactor := by
    apply cancel
    linear_combination bound rounds.le + 2 * scaled.symm
  have upper : 2 * candidate ≤
      2 * (significand * 2 ^ shift * unitFactor) + 2 ^ shift * unitFactor := by
    apply cancel
    linear_combination bound rounds.ge + 2 * scaled
  rw [rounds.units]
  rcases rounds.short.lt_or_eq with short | rfl
  · refine contains_of_significand rounds.long short least lower upper fun odd => ?_
    obtain ⟨strictLower, strictUpper⟩ := rounds.odd odd
    constructor
    · apply strictCancel
      linear_combination strictBound strictLower + 2 * scaled.symm
    · apply strictCancel
      linear_combination strictBound strictUpper + 2 * scaled
  · exact contains_of_carry lower upper

end RoundingInterval

end BillingClient.Number
