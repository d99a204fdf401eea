import Mathlib.Algebra.Order.Field.Basic
import Mathlib.Algebra.Order.Field.Rat
import Mathlib.Tactic.FieldSimp
import Mathlib.Tactic.GCongr
import Mathlib.Tactic.Linarith
import Mathlib.Tactic.NormNum
import Mathlib.Tactic.Positivity
import Mathlib.Tactic.Ring

/-!
Contract: magnitudes that are some roundings apart.

One rounding to 53 significant bits changes a magnitude at most by `roundingFactor`, in either
direction. `Near` counts roundings, so an error is bounded by counting the operations that lead to
it: the counts of factors add up, sums keep the greater one.
-/

namespace BillingClient.Number

/-- The greatest factor between a magnitude and what it is rounded to. -/
def roundingFactor : ℚ := 2 ^ 53 / (2 ^ 53 - 1)

theorem one_le_roundingFactor : 1 ≤ roundingFactor := by
  norm_num [roundingFactor]

theorem one_le_roundingFactor_pow (roundings : Nat) : 1 ≤ roundingFactor ^ roundings :=
  one_le_pow₀ one_le_roundingFactor

theorem roundingFactor_pow_pos (roundings : Nat) : 0 < roundingFactor ^ roundings :=
  lt_of_lt_of_le one_pos (one_le_roundingFactor_pow roundings)

/-- Whether two magnitudes are not further apart than by some roundings. -/
structure Near (roundings : Nat) (x y : ℚ) : Prop where
  nonneg : 0 ≤ x
  le : x ≤ y * roundingFactor ^ roundings
  ge : y ≤ x * roundingFactor ^ roundings

namespace Near

variable {m n : Nat} {x y z x' y' : ℚ}

theorem refl (nonneg : 0 ≤ x) : Near 0 x x :=
  ⟨nonneg, by simp, by simp⟩

theorem nonneg_right (near : Near n x y) : 0 ≤ y :=
  nonneg_of_mul_nonneg_left (near.nonneg.trans near.le) (roundingFactor_pow_pos n)

theorem mono (near : Near n x y) (fewer : n ≤ m) : Near m x y := by
  have factor : roundingFactor ^ n ≤ roundingFactor ^ m :=
    pow_le_pow_right₀ one_le_roundingFactor fewer
  exact ⟨near.nonneg, near.le.trans (mul_le_mul_of_nonneg_left factor near.nonneg_right),
    near.ge.trans (mul_le_mul_of_nonneg_left factor near.nonneg)⟩

theorem trans (first : Near n x y) (second : Near m y z) : Near (n + m) x z where
  nonneg := first.nonneg
  le := by
    calc
      x ≤ y * roundingFactor ^ n := first.le
      _ ≤ z * roundingFactor ^ m * roundingFactor ^ n :=
        mul_le_mul_of_nonneg_right second.le (roundingFactor_pow_pos n).le
      _ = z * roundingFactor ^ (n + m) := by ring
  ge := by
    calc
      z ≤ y * roundingFactor ^ m := second.ge
      _ ≤ x * roundingFactor ^ n * roundingFactor ^ m :=
        mul_le_mul_of_nonneg_right first.ge (roundingFactor_pow_pos m).le
      _ = x * roundingFactor ^ (n + m) := by ring

theorem mul (left : Near n x y) (right : Near m x' y') : Near (n + m) (x * x') (y * y') where
  nonneg := mul_nonneg left.nonneg right.nonneg
  le := by
    calc
      x * x' ≤ y * roundingFactor ^ n * (y' * roundingFactor ^ m) :=
        mul_le_mul left.le right.le right.nonneg (left.nonneg.trans left.le)
      _ = y * y' * roundingFactor ^ (n + m) := by ring
  ge := by
    calc
      y * y' ≤ x * roundingFactor ^ n * (x' * roundingFactor ^ m) :=
        mul_le_mul left.ge right.ge right.nonneg_right (left.nonneg_right.trans left.ge)
      _ = x * x' * roundingFactor ^ (n + m) := by ring

theorem eq_zero_iff (near : Near n x y) : x = 0 ↔ y = 0 := by
  constructor
  · rintro rfl
    exact le_antisymm (by simpa using near.ge) near.nonneg_right
  · rintro rfl
    exact le_antisymm (by simpa using near.le) near.nonneg

theorem inv (near : Near n x y) : Near n x⁻¹ y⁻¹ := by
  rcases near.nonneg.eq_or_lt with rfl | pos
  · have zero : y = 0 := near.eq_zero_iff.1 rfl
    simpa [zero] using (Near.refl le_rfl).mono (Nat.zero_le n)
  · have posRight : 0 < y :=
      pos_of_mul_pos_left (pos.trans_le near.le) (roundingFactor_pow_pos n).le
    refine ⟨inv_nonneg.2 near.nonneg, ?_, ?_⟩
    · rw [inv_mul_eq_div, inv_eq_one_div, div_le_div_iff₀ pos posRight, one_mul, mul_comm]
      exact near.ge
    · rw [inv_mul_eq_div, inv_eq_one_div, div_le_div_iff₀ posRight pos, one_mul, mul_comm]
      exact near.le

theorem div (left : Near n x y) (right : Near m x' y') : Near (n + m) (x / x') (y / y') := by
  rw [div_eq_mul_inv, div_eq_mul_inv]
  exact left.mul right.inv

theorem add (left : Near n x y) (right : Near n x' y') : Near n (x + x') (y + y') where
  nonneg := add_nonneg left.nonneg right.nonneg
  le := by rw [add_mul]; exact add_le_add left.le right.le
  ge := by rw [add_mul]; exact add_le_add left.ge right.ge

/-- A small enough relative distance is some roundings. -/
theorem of_abs_sub_le_mul (part : ℚ) (nonneg : 0 ≤ y) (distance : |x - y| ≤ y * part)
    (some : 0 ≤ part) (few : 1 ≤ (1 - part) * roundingFactor ^ n) : Near n x y := by
  have factorPos := roundingFactor_pow_pos n
  have below : 0 < 1 - part := pos_of_mul_pos_left (one_pos.trans_le few) factorPos.le
  obtain ⟨lower, upper⟩ := abs_le.1 distance
  have least : y * (1 - part) ≤ x := by linarith
  refine ⟨(mul_nonneg nonneg below.le).trans least, ?_, ?_⟩
  · calc
      x ≤ y * (1 + part) := by linarith
      _ ≤ y * (1 + part) * ((1 - part) * roundingFactor ^ n) :=
        le_mul_of_one_le_right (mul_nonneg nonneg (by linarith)) few
      _ = y * roundingFactor ^ n - y * part ^ 2 * roundingFactor ^ n := by ring
      _ ≤ y * roundingFactor ^ n := sub_le_self _ (by positivity)
  · calc
      y ≤ y * ((1 - part) * roundingFactor ^ n) := le_mul_of_one_le_right nonneg few
      _ = y * (1 - part) * roundingFactor ^ n := by ring
      _ ≤ x * roundingFactor ^ n := mul_le_mul_of_nonneg_right least factorPos.le

/-- A distance of at most half a unit of the last of 53 bits is one rounding. -/
theorem of_abs_sub_le (nonneg : 0 ≤ y) (distance : |x - y| ≤ y / 2 ^ 53) : Near 1 x y := by
  rw [div_eq_mul_inv] at distance
  exact of_abs_sub_le_mul _ nonneg distance (by positivity) (by norm_num [roundingFactor])

/-- The distance of magnitudes that are some roundings apart. -/
theorem abs_sub_le (near : Near n x y) : |x - y| ≤ y * (roundingFactor ^ n - 1) := by
  have below : y - x ≤ y * (roundingFactor ^ n - 1) := by
    rcases le_total x y with less | more
    · have factor := one_le_roundingFactor_pow n
      have slack : x * (roundingFactor ^ n - 1) ≤ y * (roundingFactor ^ n - 1) :=
        mul_le_mul_of_nonneg_right less (by linarith)
      have lower := near.ge
      linarith
    · have factor := one_le_roundingFactor_pow n
      have slack : 0 ≤ y * (roundingFactor ^ n - 1) :=
        mul_nonneg near.nonneg_right (by linarith)
      linarith
  have upper := near.le
  exact abs_le.2 ⟨by linarith, by linarith⟩

end Near

end BillingClient.Number
