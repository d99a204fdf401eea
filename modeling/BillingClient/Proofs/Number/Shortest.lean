import BillingClient.Number.Shortest

/-!
Contract: the shortest digits of a magnitude that is not zero are not zero.

Every candidate lies in the interval that rounds to the magnitude, and the lower end of
that interval is above zero.
-/

namespace BillingClient.Number

open BillingClient.Text

theorem DecimalMagnitude.normalized_digits_pos {magnitude : DecimalMagnitude} (fuel : Nat)
    (positive : 0 < magnitude.digits) : 0 < (magnitude.normalized fuel).digits := by
  induction fuel generalizing magnitude with
  | zero => exact positive
  | succ fuel inductionHypothesis =>
      rw [normalized]
      split
      · rename_i ends
        refine inductionHypothesis ?_
        have tenfold : 10 ≤ magnitude.digits := by omega
        exact Nat.div_pos tenfold (by decide)
      · exact positive

/-- The gap below a number is at most a half of it. -/
theorem quarterGaps_below_le {units : Nat} (positive : 0 < units) :
    (quarterGaps units).2 ≤ 2 * units := by
  have step : Nat.pow 2 (Nat.log2 units - 52) ≤ units :=
    calc
      Nat.pow 2 (Nat.log2 units - 52) ≤ Nat.pow 2 (Nat.log2 units) :=
        Nat.pow_le_pow_right (by decide) (Nat.sub_le _ _)
      _ ≤ units := Nat.log2_self_le (Nat.ne_of_gt positive)
  unfold quarterGaps
  dsimp only
  split <;> omega

private theorem unitScale_pow_pos : 0 < Nat.pow 5 unitScale := by
  generalize unitScale = places
  exact Nat.pow_pos (by decide)

theorem RoundingInterval.of_lower_pos {units : Nat} (positive : 0 < units) :
    0 < (RoundingInterval.of units).lower := by
  have gap := quarterGaps_below_le positive
  have below : 0 < 4 * units - (quarterGaps units).2 := by omega
  exact Nat.mul_pos below unitScale_pow_pos

theorem RoundingInterval.pos_of_contains {interval : RoundingInterval} {candidate : Nat}
    (lower : 0 < interval.lower) (inside : interval.contains candidate = true) :
    0 < candidate := by
  unfold contains at inside
  split at inside
  all_goals
    simp only [Bool.and_eq_true, decide_eq_true_eq] at inside
    omega

theorem RoundingInterval.onGrid?_pos {interval : RoundingInterval} {tie : Tie}
    {scaled grid digits : Nat} (lower : 0 < interval.lower)
    (found : interval.onGrid? tie scaled grid = some digits) : 0 < digits := by
  have downPos : interval.contains (scaled / grid * grid) = true → 0 < scaled / grid :=
    fun inside => Nat.pos_of_mul_pos_right (pos_of_contains lower inside)
  unfold onGrid? at found
  dsimp only at found
  split at found
  · rename_i insideDown insideUp
    have pos := downPos insideDown
    split at found <;> cases found <;> omega
  · rename_i insideDown outsideUp
    cases found
    exact downPos insideDown
  · cases found
    exact Nat.succ_pos _
  · contradiction

theorem RoundingInterval.shortest_digits_pos {interval : RoundingInterval} (tie : Tie)
    {scaled : Nat} (places : Nat) (lower : 0 < interval.lower) (positive : 0 < scaled) :
    0 < (interval.shortest tie scaled places).digits := by
  unfold shortest
  dsimp only
  apply DecimalMagnitude.normalized_digits_pos
  generalize search : List.findSome? _ _ = found
  cases found with
  | none => exact positive
  | some magnitude =>
      obtain ⟨count, -, grid⟩ := List.exists_of_findSome?_eq_some search
      obtain ⟨digits, onGrid, rfl⟩ := Option.map_eq_some_iff.1 grid
      exact onGrid?_pos lower onGrid

/-- The shortest digits of a number that is not zero are not zero. -/
theorem shortest_digits_pos (tie : Tie) {units : Nat} (positive : 0 < units) :
    0 < (shortest tie units).digits :=
  RoundingInterval.shortest_digits_pos tie unitScale (RoundingInterval.of_lower_pos positive)
    (Nat.mul_pos positive unitScale_pow_pos)

end BillingClient.Number
