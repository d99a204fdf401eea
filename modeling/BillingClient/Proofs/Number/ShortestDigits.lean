import BillingClient.Proofs.Number.RoundingInterval
import BillingClient.Proofs.Number.Shortest
import BillingClient.Proofs.Text.Digits

/-!
Contract: how near the shortest digits of a number are.

Some count of at most seventeen digits always has a magnitude in the interval of a number, so the
shortest digits are at most as many and one rounding apart: `shortest_near`. A magnitude of at most
fifteen digits that rounds to the number is the only one in the interval on its grid, and the
shortest digits are its digits: `value_shortest_eq`.
-/

namespace BillingClient.Number

open BillingClient.Text

/-! ## Values -/

namespace DecimalMagnitude

/-- The value of digits with their exponent. -/
def value (magnitude : DecimalMagnitude) : ℚ :=
  magnitude.digits * 10 ^ magnitude.exponent

/-- Zeros at the end of the digits do not count. -/
theorem value_normalized (fuel : Nat) (magnitude : DecimalMagnitude) :
    (magnitude.normalized fuel).value = magnitude.value := by
  induction fuel generalizing magnitude with
  | zero => rfl
  | succ fuel inductionHypothesis =>
      rw [normalized]
      split
      · rename_i ends
        have tenfold : magnitude.digits = magnitude.digits / 10 * 10 := by omega
        have digits : (magnitude.digits : ℚ) = (magnitude.digits / 10 : Nat) * 10 := by
          exact_mod_cast tenfold
        rw [inductionHypothesis, value, value, digits, zpow_add_one₀ (by norm_num)]
        ring
      · rfl

theorem digits_normalized_le (fuel : Nat) (magnitude : DecimalMagnitude) :
    (magnitude.normalized fuel).digits ≤ magnitude.digits := by
  induction fuel generalizing magnitude with
  | zero => exact Nat.le_refl _
  | succ fuel inductionHypothesis =>
      rw [normalized]
      split
      · exact Nat.le_trans (inductionHypothesis _) (Nat.div_le_self ..)
      · exact Nat.le_refl _

/-- With room for its digits a magnitude is left without zeros at the end. -/
theorem digits_normalized_mod {fuel : Nat} {magnitude : DecimalMagnitude}
    (some : magnitude.digits ≠ 0) (fits : magnitude.digits ≤ 10 ^ fuel) :
    (magnitude.normalized fuel).digits % 10 ≠ 0 := by
  induction fuel generalizing magnitude with
  | zero =>
      rw [normalized]
      omega
  | succ fuel inductionHypothesis =>
      rw [normalized]
      split
      · rw [pow_succ] at fits
        exact inductionHypothesis (by dsimp only; omega) (by dsimp only; omega)
      · omega

end DecimalMagnitude

/-! ## Grids -/

namespace RoundingInterval

variable {interval : RoundingInterval} {tie : Tie} {scaled step grid digits : Nat}

/-- What a grid gives is one of the two neighbours of the magnitude, and in the interval. -/
theorem of_onGrid?_eq_some (found : interval.onGrid? tie scaled grid = some digits) :
    interval.contains (digits * grid) = true ∧ digits ≤ scaled / grid + 1 := by
  unfold onGrid? at found
  dsimp only at found
  split at found
  · rename_i down up
    split at found <;> cases found
    · exact ⟨down, Nat.le_succ _⟩
    · exact ⟨up, Nat.le_refl _⟩
  · rename_i down notUp
    cases found
    exact ⟨down, Nat.le_succ _⟩
  · rename_i notDown up
    cases found
    exact ⟨up, Nat.le_refl _⟩
  · cases found

theorem isSome_onGrid? (inside : interval.contains (scaled / grid * grid) = true ∨
    interval.contains ((scaled / grid + 1) * grid) = true) :
    (interval.onGrid? tie scaled grid).isSome = true := by
  unfold onGrid?
  dsimp only
  split
  · split <;> rfl
  · rfl
  · rfl
  · simp_all

/-- A grid that meets the interval has a neighbour of the magnitude in it. -/
theorem isSome_onGrid?_of_contains (tie : Tie) (count : Nat)
    (self : interval.contains scaled = true)
    (inside : interval.contains (count * grid) = true) :
    (interval.onGrid? tie scaled grid).isSome = true := by
  apply isSome_onGrid?
  by_cases below : count * grid ≤ scaled
  · left
    rcases Nat.eq_zero_or_pos grid with rfl | positive
    · simpa using inside
    · have down : count ≤ scaled / grid := (Nat.le_div_iff_mul_le positive).2 below
      exact contains_of_between inside self (Nat.mul_le_mul_right grid down)
        (Nat.div_mul_le_self scaled grid)
  · right
    have positive : 0 < grid := by
      rcases Nat.eq_zero_or_pos grid with rfl | positive
      · omega
      · exact positive
    have up : scaled / grid + 1 ≤ count :=
      (Nat.div_lt_iff_lt_mul positive).2 (Nat.not_le.1 below)
    refine contains_of_between self inside ?_ (Nat.mul_le_mul_right grid up)
    rw [Nat.mul_comm]
    exact (Nat.lt_mul_div_succ scaled positive).le

/-- On a grid with seventeen digits the nearer neighbour is in the interval. -/
theorem Surrounds.isSome_onGrid? (surrounds : interval.Surrounds scaled step)
    (positive : 0 < grid) (fine : grid = 1 ∨ 10 ^ 16 * grid ≤ scaled) :
    (interval.onGrid? tie scaled grid).isSome = true := by
  have self := surrounds.contains_self
  rcases fine with rfl | fine
  · exact isSome_onGrid?_of_contains tie scaled self (by rwa [Nat.mul_one])
  · have division := Nat.div_add_mod scaled grid
    have remainder := Nat.mod_lt scaled positive
    apply RoundingInterval.isSome_onGrid?
    rw [Nat.mul_comm, Nat.mul_comm (_ + 1), Nat.mul_succ]
    by_cases down : 2 * (scaled % grid) ≤ grid
    · left
      exact surrounds.contains_of_close (scaled % grid) (by omega) (by omega) (by omega)
    · right
      exact surrounds.contains_of_close (grid - scaled % grid) (by omega) (by omega) (by omega)

/-- A grid of at most fifteen digits meets the interval once. -/
theorem Surrounds.eq_of_contains (surrounds : interval.Surrounds scaled step)
    (coarse : scaled < 10 ^ 15 * grid) {left right : Nat}
    (leftInside : interval.contains (left * grid) = true)
    (rightInside : interval.contains (right * grid) = true) : left = right := by
  have upperIs := surrounds.upper
  have lowerIs := surrounds.le_lower
  have long := surrounds.long
  obtain ⟨leftLower, leftUpper⟩ := le_of_contains leftInside
  obtain ⟨rightLower, rightUpper⟩ := le_of_contains rightInside
  have leftBelow : left * grid < (right + 1) * grid := by
    rw [Nat.add_mul]
    omega
  have rightBelow : right * grid < (left + 1) * grid := by
    rw [Nat.add_mul]
    omega
  have leftLt := Nat.lt_of_mul_lt_mul_right leftBelow
  have rightLt := Nat.lt_of_mul_lt_mul_right rightBelow
  omega

/-- The first count that gives digits comes no later than one that is known to. -/
theorem exists_le_of_findSome? {β : Type} {f : Nat → Option β} {counts : List Nat} {count : Nat}
    (sorted : counts.Pairwise (· < ·)) (member : count ∈ counts) (gives : (f count).isSome = true) :
    ∃ first ∈ counts, first ≤ count ∧ ∃ found, f first = some found ∧
      counts.findSome? f = some found := by
  induction counts with
  | nil => cases member
  | cons head rest inductionHypothesis =>
      rw [List.findSome?_cons]
      cases firstIs : f head with
      | some found =>
          have first : head ≤ count := by
            rcases List.mem_cons.1 member with rfl | later
            · exact Nat.le_refl _
            · exact (List.rel_of_pairwise_cons sorted later).le
          exact ⟨head, by simp, first, found, firstIs, rfl⟩
      | none =>
          have later : count ∈ rest := by
            rcases List.mem_cons.1 member with rfl | later
            · rw [firstIs] at gives
              cases gives
            · exact later
          obtain ⟨first, firstIn, least, found, isFound, search⟩ :=
            inductionHypothesis sorted.of_cons later
          exact ⟨first, List.mem_cons_of_mem _ firstIn, least, found, isFound, search⟩

/-- The shortest digits are those of a grid, for no more digits than are known to do. -/
theorem exists_shortest_eq {count : Nat} (places : Nat) (some : 1 ≤ count) (few : count ≤ 17)
    (gives : (interval.onGrid? tie scaled
      (10 ^ ((decimalDigits scaled).length - count))).isSome = true) :
    ∃ first digits, 1 ≤ first ∧ first ≤ count ∧
      interval.onGrid? tie scaled (10 ^ ((decimalDigits scaled).length - first)) =
        Option.some digits ∧
      interval.shortest tie scaled places =
        DecimalMagnitude.normalized (decimalDigits scaled).length
          ⟨digits, Int.ofNat ((decimalDigits scaled).length - first) - Int.ofNat places⟩ := by
  have sorted : ((List.range 17).map (· + 1)).Pairwise (· < ·) := by decide
  have member : count ∈ (List.range 17).map (· + 1) := by
    rw [List.mem_map]
    exact ⟨count - 1, List.mem_range.2 (by omega), by omega⟩
  obtain ⟨first, firstIn, least, found, isFound, search⟩ := exists_le_of_findSome?
    (f := fun count => (interval.onGrid? tie scaled
      (Nat.pow 10 ((decimalDigits scaled).length - count))).map fun digits =>
        DecimalMagnitude.mk digits
          (Int.ofNat ((decimalDigits scaled).length - count) - Int.ofNat places))
    sorted member (by rw [Option.isSome_map]; exact gives)
  obtain ⟨digits, onGrid, rfl⟩ := Option.map_eq_some_iff.1 isFound
  have positive : 1 ≤ first := by
    obtain ⟨before, _, rfl⟩ := List.mem_map.1 firstIn
    exact Nat.le_add_left 1 before
  refine ⟨first, digits, positive, least, onGrid, ?_⟩
  unfold shortest
  dsimp only
  rw [search, Option.getD_some]

end RoundingInterval

/-! ## Shortest digits -/

theorem lt_pow_length_decimalDigits (n : Nat) : n < 10 ^ (decimalDigits n).length :=
  have some : 0 < (decimalDigits n).length := by
    rw [decimalDigits_eq_map, List.length_map]
    exact List.length_pos_of_ne_nil (digitsOf_ne_nil n)
  (Nat.length_toDigits_le_iff (by decide) some).1 (Nat.le_refl _)

theorem pow_length_decimalDigits_le {n : Nat} (positive : 0 < n) :
    10 ^ ((decimalDigits n).length - 1) ≤ n := by
  rcases Nat.eq_zero_or_pos ((decimalDigits n).length - 1) with single | more
  · rw [single]
    exact positive
  · have long := (Nat.length_toDigits_le_iff (b := 10) (n := n) (by decide) more).not
    rw [← decimalDigits] at long
    exact Nat.not_lt.1 (long.1 (by omega))

namespace RoundingInterval

theorem unitFactor_mul_unitsInOne :
    unitFactor * Binary64.unitsInOne = 10 ^ unitScale := by
  decide +kernel

/-- A scaled magnitude as a value. -/
theorem div_unitScale (units : Nat) :
    ((units * unitFactor : Nat) : ℚ) / 10 ^ unitScale = units / Binary64.unitsInOne := by
  have factor : (unitFactor * Binary64.unitsInOne : ℚ) = 10 ^ unitScale := by
    exact_mod_cast unitFactor_mul_unitsInOne
  have factorPos : (unitFactor : ℚ) ≠ 0 := by
    exact_mod_cast unitFactor_pos.ne'
  rw [← factor, Nat.cast_mul, mul_comm (unitFactor : ℚ), mul_div_mul_right _ _ factorPos]

/-- Digits on a grid as a value. -/
theorem value_onGrid (digits zeros : Nat) :
    (DecimalMagnitude.mk digits (Int.ofNat zeros - Int.ofNat unitScale)).value =
      ((digits * 10 ^ zeros : Nat) : ℚ) / 10 ^ unitScale := by
  unfold DecimalMagnitude.value
  dsimp only
  rw [Int.ofNat_eq_natCast, Int.ofNat_eq_natCast, zpow_sub₀ (by norm_num), zpow_natCast,
    zpow_natCast]
  push_cast
  ring

end RoundingInterval

open RoundingInterval

section

variable {units : Nat} (large : 2 ^ 52 ≤ units) (tie : Tie)

include large

/-- The shortest digits are at most seventeen, end in no zero and are one rounding apart. -/
theorem shortest_near :
    Near 1 (shortest tie units).value (units / Binary64.unitsInOne) ∧
      (shortest tie units).digits ≤ 10 ^ 17 ∧ (shortest tie units).digits % 10 ≠ 0 := by
  have surrounds := surrounds_of large
  have unitsPos : 0 < units := by
    have positive : 0 < 2 ^ 52 := Nat.two_pow_pos 52
    omega
  have shape : shortest tie units =
      (RoundingInterval.of units).shortest tie (units * unitFactor) unitScale := by
    unfold shortest
    rw [← unitFactor_eq]
  have scaledPos : 0 < units * unitFactor := Nat.mul_pos unitsPos unitFactor_pos
  have upper := lt_pow_length_decimalDigits (units * unitFactor)
  have lower := pow_length_decimalDigits_le scaledPos
  have gives : ((RoundingInterval.of units).onGrid? tie (units * unitFactor)
      (10 ^ ((decimalDigits (units * unitFactor)).length - 17))).isSome = true := by
    refine surrounds.isSome_onGrid? (Nat.pow_pos (by decide)) ?_
    by_cases few : (decimalDigits (units * unitFactor)).length ≤ 17
    · left
      rw [Nat.sub_eq_zero_of_le few, pow_zero]
    · right
      rw [← pow_add]
      exact Nat.le_trans (Nat.le_of_eq (by congr 1; omega)) lower
  obtain ⟨count, digits, some, few, onGrid, isShortest⟩ :=
    exists_shortest_eq unitScale (by decide) (Nat.le_refl 17) gives
  obtain ⟨inside, neighbour⟩ := of_onGrid?_eq_some onGrid
  have digitsPos : 0 < digits := onGrid?_pos (RoundingInterval.of_lower_pos unitsPos) onGrid
  rw [shape, isShortest]
  generalize (decimalDigits (units * unitFactor)).length = length at *
  have gridPos : 0 < 10 ^ (length - count) := Nat.pow_pos (by decide)
  refine ⟨?_, ?_, ?_⟩
  · have near := (surrounds.near_of_contains inside).div
      (Near.refl (x := 10 ^ unitScale) (by positivity))
    rw [div_unitScale] at near
    rw [DecimalMagnitude.value_normalized, value_onGrid]
    exact near
  · have room : units * unitFactor / 10 ^ (length - count) < 10 ^ 17 := by
      rw [Nat.div_lt_iff_lt_mul gridPos, ← pow_add]
      exact Nat.lt_of_lt_of_le upper (Nat.pow_le_pow_right (by decide) (by omega))
    have le := DecimalMagnitude.digits_normalized_le length
      ⟨digits, Int.ofNat (length - count) - Int.ofNat unitScale⟩
    dsimp only at le
    omega
  · refine DecimalMagnitude.digits_normalized_mod digitsPos.ne' ?_
    have room := Nat.div_le_self (units * unitFactor) (10 ^ (length - count))
    dsimp only
    omega

/-- A magnitude of at most fifteen digits that rounds to a number is what its shortest digits
write. -/
theorem value_shortest_eq {digits places : Nat} (short : digits < 10 ^ 15)
    (fits : places ≤ unitScale)
    (inside : (RoundingInterval.of units).contains (digits * 10 ^ (unitScale - places)) = true) :
    (shortest tie units).value = digits / 10 ^ places := by
  have surrounds := surrounds_of large
  have shape : shortest tie units =
      (RoundingInterval.of units).shortest tie (units * unitFactor) unitScale := by
    unfold shortest
    rw [← unitFactor_eq]
  have scaledLarge : 2 ^ 52 ≤ units * unitFactor :=
    Nat.le_trans large (Nat.le_mul_of_pos_right _ unitFactor_pos)
  have upper := lt_pow_length_decimalDigits (units * unitFactor)
  have lower := pow_length_decimalDigits_le
    (n := units * unitFactor) (Nat.lt_of_lt_of_le (Nat.two_pow_pos 52) scaledLarge)
  obtain ⟨zeros, isZeros⟩ : ∃ zeros, unitScale - places = zeros := ⟨_, rfl⟩
  rw [isZeros] at inside
  -- The magnitude is on the grid of fifteen digits.
  have below : units * unitFactor < 10 ^ (zeros + 15) := by
    obtain ⟨_, within⟩ := le_of_contains inside
    have upperIs := surrounds.upper
    have lowerIs := surrounds.le_lower
    have long := surrounds.long
    have next : (digits + 1) * 10 ^ zeros ≤ 10 ^ 15 * 10 ^ zeros :=
      Nat.mul_le_mul_right _ short
    rw [Nat.add_mul] at next
    rw [pow_add]
    omega
  obtain ⟨more, length⟩ : ∃ more, (decimalDigits (units * unitFactor)).length = 15 + more := by
    refine Nat.exists_eq_add_of_le (Nat.le_of_not_lt fun less => ?_)
    have small : units * unitFactor < 10 ^ 15 :=
      Nat.lt_of_lt_of_le upper (Nat.pow_le_pow_right (by decide) less.le)
    omega
  rw [length] at upper lower
  have coarse : more ≤ zeros := by
    have order := (Nat.pow_lt_pow_iff_right (by decide)).1 (Nat.lt_of_le_of_lt lower below)
    omega
  have onGrid : digits * 10 ^ zeros = digits * 10 ^ (zeros - more) * 10 ^ more := by
    rw [Nat.mul_assoc, ← pow_add, Nat.sub_add_cancel coarse]
  rw [onGrid] at inside
  have gives := isSome_onGrid?_of_contains tie _ surrounds.contains_self inside
  rw [← Nat.add_sub_cancel_left (n := 15) (m := more), ← length] at gives
  obtain ⟨count, found, some, few, isFound, isShortest⟩ :=
    exists_shortest_eq unitScale (by decide) (by decide) gives
  obtain ⟨foundInside, _⟩ := of_onGrid?_eq_some isFound
  have foundOnGrid : found * 10 ^ (15 + more - count) = found * 10 ^ (15 - count) * 10 ^ more := by
    rw [Nat.mul_assoc, ← pow_add]
    congr 2
    omega
  rw [length, foundOnGrid] at foundInside
  have same : found * 10 ^ (15 - count) = digits * 10 ^ (zeros - more) := by
    rw [pow_add] at upper
    exact surrounds.eq_of_contains upper foundInside inside
  rw [shape, isShortest, DecimalMagnitude.value_normalized, value_onGrid, length, foundOnGrid, same,
    ← onGrid, show unitScale = zeros + places by omega, pow_add]
  push_cast
  field_simp

end

end BillingClient.Number
