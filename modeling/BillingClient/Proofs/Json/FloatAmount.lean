import BillingClient.Proofs.Json.FloatText

/-!
Contract: amounts that are written as JSON numbers, read back.

An amount is written as a binary64 number, whose digits are read as another one, and the digits of
that as an amount: twenty roundings in all, and one to 28 places. An amount of at most fifteen
digits and 22 places is given back, and so is one that is so small that the roundings do not reach
the last place. Just the amounts that are rounded to `2 ^ 96` are refused. Main statements:
`exists_decode_amountText` and `decode_amountText_eq_none`.
-/

namespace BillingClient.Json

open BillingClient.Number
open BillingClient.Text
open Binary64

/-! ## Moderate magnitudes -/

/-- Whether a magnitude is at most some roundings from that of an amount that is not zero. -/
structure IsModerate (magnitude : ℚ) : Prop where
  least : 1 / 10 ^ 30 ≤ magnitude
  greatest : magnitude ≤ 10 ^ 30

theorem isModerate_of_near {n : Nat} {x y : ℚ} (near : Near n x y) (few : n ≤ 20)
    (least : 1 / 10 ^ 28 ≤ y) (greatest : y ≤ 10 ^ 29) : IsModerate x := by
  have factor : roundingFactor ^ 20 ≤ 10 := by norm_num [roundingFactor]
  have lower := (near.mono few).ge
  have upper := (near.mono few).le
  have lowerRoom : x * roundingFactor ^ 20 ≤ x * 10 :=
    mul_le_mul_of_nonneg_left factor near.nonneg
  have upperRoom : y * roundingFactor ^ 20 ≤ y * 10 :=
    mul_le_mul_of_nonneg_left factor near.nonneg_right
  have leastIs : (1 / 10 ^ 30 : ℚ) * 10 ≤ 1 / 10 ^ 28 := by norm_num
  exact ⟨by linarith, by linarith⟩

theorem isModerate_magnitude {d : Decimal} (some : d.mantissa ≠ 0) {n : Nat} {x : ℚ}
    (near : Near n x d.magnitude) (few : n ≤ 20) : IsModerate x := by
  refine isModerate_of_near near few (d.least_le_magnitude some) ?_
  have limit : Decimal.mantissaLimit ≤ 10 ^ 29 := by decide
  have mantissa : (d.mantissa : ℚ) ≤ 10 ^ 29 := by
    exact_mod_cast Nat.le_trans d.mantissa_lt.le limit
  have places : (1 : ℚ) ≤ 10 ^ d.scale := one_le_pow₀ (by norm_num)
  exact (div_le_self (Nat.cast_nonneg _) places).trans mantissa

namespace IsModerate

variable {x : Binary64} (moderate : IsModerate x.magnitude)

include moderate

theorem units_ge : 2 ^ 52 ≤ x.units := by
  rcases isNormal_of_le (le_trans (by norm_num) moderate.least) with zero | normal
  · have least := moderate.least
    rw [zero] at least
    norm_num at least
  · rw [magnitude, div_le_div_iff_of_pos_right unitsInOne_cast_pos] at normal
    exact_mod_cast normal

theorem units_ne_zero : x.units ≠ 0 := by
  have large := moderate.units_ge
  have positive : 0 < 2 ^ 52 := Nat.two_pow_pos 52
  omega

/-- What is a rounding away is still far from any limit. -/
theorem value_shortest (tie : Tie) :
    1 / 10 ^ 31 ≤ (shortest tie x.units).value ∧ (shortest tie x.units).value ≤ 10 ^ 31 := by
  have near := (shortest_near moderate.units_ge tie).1
  have factor : roundingFactor ^ 1 ≤ 10 := by norm_num [roundingFactor]
  have lower := near.ge
  have upper := near.le
  rw [← magnitude] at lower upper
  have lowerRoom := mul_le_mul_of_nonneg_left factor near.nonneg
  have upperRoom := mul_le_mul_of_nonneg_left factor x.magnitude_nonneg
  have least := moderate.least
  have greatest := moderate.greatest
  have leastIs : (1 / 10 ^ 31 : ℚ) * 10 = 1 / 10 ^ 30 := by norm_num
  have greatestIs : (10 ^ 30 : ℚ) * 10 = 10 ^ 31 := by norm_num
  exact ⟨by linarith, by linarith⟩

/-- The exponent of the shortest digits is small. -/
theorem natAbs_exponent_le (tie : Tie) : (shortest tie x.units).exponent.natAbs ≤ 60 := by
  obtain ⟨least, greatest⟩ := moderate.value_shortest tie
  obtain ⟨_, short, ends⟩ := shortest_near moderate.units_ge tie
  generalize shortest tie x.units = magnitude at *
  have digitsGe : (1 : ℚ) ≤ magnitude.digits := by
    exact_mod_cast Nat.one_le_iff_ne_zero.2 fun zero => ends (by rw [zero])
  have digitsLe : (magnitude.digits : ℚ) ≤ 10 ^ 17 := by exact_mod_cast short
  unfold DecimalMagnitude.value at least greatest
  have powerPos : (0 : ℚ) < 10 ^ magnitude.exponent := zpow_pos (by norm_num) _
  by_contra far
  rcases Nat.lt_or_ge 60 magnitude.exponent.toNat with up | notUp
  · have power : (10 : ℚ) ^ (61 : Int) ≤ 10 ^ magnitude.exponent :=
      zpow_le_zpow_right₀ (by norm_num) (by omega)
    have product := le_mul_of_one_le_left powerPos.le digitsGe
    norm_num at power greatest
    linarith
  · have power : (10 : ℚ) ^ magnitude.exponent ≤ 10 ^ (-61 : Int) :=
      zpow_le_zpow_right₀ (by norm_num) (by omega)
    have product := mul_le_mul digitsLe power powerPos.le (by positivity)
    norm_num at product least
    linarith

end IsModerate

/-! ## The number that is read -/

/-- The units that are read for the text of a number. -/
def rereadUnits? (units : Nat) : Option Nat :=
  let gathered := NumberText.gathered (shortest .toEven units)
  (NumberText.scaled? gathered.digits gathered.exponent).map (·.units)

namespace IsModerate

variable {x : Binary64} (moderate : IsModerate x.magnitude)

include moderate

/-- The digits of a number are read as a float of the same sign. -/
theorem number?_ofBinary64 :
    (NumberText.ofBinary64 x).number? =
      (rereadUnits? x.units).map fun units => .float ⟨x.negative, units⟩ := by
  obtain ⟨_, short, _⟩ := shortest_near moderate.units_ge .toEven
  have range := moderate.natAbs_exponent_le .toEven
  unfold NumberText.ofBinary64 rereadUnits?
  rw [if_neg moderate.units_ne_zero, NumberText.number?_ofMagnitude _ short (by omega),
    Option.map_map]
  rfl

/-- The number that is read is four roundings from the one that was written. -/
theorem exists_rereadUnits? :
    ∃ units, rereadUnits? x.units = some units ∧ Near 4 (units / unitsInOne) x.magnitude := by
  obtain ⟨near, _, _⟩ := shortest_near moderate.units_ge .toEven
  obtain ⟨least, greatest⟩ := moderate.value_shortest .toEven
  have range := NumberText.natAbs_exponent_gathered_le (by decide)
    (moderate.natAbs_exponent_le .toEven)
  rw [← NumberText.value_gathered] at near least greatest
  obtain ⟨read, isRead, readNear⟩ := NumberText.exists_scaled? (by omega)
    (le_trans (by norm_num) least) (greatest.trans (by norm_num))
  refine ⟨read.units, ?_, readNear.trans near⟩
  unfold rereadUnits?
  dsimp only
  rw [isRead, Option.map_some]

end IsModerate

/-! ## The limit -/

/-- A magnitude below the limit of mantissas has room before its point. -/
theorem digits_fit_of_value_lt {magnitude : DecimalMagnitude} (short : magnitude.digits ≤ 10 ^ 17)
    (below : magnitude.value < 2 ^ 96) :
    magnitude.digits * 10 ^ magnitude.exponent.toNat < Decimal.mantissaLimit := by
  by_cases whole : 0 ≤ magnitude.exponent
  · have noPlaces : (-magnitude.exponent).toNat = 0 := by omega
    rw [magnitude.value_eq_div, noPlaces, pow_zero, div_one] at below
    exact_mod_cast below
  · have noZeros : magnitude.exponent.toNat = 0 := by omega
    have limit : 10 ^ 17 < Decimal.mantissaLimit := by decide
    rw [noZeros, pow_zero, Nat.mul_one]
    omega

/-- Just below the limit an amount is rounded to a multiple of `2 ^ 43`. -/
theorem units_ofNat_of_range {n : Nat} (lower : 2 ^ 95 ≤ n) (upper : n < 2 ^ 96) :
    (ofNat n).units = roundHalfEven n (2 ^ 43) * 2 ^ 43 * unitsInOne := by
  obtain ⟨places, isPower⟩ := exists_unitsInOne_eq
  have placesPos := Nat.two_pow_pos places
  have length : Nat.log2 (n * 2 ^ places) = 95 + places := by
    rw [Nat.log2_eq_iff (Nat.mul_ne_zero (by omega) placesPos.ne'), pow_add,
      show 95 + places + 1 = 96 + places by omega, pow_add]
    exact ⟨Nat.mul_le_mul_right _ lower, Nat.mul_lt_mul_of_pos_right upper placesPos⟩
  show roundUnits (n * unitsInOne) 1 = _
  unfold roundUnits
  dsimp only
  rw [isPower, Nat.div_one, length, Nat.one_mul, Nat.pow_eq,
    show 95 + places - 52 = 43 + places by omega, pow_add, roundHalfEven_mul_right placesPos]
  ring

/-- The last numbers below the limit are read as amounts. -/
theorem fits_below_limit : ∀ below < 8,
    ((rereadUnits? ((2 ^ 53 - 1 - below) * 2 ^ 43 * unitsInOne)).map fun units =>
      decide ((shortest .upward units).digits * 10 ^ (shortest .upward units).exponent.toNat <
        Decimal.mantissaLimit)) = some true := by
  decide +kernel

/-- The number at the limit is not. -/
theorem refused_at_limit : ∀ negative,
    (rereadUnits? (2 ^ 53 * 2 ^ 43 * unitsInOne)).bind
      (fun units => Decimal.ofBinary64? ⟨negative, units⟩) = none := by
  decide +kernel

section

variable {d : Decimal}

theorem scale_eq_zero_of_large (large : 2 ^ 95 < d.magnitude) : d.scale = 0 := by
  by_contra some
  have mantissa : (d.mantissa : ℚ) < 2 ^ 96 := by exact_mod_cast d.mantissa_lt
  have places : (10 : ℚ) ≤ 10 ^ d.scale := le_self_pow₀ (by norm_num) some
  have bound : d.magnitude ≤ d.mantissa / 10 := by
    unfold Decimal.magnitude
    gcongr
  linarith

theorem magnitude_of_scale_eq_zero (whole : d.scale = 0) : d.magnitude = d.mantissa := by
  rw [Decimal.magnitude, whole, pow_zero, div_one]

/-- What is read for a multiple of `2 ^ 43` below the limit has room before its point. -/
theorem digits_fit_below_limit {significand units : Nat} (below : significand < 2 ^ 53)
    (moderate : IsModerate (units / unitsInOne))
    (isRead : rereadUnits? (significand * 2 ^ 43 * unitsInOne) = some units)
    (near : Near 4 (units / unitsInOne : ℚ) (significand * 2 ^ 43)) :
    (shortest .upward units).digits * 10 ^ (shortest .upward units).exponent.toNat <
      Decimal.mantissaLimit := by
  have isMagnitude : IsModerate (Binary64.mk false units).magnitude := moderate
  obtain ⟨digitsNear, short, _⟩ := shortest_near isMagnitude.units_ge .upward
  -- The roundings reach the limit only from the last eight multiples.
  by_cases far : significand + 9 ≤ 2 ^ 53
  · refine digits_fit_of_value_lt short ?_
    have sum : (significand + 9 : ℚ) ≤ 2 ^ 53 := by exact_mod_cast far
    have significandLe : (significand : ℚ) ≤ 2 ^ 53 - 9 := by linarith
    have factorPos := roundingFactor_pow_pos (1 + 4)
    calc
      _ ≤ (significand : ℚ) * 2 ^ 43 * roundingFactor ^ (1 + 4) := (digitsNear.trans near).le
      _ ≤ (2 ^ 53 - 9) * 2 ^ 43 * roundingFactor ^ (1 + 4) := by gcongr
      _ < 2 ^ 96 := by norm_num [roundingFactor]
  · obtain ⟨last, small, rfl⟩ : ∃ last < 8, significand = 2 ^ 53 - 1 - last :=
      ⟨2 ^ 53 - 1 - significand, by omega, by omega⟩
    have fits := fits_below_limit last small
    rw [isRead, Option.map_some, Option.some.injEq, decide_eq_true_eq] at fits
    exact fits

/-- What is read for an amount that is not rounded to the limit has room before its point. -/
theorem digits_fit {units : Nat} (some : d.mantissa ≠ 0)
    (bounded : d.magnitude < 2 ^ 96 - 2 ^ 42)
    (isRead : rereadUnits? d.magnitudeToBinary64.units = .some units)
    (near : Near 4 (units / unitsInOne : ℚ) d.magnitudeToBinary64.magnitude) :
    (shortest .upward units).digits * 10 ^ (shortest .upward units).exponent.toNat <
      Decimal.mantissaLimit := by
  have all := near.trans d.near_magnitudeToBinary64
  have moderate : IsModerate (Binary64.mk d.negative units).magnitude :=
    isModerate_magnitude some all (by decide)
  by_cases large : 2 ^ 95 < d.magnitude
  · have whole := scale_eq_zero_of_large large
    rw [magnitude_of_scale_eq_zero whole, lt_sub_iff_add_lt] at bounded
    rw [magnitude_of_scale_eq_zero whole] at large
    have lower : 2 ^ 95 < d.mantissa := by exact_mod_cast large
    have upper : d.mantissa + 2 ^ 42 < 2 ^ 96 := by exact_mod_cast bounded
    have isRounded := units_ofNat_of_range lower.le (by omega)
    have rounded := (roundHalfEven_nearest d.mantissa (Nat.two_pow_pos 43)).1
    rw [d.magnitudeToBinary64_of_scale_eq_zero whole] at isRead near
    rw [Binary64.magnitude, isRounded, Nat.cast_mul,
      mul_div_cancel_right₀ _ unitsInOne_cast_pos.ne'] at near
    push_cast at near
    rw [isRounded] at isRead
    exact digits_fit_below_limit (by omega) moderate isRead near
  · obtain ⟨digitsNear, short, _⟩ := shortest_near moderate.units_ge .upward
    refine digits_fit_of_value_lt short ?_
    have factor : roundingFactor ^ (1 + (4 + 15)) < 2 := by norm_num [roundingFactor]
    calc
      _ ≤ d.magnitude * roundingFactor ^ (1 + (4 + 15)) := (digitsNear.trans all).le
      _ ≤ 2 ^ 95 * roundingFactor ^ (1 + (4 + 15)) :=
        mul_le_mul_of_nonneg_right (not_lt.1 large) (roundingFactor_pow_pos _).le
      _ < 2 ^ 95 * 2 := by linarith
      _ = 2 ^ 96 := by norm_num

end

/-! ## Short amounts -/

/-- Digits without zeros at the end that write a short amount are some of its digits. -/
theorem exists_shift {magnitude : DecimalMagnitude} {mantissa places : Nat}
    (ends : magnitude.digits % 10 ≠ 0) (value : magnitude.value = mantissa / 10 ^ places) :
    ∃ up : Nat, magnitude.exponent = up - places ∧ magnitude.digits * 10 ^ up = mantissa := by
  rw [magnitude.value_eq_div, div_eq_div_iff (by positivity) (by positivity)] at value
  have cross : magnitude.digits * 10 ^ magnitude.exponent.toNat * 10 ^ places =
      mantissa * 10 ^ (-magnitude.exponent).toNat := by exact_mod_cast value
  by_cases below : -(places : Int) ≤ magnitude.exponent
  · obtain ⟨up, isUp⟩ : ∃ up : Nat, magnitude.exponent = up - places :=
      ⟨(magnitude.exponent + places).toNat, by omega⟩
    refine ⟨up, isUp, ?_⟩
    have powers : magnitude.exponent.toNat + places = up + (-magnitude.exponent).toNat := by omega
    rw [Nat.mul_assoc, ← pow_add, powers, pow_add, ← Nat.mul_assoc] at cross
    exact Nat.eq_of_mul_eq_mul_right (Nat.pow_pos (by decide)) cross
  · -- Then the digits would end in a zero.
    obtain ⟨more, isMore⟩ : ∃ more, (-magnitude.exponent).toNat = more + 1 + places :=
      ⟨(-magnitude.exponent).toNat - 1 - places, by omega⟩
    have noZeros : magnitude.exponent.toNat = 0 := by omega
    rw [noZeros, pow_zero, Nat.mul_one, isMore, pow_add, ← Nat.mul_assoc] at cross
    have tenfold := Nat.eq_of_mul_eq_mul_right (Nat.pow_pos (by decide)) cross
    rw [pow_succ, ← Nat.mul_assoc] at tenfold
    omega

/-- The digits that are gathered for a short amount, and their power of ten, are kept. -/
theorem units_gathered {magnitude : DecimalMagnitude} {mantissa places : Nat}
    (ends : magnitude.digits % 10 ≠ 0) (value : magnitude.value = mantissa / 10 ^ places)
    (short : mantissa < 10 ^ 15) (few : places ≤ 22) :
    (ofNat (NumberText.gathered magnitude).digits).units =
        (NumberText.gathered magnitude).digits * unitsInOne ∧
      (NumberText.gathered magnitude).exponent.natAbs ≤ 22 := by
  obtain ⟨up, exponent, isMantissa⟩ := exists_shift ends value
  have digitsPos : 0 < magnitude.digits := by
    by_contra none
    exact ends (by rw [Nat.eq_zero_of_not_pos none])
  have fits : 10 ^ 15 < 2 ^ 53 := by norm_num
  have upShort : up < 15 := by
    have power : 10 ^ up < 10 ^ 15 := by
      refine Nat.lt_of_le_of_lt ?_ short
      rw [← isMantissa]
      exact Nat.le_mul_of_pos_left _ digitsPos
    exact (Nat.pow_lt_pow_iff_right (by decide)).1 power
  have digitsShort : magnitude.digits < 10 ^ 15 := by
    refine Nat.lt_of_le_of_lt ?_ short
    rw [← isMantissa]
    exact Nat.le_mul_of_pos_right _ (Nat.pow_pos (by decide))
  unfold NumberText.gathered
  dsimp only
  split
  · rename_i isWhole
    have wholeShort : magnitude.digits * 10 ^ magnitude.exponent.toNat < 10 ^ 15 := by
      refine Nat.lt_of_le_of_lt ?_ short
      rw [← isMantissa]
      exact Nat.mul_le_mul_left _ (Nat.pow_le_pow_right (by decide) (by omega))
    constructor
    · -- Ten times a whole number has one more factor of two.
      refine units_ofNat (magnitude.digits * 10 ^ magnitude.exponent.toNat * 5) 1 (by ring) ?_
      omega
    · exact Nat.one_le_iff_ne_zero.2 (by decide)
  · exact ⟨units_ofNat_of_lt (digitsShort.trans fits), by omega⟩

section

variable {d : Decimal} (some : d.mantissa ≠ 0) (short : d.mantissa < 10 ^ 15) (few : d.scale ≤ 22)

include some short few

/-- The shortest digits of what is written for a short amount are its own. -/
theorem value_shortest_magnitudeToBinary64 (tie : Tie) :
    (shortest tie d.magnitudeToBinary64.units).value = d.magnitude := by
  have moderate := isModerate_magnitude some d.near_magnitudeToBinary64 (by decide)
  have large := moderate.units_ge
  have units := d.units_magnitudeToBinary64 short few
  have placesPos : 0 < 10 ^ d.scale := Nat.pow_pos (by decide)
  have unitsLarge : 2 ^ 52 * 10 ^ 22 ≤ unitsInOne := by decide +kernel
  have scales : 22 ≤ unitScale := by decide
  refine value_shortest_eq large tie short (by omega) ?_
  rw [units]
  refine RoundingInterval.contains_of_roundUnits placesPos ?_ ?_
  · calc
      2 ^ 52 * 10 ^ d.scale ≤ 2 ^ 52 * 10 ^ 22 :=
        Nat.mul_le_mul_left _ (Nat.pow_le_pow_right (by decide) few)
      _ ≤ unitsInOne := unitsLarge
      _ ≤ d.mantissa * unitsInOne := Nat.le_mul_of_pos_left _ (Nat.pos_of_ne_zero some)
  · rw [Nat.mul_assoc, ← pow_add, Nat.sub_add_cancel (by omega),
      ← RoundingInterval.unitFactor_mul_unitsInOne]
    ring

/-- The number that is read for a short amount is the one that was written. -/
theorem units_of_rereadUnits? {units : Nat}
    (isRead : rereadUnits? d.magnitudeToBinary64.units = .some units) :
    units = d.magnitudeToBinary64.units := by
  have moderate := isModerate_magnitude some d.near_magnitudeToBinary64 (by decide)
  have value := value_shortest_magnitudeToBinary64 some short few .toEven
  obtain ⟨_, _, ends⟩ := shortest_near moderate.units_ge .toEven
  obtain ⟨kept, small⟩ := units_gathered ends value short few
  unfold rereadUnits? at isRead
  dsimp only at isRead
  obtain ⟨read, isScaled, rfl⟩ := Option.map_eq_some_iff.1 isRead
  rw [d.units_magnitudeToBinary64 short few]
  rw [← NumberText.value_gathered] at value
  exact NumberText.units_of_scaled? kept small value isScaled

end

/-! ## Amounts that are read back -/

/-- What is read for an amount that was written as a number. -/
structure IsReadBackAs (amount again : Decimal) : Prop where
  near : |again.value - amount.value| ≤ 23 / 10 ^ 16 * |amount.value| + 1 / (2 * 10 ^ 28)
  same : amount.mantissa < 10 ^ 15 ∧ amount.scale ≤ 22 ∨ |amount.value| ≤ 2 / 10 ^ 14 →
    (again == amount) = true

/-- The text of the number that is written for an amount. -/
def amountText (d : Decimal) : NumberText :=
  .of (.float d.toBinary64)

section

variable {d : Decimal}

/-- An amount that is not zero is read from the number that is read for it, with its sign. -/
theorem decode_amountText (some : d.mantissa ≠ 0) (place : Place) :
    Codec.decimal.decode place (.number (amountText d)) =
      (rereadUnits? d.magnitudeToBinary64.units).bind
        fun units => Decimal.ofBinary64? ⟨d.negative, units⟩ := by
  have moderate : IsModerate d.toBinary64.magnitude := by
    rw [magnitude, d.units_toBinary64]
    exact isModerate_magnitude some d.near_magnitudeToBinary64 (by decide)
  have number : (amountText d).number? =
      (rereadUnits? d.magnitudeToBinary64.units).map fun units => .float ⟨d.negative, units⟩ := by
    have read := moderate.number?_ofBinary64
    rw [d.toBinary64_eq some] at read
    rw [amountText, NumberText.of, d.toBinary64_eq some]
    exact read
  simp only [Codec.decimal, number]
  generalize rereadUnits? d.magnitudeToBinary64.units = reread
  cases reread <;> rfl

/-- A zero of either sign is read as zero. -/
theorem decode_amountText_zero (none : d.mantissa = 0) (place : Place) :
    Codec.decimal.decode place (.number (amountText d)) = some Decimal.zero := by
  have units : d.toBinary64.units = 0 := by
    rw [d.units_toBinary64, ← magnitude_eq_zero_iff, d.near_magnitudeToBinary64.eq_zero_iff,
      Decimal.magnitude, none, Nat.cast_zero, zero_div]
  have scaled : NumberText.scaled? 0 (Int.negSucc 0) = some ⟨false, 0⟩ := by
    rw [NumberText.scaled?_negSucc (by decide)]
    decide +kernel
  have read (negative : Bool) : Decimal.ofBinary64? ⟨negative, 0⟩ = some Decimal.zero := by
    cases negative <;> decide +kernel
  have number : (amountText d).number? = some (.float ⟨d.toBinary64.negative, 0⟩) := by
    rw [amountText, NumberText.of, NumberText.ofBinary64, if_pos units,
      NumberText.number?_fraction _ .none (by decide)]
    show (NumberText.scaled? 0 (Int.negSucc 0)).map _ = _
    rw [scaled]
    rfl
  simp only [Codec.decimal, number, read]

theorem isFinite_toBinary64 (d : Decimal) : d.toBinary64.isFinite = true := by
  refine isFinite_of_magnitude_le ?_
  rw [magnitude, d.units_toBinary64, ← magnitude]
  have written := d.near_magnitudeToBinary64
  by_cases zero : d.mantissa = 0
  · rw [written.eq_zero_iff.2 (by rw [Decimal.magnitude, zero, Nat.cast_zero, zero_div])]
    positivity
  · exact (isModerate_magnitude zero written (by decide)).greatest.trans (by norm_num)

/-- What an amount that is not zero is read as, by the shortest digits of the number that is read
for it. -/
theorem exists_decode_of_rereadUnits? {units : Nat} (some : d.mantissa ≠ 0)
    (bounded : d.magnitude < 2 ^ 96 - 2 ^ 42)
    (isRead : rereadUnits? d.magnitudeToBinary64.units = .some units)
    (near : Near 4 (units / unitsInOne : ℚ) d.magnitudeToBinary64.magnitude) :
    ∃ again, (∀ place, Codec.decimal.decode place (.number (amountText d)) = .some again) ∧
      |again.value - d.value| = |again.magnitude - d.magnitude| ∧
      |again.magnitude - (shortest .upward units).value| ≤ 1 / (2 * 10 ^ 28) ∧
      (-28 ≤ (shortest .upward units).exponent →
        again.magnitude = (shortest .upward units).value) := by
  have moderate : IsModerate (Binary64.mk d.negative units).magnitude :=
    isModerate_magnitude some (near.trans d.near_magnitudeToBinary64) (by decide)
  obtain ⟨_, short, _⟩ := shortest_near moderate.units_ge .upward
  obtain ⟨again, isAgain, sign, close, exactly⟩ := Decimal.exists_ofPlain?_positional
    (shortest .upward units) d.negative short (digits_fit some bounded isRead near)
  refine ⟨again, fun place => ?_, ?_, close, exactly⟩
  · rw [decode_amountText some, isRead, Option.bind_some,
      Decimal.ofBinary64?_eq moderate.units_ne_zero]
    exact isAgain
  · rw [sign, d.value_eq]
    split
    · rw [neg_sub_neg, abs_sub_comm]
    · rfl

/-- Twenty roundings, and one to the last place, of an amount. -/
theorem abs_value_sub_le {again : Decimal} {digits : ℚ}
    (distance : |again.value - d.value| = |again.magnitude - d.magnitude|)
    (near : Near 20 digits d.magnitude) (close : |again.magnitude - digits| ≤ 1 / (2 * 10 ^ 28)) :
    |again.value - d.value| ≤ 23 / 10 ^ 16 * |d.value| + 1 / (2 * 10 ^ 28) := by
  have factor : roundingFactor ^ 20 - 1 ≤ 23 / 10 ^ 16 := by norm_num [roundingFactor]
  rw [distance, d.abs_value]
  calc
    |again.magnitude - d.magnitude|
    _ ≤ |again.magnitude - digits| + |digits - d.magnitude| := abs_sub_le ..
    _ ≤ 1 / (2 * 10 ^ 28) + d.magnitude * (roundingFactor ^ 20 - 1) :=
      add_le_add close near.abs_sub_le
    _ ≤ 1 / (2 * 10 ^ 28) + d.magnitude * (23 / 10 ^ 16) :=
      add_le_add_right (mul_le_mul_of_nonneg_left factor d.magnitude_nonneg) _
    _ = 23 / 10 ^ 16 * d.magnitude + 1 / (2 * 10 ^ 28) := by ring

variable (d)

/-- An amount that is not rounded to the limit is read as an amount that is near, and is given back
if it is short or very small. -/
theorem exists_decode_amountText (bounded : |d.value| < 2 ^ 96 - 2 ^ 42) :
    ∃ again, (∀ place, Codec.decimal.decode place (.number (amountText d)) = some again) ∧
      IsReadBackAs d again := by
  rw [d.abs_value] at bounded
  by_cases zero : d.mantissa = 0
  · have same : Decimal.zero.value = d.value := by
      simp [Decimal.value, Decimal.signedMantissa, zero, Decimal.zero]
    refine ⟨.zero, decode_amountText_zero zero, ?_, fun _ => (Decimal.beq_iff_value_eq _ _).2 same⟩
    rw [same, sub_self, abs_zero]
    positivity
  have written := d.near_magnitudeToBinary64
  have moderate := isModerate_magnitude zero written (by decide)
  obtain ⟨units, isRead, near⟩ := moderate.exists_rereadUnits?
  obtain ⟨again, decoded, distance, close, exactly⟩ :=
    exists_decode_of_rereadUnits? zero bounded isRead near
  have rereadModerate : IsModerate (Binary64.mk d.negative units).magnitude :=
    isModerate_magnitude zero (near.trans written) (by decide)
  obtain ⟨digitsNear, _, ends⟩ := shortest_near rereadModerate.units_ge .upward
  dsimp only at digitsNear ends
  have nearAgain := abs_value_sub_le distance (digitsNear.trans (near.trans written)) close
  refine ⟨again, decoded, nearAgain, fun exact => ?_⟩
  rw [Decimal.beq_iff_value_eq]
  rcases exact with ⟨short, few⟩ | small
  · have value := value_shortest_magnitudeToBinary64 zero short few .upward
    rw [← units_of_rereadUnits? zero short few isRead] at value
    obtain ⟨up, exponent, _⟩ := exists_shift ends value
    rw [exactly (by omega), value, sub_self, abs_zero] at distance
    exact sub_eq_zero.1 (abs_eq_zero.1 distance)
  · refine Decimal.value_eq_of_abs_sub_lt (lt_of_le_of_lt nearAgain ?_)
    have part : 23 / 10 ^ 16 * |d.value| ≤ 23 / 10 ^ 16 * (2 / 10 ^ 14) :=
      mul_le_mul_of_nonneg_left small (by norm_num)
    norm_num at part ⊢
    linarith

/-- An amount that is rounded to the limit is refused. -/
theorem decode_amountText_eq_none (reached : 2 ^ 96 - 2 ^ 42 ≤ |d.value|) (place : Place) :
    Codec.decimal.decode place (.number (amountText d)) = none := by
  rw [d.abs_value] at reached
  have whole := scale_eq_zero_of_large (lt_of_lt_of_le (by norm_num) reached)
  rw [magnitude_of_scale_eq_zero whole, sub_le_iff_le_add] at reached
  have least : 2 ^ 96 ≤ d.mantissa + 2 ^ 42 := by exact_mod_cast reached
  have limit : d.mantissa < 2 ^ 96 := d.mantissa_lt
  have isRounded := units_ofNat_of_range (n := d.mantissa) (by omega) limit
  obtain ⟨below, above, odd⟩ := roundHalfEven_nearest d.mantissa (Nat.two_pow_pos 43)
  have isLimit : roundHalfEven d.mantissa (2 ^ 43) = 2 ^ 53 := by
    generalize roundHalfEven d.mantissa (2 ^ 43) = significand at below above odd ⊢
    omega
  rw [decode_amountText (by omega), d.magnitudeToBinary64_of_scale_eq_zero whole, isRounded,
    isLimit]
  exact refused_at_limit d.negative

end

end BillingClient.Json
