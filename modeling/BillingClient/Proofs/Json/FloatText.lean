import BillingClient.Proofs.Json.FreeValue
import BillingClient.Proofs.Number.PositionalDigits

/-!
Contract: binary64 numbers of JSON texts, read back.

The digits of a number are gathered as they are written, or with the zero behind the point of a
whole number, and then multiplied or divided by a power of ten. That is three roundings from the
shortest digits, and only one where digits and power have at most 53 bits.
-/

namespace BillingClient.Json

open BillingClient.Number
open BillingClient.Text

namespace NumberText

/-! ## Gathering -/

/-- Digits behind the point that fit are gathered without loss. -/
theorem foldl_addFraction {digits : List Nat} {start : Nat} (exponent : Int)
    (fits : valueAfter start digits ≤ maxUnsigned64) :
    digits.foldl Gathered.addFraction ⟨start, false, exponent⟩ =
      ⟨valueAfter start digits, false, exponent - digits.length⟩ := by
  induction digits generalizing start exponent with
  | nil => simp
  | cons digit rest inductionHypothesis =>
      rw [valueAfter_cons] at fits ⊢
      have next : start * 10 + digit ≤ maxUnsigned64 := Nat.le_trans (le_valueAfter _ rest) fits
      rw [List.foldl_cons, Gathered.addFraction]
      simp only [Bool.false_eq_true, if_false, if_pos next]
      rw [inductionHypothesis (exponent - 1) fits, List.length_cons]
      congr 1
      omega

section

variable (negative : Bool) {whole fraction : List Nat}

theorem number?_fraction (exponent : Option (Bool × List Nat))
    (fits : valueAfter 0 (whole ++ fraction) ≤ maxUnsigned64) :
    number? ⟨negative, whole, some fraction, exponent⟩ =
      (magnitude? ⟨negative, whole, some fraction, exponent⟩
        ⟨valueAfter 0 (whole ++ fraction), false, -fraction.length⟩).map
        fun x => .float ⟨negative, x.units⟩ := by
  rw [valueAfter_append] at fits ⊢
  have wholeFits : valueAfter 0 whole ≤ maxUnsigned64 :=
    Nat.le_trans (le_valueAfter _ fraction) fits
  unfold number?
  dsimp only
  rw [foldl_addWhole 0 wholeFits, foldl_addFraction 0 fits, Int.zero_sub]

theorem number?_exponent (exponent : Bool × List Nat)
    (fits : valueAfter 0 whole ≤ maxUnsigned64) :
    number? ⟨negative, whole, none, some exponent⟩ =
      (magnitude? ⟨negative, whole, none, some exponent⟩ ⟨valueAfter 0 whole, false, 0⟩).map
        fun x => .float ⟨negative, x.units⟩ := by
  unfold number?
  dsimp only
  rw [foldl_addWhole 0 fits]

/-- An exponent that is not too great is added to that of the digits. -/
theorem magnitude?_exponent {exponent : Int} (gathered : Gathered) (fraction : Option (List Nat))
    (small : exponent.natAbs ≤ maxExponent) :
    magnitude? ⟨negative, whole, fraction, some (exponent < 0, paddedDigits 1 exponent.natAbs)⟩
      gathered = scaled? gathered.significand (gathered.exponent + exponent) := by
  have size : digitsValue (paddedDigits 1 exponent.natAbs) = exponent.natAbs :=
    valueAfter_paddedDigits 1 exponent.natAbs
  unfold magnitude?
  dsimp only
  rw [size, if_neg (Nat.not_lt.2 small)]
  by_cases below : exponent < 0
  · rw [decide_eq_true below, if_pos rfl, Int.ofNat_eq_natCast]
    congr 1
    omega
  · rw [decide_eq_false below, if_neg Bool.false_ne_true, Int.ofNat_eq_natCast]
    congr 1
    omega

end

/-! ## Digits as they are gathered -/

/-- The digits that are gathered for a magnitude: a whole number without an exponent has a zero
behind its point. -/
def gathered (magnitude : DecimalMagnitude) : DecimalMagnitude :=
  let leading := magnitude.exponent + Int.ofNat (decimalDigits magnitude.digits).length - 1
  if FloatStyle.json.isPositional leading = true ∧ 0 ≤ magnitude.exponent then
    ⟨magnitude.digits * 10 ^ magnitude.exponent.toNat * 10, -1⟩
  else magnitude

theorem value_gathered (magnitude : DecimalMagnitude) :
    (gathered magnitude).value = magnitude.value := by
  unfold gathered
  dsimp only
  split
  · rename_i positional
    have noPlaces : (-magnitude.exponent).toNat = 0 := by omega
    rw [magnitude.value_eq_div, noPlaces, DecimalMagnitude.value]
    push_cast
    rw [zpow_neg_one]
    ring
  · rfl

theorem natAbs_exponent_gathered_le {magnitude : DecimalMagnitude} {bound : Nat}
    (some : 1 ≤ bound) (range : magnitude.exponent.natAbs ≤ bound) :
    (gathered magnitude).exponent.natAbs ≤ bound := by
  unfold gathered
  dsimp only
  split
  · exact some
  · exact range

theorem positional_eq (negative : Bool) (magnitude : DecimalMagnitude) :
    positional negative (digitsOf magnitude.digits) magnitude.exponent =
      ⟨negative, magnitude.wholeDigits,
        some (if 0 ≤ magnitude.exponent then [0] else magnitude.fractionDigits), none⟩ := by
  obtain ⟨digits, exponent⟩ := magnitude
  unfold positional DecimalMagnitude.wholeDigits DecimalMagnitude.fractionDigits
  cases exponent with
  | ofNat zeros => simp
  | negSucc n =>
      dsimp only
      rw [if_neg (show ¬ 0 ≤ Int.negSucc n by omega)]
      split <;> rfl

theorem number?_scientific (negative : Bool) {magnitude : DecimalMagnitude}
    (fits : magnitude.digits ≤ maxUnsigned64)
    (small : (magnitude.exponent + (digitsOf magnitude.digits).length - 1).natAbs ≤ maxExponent) :
    (scientific negative (digitsOf magnitude.digits)
      (magnitude.exponent + (digitsOf magnitude.digits).length - 1)).number? =
      (scaled? magnitude.digits magnitude.exponent).map fun x => .float ⟨negative, x.units⟩ := by
  obtain ⟨digits, exponent⟩ := magnitude
  have value := valueAfter_digitsOf digits
  dsimp only at fits small ⊢
  obtain ⟨first, others, shape⟩ := List.exists_cons_of_ne_nil (digitsOf_ne_nil digits)
  rw [shape] at value small ⊢
  rw [← value] at fits
  unfold scientific
  rw [List.take_succ_cons, List.take_zero, List.drop_succ_cons, List.drop_zero]
  by_cases single : others = []
  · subst single
    rw [if_pos rfl, number?_exponent negative _ fits, magnitude?_exponent negative _ _ small, value]
    congr 2
    simp
  · rw [if_neg single, number?_fraction negative _ fits, magnitude?_exponent negative _ _ small,
      List.singleton_append, value, List.length_cons]
    congr 2
    push_cast
    omega

/-- A whole number is read with the zero behind its point. -/
theorem number?_positional_of_whole (negative : Bool) {magnitude : DecimalMagnitude}
    (whole : 0 ≤ magnitude.exponent)
    (fits : magnitude.digits * 10 ^ magnitude.exponent.toNat * 10 ≤ maxUnsigned64) :
    (positional negative (digitsOf magnitude.digits) magnitude.exponent).number? =
      (scaled? (magnitude.digits * 10 ^ magnitude.exponent.toNat * 10) (-1)).map
        fun x => .float ⟨negative, x.units⟩ := by
  have places := magnitude.length_fractionDigits
  have noFraction : magnitude.fractionDigits = [] := List.eq_nil_of_length_eq_zero (by omega)
  have written := magnitude.valueAfter_positional
  rw [noFraction, List.append_nil] at written
  have value : valueAfter 0 (magnitude.wholeDigits ++ [0]) =
      magnitude.digits * 10 ^ magnitude.exponent.toNat * 10 := by
    rw [valueAfter_append, written]
    rfl
  rw [positional_eq, if_pos whole, number?_fraction negative none (by rw [value]; exact fits),
    value]
  rfl

theorem number?_positional_of_not_whole (negative : Bool) {magnitude : DecimalMagnitude}
    (notWhole : ¬ 0 ≤ magnitude.exponent) (fits : magnitude.digits ≤ maxUnsigned64) :
    (positional negative (digitsOf magnitude.digits) magnitude.exponent).number? =
      (scaled? magnitude.digits magnitude.exponent).map fun x => .float ⟨negative, x.units⟩ := by
  have written := magnitude.valueAfter_positional
  have places := magnitude.length_fractionDigits
  have noZeros : magnitude.exponent.toNat = 0 := by omega
  have exponent : -(magnitude.fractionDigits.length : Int) = magnitude.exponent := by omega
  rw [noZeros, pow_zero, Nat.mul_one] at written
  rw [positional_eq, if_neg notWhole,
    number?_fraction negative none (by rw [written]; exact fits), written, exponent]
  rfl

/-- The number of a text is what its digits give when they are scaled. -/
theorem number?_ofMagnitude (negative : Bool) {magnitude : DecimalMagnitude}
    (short : magnitude.digits ≤ 10 ^ 17) (range : magnitude.exponent.natAbs ≤ 400) :
    (ofMagnitude negative magnitude).number? =
      (scaled? (gathered magnitude).digits (gathered magnitude).exponent).map
        fun x => .float ⟨negative, x.units⟩ := by
  have unsigned : 10 ^ 17 ≤ maxUnsigned64 := by decide
  have exponents : 500 ≤ maxExponent := by decide
  have length : (digitsOf magnitude.digits).length ≤ 18 :=
    length_digitsOf_le (by decide) (by omega)
  unfold ofMagnitude gathered
  dsimp only
  rw [decimalDigits_eq_map, List.length_map]
  by_cases isPositional : FloatStyle.json.isPositional
      (magnitude.exponent + Int.ofNat (digitsOf magnitude.digits).length - 1) = true
  · rw [if_pos isPositional]
    by_cases whole : 0 ≤ magnitude.exponent
    · -- A whole number is written so only if it has at most sixteen digits.
      have below : magnitude.digits * 10 ^ magnitude.exponent.toNat < 10 ^ 16 := by
        have upper := lt_pow_length_decimalDigits magnitude.digits
        rw [decimalDigits_eq_map, List.length_map] at upper
        simp only [FloatStyle.json, Bool.and_eq_true, decide_eq_true_eq, Int.ofNat_eq_natCast]
          at isPositional
        calc
          magnitude.digits * 10 ^ magnitude.exponent.toNat
          _ < 10 ^ (digitsOf magnitude.digits).length * 10 ^ magnitude.exponent.toNat :=
            Nat.mul_lt_mul_of_pos_right upper (Nat.pow_pos (by decide))
          _ = 10 ^ ((digitsOf magnitude.digits).length + magnitude.exponent.toNat) :=
            (pow_add ..).symm
          _ ≤ 10 ^ 16 := Nat.pow_le_pow_right (by decide) (by omega)
      rw [if_pos ⟨isPositional, whole⟩]
      exact number?_positional_of_whole negative whole (by omega)
    · rw [if_neg (fun both => whole both.2)]
      exact number?_positional_of_not_whole negative whole (by omega)
  · rw [if_neg isPositional, if_neg (fun both => isPositional both.1), Int.ofNat_eq_natCast]
    exact number?_scientific negative (by omega) (by omega)

/-! ## Scaling -/

open Binary64

section

variable {significand : Nat} {exponent : Int}

theorem scaled?_ofNat {up : Nat} (small : up ≤ 308)
    (bounded : ((ofNat significand).mul (powerOfTen up)).magnitude ≤ 10 ^ 60) :
    scaled? significand up = some ((ofNat significand).mul (powerOfTen up)) := by
  show scaled? significand (Int.ofNat up) = _
  unfold scaled?
  dsimp only
  rw [if_pos small, if_pos (isFinite_of_magnitude_le bounded)]

theorem scaled?_negSucc {n : Nat} (small : n < 308) :
    scaled? significand (Int.negSucc n) =
      some ((ofNat significand).div (powerOfTen (n + 1))) := by
  unfold scaled?
  dsimp only
  rw [scaleDown, if_pos (Nat.succ_le_of_lt small)]

/-- Digits of an amount are scaled by three roundings. -/
theorem exists_scaled? (small : exponent.natAbs ≤ 308)
    (least : 1 / 10 ^ 59 ≤ (significand : ℚ) * 10 ^ exponent)
    (greatest : (significand : ℚ) * 10 ^ exponent ≤ 10 ^ 59) :
    ∃ x, scaled? significand exponent = some x ∧
      Near 3 x.magnitude ((significand : ℚ) * 10 ^ exponent) := by
  have top := near_ofNat significand
  cases exponent with
  | ofNat up =>
      rw [Int.ofNat_eq_natCast, zpow_natCast] at least greatest ⊢
      have product := top.mul (near_powerOfTen up)
      have near := (near_mul (isNormal_of_near product (.inr least) (by decide))).trans product
      refine ⟨_, scaled?_ofNat small ?_, near⟩
      have factor : roundingFactor ^ (1 + (1 + 1)) ≤ 10 := by norm_num [roundingFactor]
      calc
        _ ≤ (significand : ℚ) * 10 ^ up * roundingFactor ^ (1 + (1 + 1)) := near.le
        _ ≤ 10 ^ 59 * 10 :=
          mul_le_mul greatest factor (roundingFactor_pow_pos _).le (by positivity)
        _ = 10 ^ 60 := by norm_num
  | negSucc n =>
      rw [zpow_negSucc, ← div_eq_mul_inv] at least greatest ⊢
      have bottom := near_powerOfTen (n + 1)
      have quotient := top.div bottom
      have some := units_ne_zero_of_near bottom (by positivity)
      have near := (near_div some (isNormal_of_near quotient (.inr least) (by decide))).trans
        quotient
      exact ⟨_, scaled?_negSucc small, near⟩

/-- Digits and powers of ten that are kept are scaled by one rounding. -/
theorem units_of_scaled? {mantissa places : Nat} {x : Binary64}
    (kept : (ofNat significand).units = significand * unitsInOne) (few : exponent.natAbs ≤ 22)
    (same : (significand : ℚ) * 10 ^ exponent = mantissa / 10 ^ places)
    (isScaled : scaled? significand exponent = some x) :
    x.units = roundUnits (mantissa * unitsInOne) (10 ^ places) := by
  have placesPos : 0 < 10 ^ places := Nat.pow_pos (by decide)
  have placesNe : (10 ^ places : ℚ) ≠ 0 := by positivity
  cases exponent with
  | ofNat up =>
      rw [Int.ofNat_eq_natCast, zpow_natCast, eq_div_iff placesNe] at same
      have sameNat : significand * 10 ^ up * 10 ^ places = mantissa := by exact_mod_cast same
      have isProduct : x = (ofNat significand).mul (powerOfTen up) := by
        unfold scaled? at isScaled
        dsimp only at isScaled
        rw [if_pos (show up ≤ 308 from Nat.le_trans few (by decide))] at isScaled
        split at isScaled
        · exact (Option.some.inj isScaled).symm
        · cases isScaled
      have power : (powerOfTen up).units = 10 ^ up * unitsInOne := units_ofNat_pow few
      rw [isProduct]
      unfold Binary64.mul
      dsimp only
      rw [kept, power]
      refine roundUnits_congr unitsInOne_pos placesPos ?_
      rw [← sameNat]
      ring
  | negSucc n =>
      rw [zpow_negSucc, ← div_eq_mul_inv, div_eq_div_iff (by positivity) placesNe] at same
      have sameNat : significand * 10 ^ places = mantissa * 10 ^ (n + 1) := by exact_mod_cast same
      rw [scaled?_negSucc (show n < 308 from Nat.lt_of_lt_of_le few (by decide))] at isScaled
      have power : (powerOfTen (n + 1)).units = 10 ^ (n + 1) * unitsInOne :=
        units_ofNat_pow few
      have powerPos : 0 < 10 ^ (n + 1) := Nat.pow_pos (by decide)
      rw [← Option.some.inj isScaled, units_div_of_units kept power powerPos]
      refine roundUnits_congr powerPos placesPos ?_
      rw [Nat.mul_right_comm, sameNat, Nat.mul_right_comm]

end

end NumberText

end BillingClient.Json
