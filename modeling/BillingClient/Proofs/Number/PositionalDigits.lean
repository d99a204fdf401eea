import BillingClient.Proofs.Number.AmountRounding
import BillingClient.Proofs.Number.DecimalText
import BillingClient.Proofs.Number.ShortestDigits

/-!
Contract: digits written around a point, and amounts read from them.

A magnitude has its digits before and behind the point. Read as an amount they are exact up to 28
places, and rounded half up at the last of these if there are more. Main statement:
`exists_ofPlain?_positional`, for magnitudes that have room before the point.
-/

namespace BillingClient.Number

open BillingClient.Text

/-! ## Digits around a point -/

theorem valueAfter_append_replicate_zero (start count : Nat) :
    valueAfter start (List.replicate count 0) = start * 10 ^ count := by
  induction count generalizing start with
  | zero => simp
  | succ count inductionHypothesis =>
      rw [List.replicate_succ, valueAfter_cons, inductionHypothesis]
      ring

/-- The number that digits write, as a sum. -/
theorem valueAfter_eq_add (start : Nat) (digits : List Nat) :
    valueAfter start digits = start * 10 ^ digits.length + valueAfter 0 digits := by
  induction digits generalizing start with
  | nil => simp
  | cons digit rest inductionHypothesis =>
      rw [valueAfter_cons, valueAfter_cons, inductionHypothesis (start * 10 + digit),
        inductionHypothesis (0 * 10 + digit), List.length_cons]
      ring

theorem valueAfter_lt_pow {digits : List Nat} (areDigits : ∀ digit ∈ digits, digit < 10) :
    valueAfter 0 digits < 10 ^ digits.length := by
  induction digits with
  | nil => simp
  | cons digit rest inductionHypothesis =>
      rw [List.forall_mem_cons] at areDigits
      have restLt := inductionHypothesis areDigits.2
      have first : digit * 10 ^ rest.length ≤ 9 * 10 ^ rest.length :=
        Nat.mul_le_mul_right _ (Nat.le_of_lt_succ areDigits.1)
      rw [valueAfter_cons, valueAfter_eq_add, List.length_cons, pow_succ, Nat.zero_mul,
        Nat.zero_add]
      omega

namespace DecimalMagnitude

/-- The digits before the point. -/
def wholeDigits (magnitude : DecimalMagnitude) : List Nat :=
  let digits := digitsOf magnitude.digits
  match magnitude.exponent with
  | .ofNat zeros => digits ++ List.replicate zeros 0
  | .negSucc n => if n + 1 < digits.length then digits.take (digits.length - (n + 1)) else [0]

/-- The digits behind the point. -/
def fractionDigits (magnitude : DecimalMagnitude) : List Nat :=
  let digits := digitsOf magnitude.digits
  match magnitude.exponent with
  | .ofNat _ => []
  | .negSucc n =>
    if n + 1 < digits.length then digits.drop (digits.length - (n + 1))
    else List.replicate (n + 1 - digits.length) 0 ++ digits

section

variable (magnitude : DecimalMagnitude)

theorem wholeDigits_ne_nil : magnitude.wholeDigits ≠ [] := by
  have some := digitsOf_ne_nil magnitude.digits
  unfold wholeDigits
  dsimp only
  split
  · simp [some]
  · split
    · simp [some]
      omega
    · simp

theorem areDigits_positional :
    ∀ digit ∈ magnitude.wholeDigits ++ magnitude.fractionDigits, digit < 10 := by
  have areDigits : ∀ digit ∈ digitsOf magnitude.digits, digit < 10 := fun _ => digitsOf_lt
  have zeros (count : Nat) : ∀ digit ∈ List.replicate count 0, digit < 10 := by
    intro digit member
    rw [List.eq_of_mem_replicate member]
    decide
  unfold wholeDigits fractionDigits
  dsimp only
  split
  · rw [List.append_nil, List.forall_mem_append]
    exact ⟨areDigits, zeros _⟩
  · split
    · rw [List.take_append_drop]
      exact areDigits
    · simp only [List.forall_mem_append]
      exact ⟨by simp, zeros _, areDigits⟩

theorem length_fractionDigits :
    magnitude.fractionDigits.length = (-magnitude.exponent).toNat := by
  unfold fractionDigits
  dsimp only
  split
  · rename_i zeros shape
    simp [shape]
  · rename_i n shape
    rw [shape]
    split
    · rw [List.length_drop]
      omega
    · rw [List.length_append, List.length_replicate]
      omega

theorem valueAfter_positional :
    valueAfter 0 (magnitude.wholeDigits ++ magnitude.fractionDigits) =
      magnitude.digits * 10 ^ magnitude.exponent.toNat := by
  unfold wholeDigits fractionDigits
  dsimp only
  split
  · rename_i zeros shape
    rw [List.append_nil, valueAfter_append, valueAfter_digitsOf, valueAfter_append_replicate_zero,
      shape]
    rfl
  · rename_i n shape
    have none : magnitude.exponent.toNat = 0 := by rw [shape]; rfl
    rw [none, pow_zero, Nat.mul_one]
    split
    · rw [List.take_append_drop, valueAfter_digitsOf]
    · rw [valueAfter_append, valueAfter_append]
      show valueAfter (valueAfter 0 (List.replicate _ 0)) _ = _
      rw [valueAfter_replicate_zero, valueAfter_digitsOf]

/-- Digits and exponent as a quotient. -/
theorem value_eq_div :
    magnitude.value = (magnitude.digits * 10 ^ magnitude.exponent.toNat : Nat) /
      10 ^ (-magnitude.exponent).toNat := by
  have split : magnitude.exponent = magnitude.exponent.toNat - (-magnitude.exponent).toNat := by
    omega
  unfold value
  conv_lhs => rw [split]
  rw [zpow_sub₀ (by norm_num), zpow_natCast, zpow_natCast]
  push_cast
  ring

/-- Without an exponent a magnitude is written as a plain text. -/
theorem positional_eq_plainText (negative : Bool) :
    (if negative then ['-'] else []) ++
        positional false (decimalDigits magnitude.digits) magnitude.exponent =
      plainText negative magnitude.wholeDigits magnitude.fractionDigits := by
  obtain ⟨digits, exponent⟩ := magnitude
  have some := digitsOf_ne_nil digits
  unfold plainText positional wholeDigits fractionDigits
  rw [decimalDigits_eq_map, List.length_map, List.append_assoc]
  congr 1
  cases exponent with
  | ofNat zeros => simp
  | negSucc n =>
      dsimp only
      by_cases inside : n + 1 < (digitsOf digits).length
      · have more : (digitsOf digits).drop ((digitsOf digits).length - (n + 1)) ≠ [] := by
          simp
          omega
        simp only [if_pos inside, if_neg more, List.map_take, List.map_drop]
      · simp [if_neg inside, some]

end

end DecimalMagnitude

namespace Decimal

/-! ## More digits than places -/

theorem mapM_decimalDigit? {digits : List Nat} (areDigits : ∀ digit ∈ digits, digit < 10) :
    ((digits.map Nat.digitChar).filter (· ≠ '_')).mapM decimalDigit? = some digits := by
  induction digits with
  | nil => rfl
  | cons digit rest inductionHypothesis =>
      rw [List.forall_mem_cons] at areDigits
      have notSeparator : digit.digitChar ≠ '_' := by
        have every : ∀ digit < 10, digit.digitChar ≠ '_' := by decide
        exact every digit areDigits.1
      have others := inductionHypothesis areDigits.2
      simp_all [List.mapM_cons, decimalDigit?_digitChar]

section

variable {next tail places : Nat}

/-- What a digit below five starts is at most a half. -/
theorem div_le_half (down : next < 5) (short : tail < 10 ^ places) :
    ((next * 10 ^ places + tail : Nat) : ℚ) / 10 ^ (places + 1) ≤ 1 / 2 := by
  have small : (next * 10 ^ places + tail) * 2 ≤ 10 ^ places * 10 := by
    have first : next * 10 ^ places ≤ 4 * 10 ^ places :=
      Nat.mul_le_mul_right _ (Nat.le_of_lt_succ down)
    omega
  rw [div_le_div_iff₀ (by positivity) (by positivity), one_mul, pow_succ]
  exact_mod_cast small

/-- What another digit starts is at least a half. -/
theorem half_le_div (tail places : Nat) (up : ¬ next < 5) :
    1 / 2 ≤ ((next * 10 ^ places + tail : Nat) : ℚ) / 10 ^ (places + 1) := by
  have large : 10 ^ places * 10 ≤ (next * 10 ^ places + tail) * 2 := by
    have first : 5 * 10 ^ places ≤ next * 10 ^ places :=
      Nat.mul_le_mul_right _ (Nat.not_lt.1 up)
    omega
  rw [div_le_div_iff₀ (by positivity) (by positivity), one_mul, pow_succ]
  exact_mod_cast large

theorem div_le_one_of_digit (digit : next < 10) (short : tail < 10 ^ places) :
    ((next * 10 ^ places + tail : Nat) : ℚ) / 10 ^ (places + 1) ≤ 1 := by
  have below : next * 10 ^ places + tail ≤ 10 ^ (places + 1) := by
    have first : next * 10 ^ places ≤ 9 * 10 ^ places :=
      Nat.mul_le_mul_right _ (Nat.le_of_lt_succ digit)
    rw [pow_succ]
    omega
  rw [div_le_one (by positivity)]
  exact_mod_cast below

end

/-- The digits for which there are no places round the last place half up. -/
theorem exists_roundAt (progress : Progress) {digits : List Nat} (isSome : digits ≠ [])
    (areDigits : ∀ digit ∈ digits, digit < 10) (room : progress.mantissa + 1 < mantissaLimit) :
    ∃ mantissa, roundAt progress (digits.map Nat.digitChar) = some (mantissa, progress.scale) ∧
      mantissa < mantissaLimit ∧
      |(mantissa : ℚ) - valueAfter progress.mantissa digits / 10 ^ digits.length| ≤ 1 / 2 := by
  obtain ⟨next, rest, rfl⟩ := List.exists_cons_of_ne_nil isSome
  have nextLt := (List.forall_mem_cons.1 areDigits).1
  have restLt := valueAfter_lt_pow (List.forall_mem_cons.1 areDigits).2
  have read := mapM_decimalDigit? areDigits
  have value : valueAfter progress.mantissa (next :: rest) =
      progress.mantissa * 10 ^ (rest.length + 1) +
        (next * 10 ^ rest.length + valueAfter 0 rest) := by
    rw [valueAfter_eq_add, valueAfter_cons, valueAfter_eq_add (0 * 10 + next), List.length_cons]
    ring
  have placesNe : (10 ^ (rest.length + 1) : ℚ) ≠ 0 := by positivity
  rw [value, List.length_cons, Nat.cast_add, add_div, Nat.cast_mul, Nat.cast_pow, Nat.cast_ofNat,
    mul_div_cancel_right₀ _ placesNe]
  unfold roundAt
  rw [read]
  by_cases down : next < 5
  · refine ⟨progress.mantissa, by simp [down], by omega, ?_⟩
    have most := div_le_half down restLt
    rw [sub_add_cancel_left, abs_neg, abs_of_nonneg (by positivity)]
    exact most
  · refine ⟨progress.mantissa + 1, by simp [down, room], room, ?_⟩
    have least := half_le_div (valueAfter 0 rest) rest.length down
    have most := div_le_one_of_digit nextLt restLt
    rw [Nat.cast_add, Nat.cast_one, add_sub_add_left_eq_sub, abs_of_nonneg (by linarith)]
    linarith

/-- The digits behind the last place are left for rounding. -/
theorem readDigits_plainText_of_length {whole front back : List Nat} (isSome : whole ≠ [])
    (more : back ≠ []) (areDigits : ∀ digit ∈ whole ++ (front ++ back), digit < 10)
    (length : front.length = maxScale) (fits : valueAfter 0 (whole ++ front) < mantissaLimit) :
    readDigits ⟨false, false, 0, 0⟩ (plainText false whole (front ++ back)) =
      roundAt ⟨true, true, valueAfter 0 (whole ++ front), maxScale⟩
        (back.map Nat.digitChar) := by
  rw [List.forall_mem_append, List.forall_mem_append] at areDigits
  rw [valueAfter_append] at fits ⊢
  have wholeFits : valueAfter 0 whole < mantissaLimit :=
    Nat.lt_of_le_of_lt (le_valueAfter _ front) fits
  have seen : (!whole.isEmpty) = true := by simpa using isSome
  have wholeRead := readDigits_digits ⟨false, false, 0, 0⟩ areDigits.1 wholeFits nofun
  have frontRead := readDigits_digits
    { Progress.after ⟨false, false, 0, 0⟩ whole with pointSeen := true } areDigits.2.1 fits
    (fun _ => by simp [Progress.after, length]) (back.map Nat.digitChar)
  obtain ⟨next, rest, rfl⟩ := List.exists_cons_of_ne_nil more
  unfold plainText
  rw [if_neg Bool.false_ne_true, List.nil_append, if_neg (by simp), wholeRead, readDigits_point rfl,
    List.map_append, frontRead, List.map_cons, readDigits]
  simp [Progress.after, seen, length]

/-- Digits with more places than there are for an amount are read up to half a unit of the last. -/
theorem exists_readDigits_of_length {whole front back : List Nat} (isSome : whole ≠ [])
    (more : back ≠ []) (areDigits : ∀ digit ∈ whole ++ (front ++ back), digit < 10)
    (length : front.length = maxScale)
    (fits : valueAfter 0 (whole ++ front) + 1 < mantissaLimit) :
    ∃ mantissa, readDigits ⟨false, false, 0, 0⟩ (plainText false whole (front ++ back)) =
        some (mantissa, maxScale) ∧
      mantissa < mantissaLimit ∧
      |(mantissa : ℚ) - valueAfter 0 (whole ++ (front ++ back)) / 10 ^ back.length| ≤ 1 / 2 := by
  have backDigits : ∀ digit ∈ back, digit < 10 :=
    (List.forall_mem_append.1 (List.forall_mem_append.1 areDigits).2).2
  rw [readDigits_plainText_of_length isSome more areDigits length (by omega), ← List.append_assoc,
    valueAfter_append 0 (whole ++ front)]
  exact exists_roundAt ⟨true, true, valueAfter 0 (whole ++ front), maxScale⟩ more backDigits fits

/-! ## Reading -/

/-- Parts within the limits are an amount, of which zero has no sign. -/
theorem exists_ofParts? (negative : Bool) {mantissa scale : Nat} (fits : mantissa < mantissaLimit)
    (room : scale ≤ maxScale) :
    ∃ d, ofParts? (negative && mantissa != 0) mantissa scale = some d ∧
      d.magnitude = mantissa / 10 ^ scale ∧
      d.value = if negative then -d.magnitude else d.magnitude := by
  refine ⟨⟨negative && mantissa != 0, mantissa, scale, fits, room⟩, dif_pos ⟨fits, room⟩, rfl, ?_⟩
  rw [value_eq]
  cases negative with
  | false => rfl
  | true =>
      by_cases zero : mantissa = 0
      · simp [zero, magnitude]
      · simp [zero]

section

variable (magnitude : DecimalMagnitude) (negative : Bool)

/-- A magnitude with at most 28 places is read as it is. -/
theorem exists_ofPlain?_of_few (few : -28 ≤ magnitude.exponent)
    (fits : magnitude.digits * 10 ^ magnitude.exponent.toNat < mantissaLimit) :
    ∃ d, ofPlain? (plainText negative magnitude.wholeDigits magnitude.fractionDigits) = some d ∧
      d.value = (if negative then -d.magnitude else d.magnitude) ∧
      d.magnitude = magnitude.value := by
  have isSome := magnitude.wholeDigits_ne_nil
  have areDigits := magnitude.areDigits_positional
  have written := magnitude.valueAfter_positional
  have length := magnitude.length_fractionDigits
  have places : maxScale = 28 := rfl
  have room : magnitude.fractionDigits.length ≤ maxScale := by omega
  obtain ⟨d, isRead, isMagnitude, sign⟩ := exists_ofParts? negative fits room
  rw [length, ← magnitude.value_eq_div] at isMagnitude
  refine ⟨d, ?_, sign, isMagnitude⟩
  rw [ofPlain?_plainText isSome areDigits,
    readDigits_plainText isSome areDigits (by rw [written]; exact fits) room, written,
    Option.bind_some]
  exact isRead

/-- A magnitude with more than 28 places is read up to half a unit of the last of these. -/
theorem exists_ofPlain?_of_many (many : magnitude.exponent < -28)
    (short : magnitude.digits ≤ 10 ^ 17) :
    ∃ d, ofPlain? (plainText negative magnitude.wholeDigits magnitude.fractionDigits) = some d ∧
      d.value = (if negative then -d.magnitude else d.magnitude) ∧
      |d.magnitude - magnitude.value| ≤ 1 / (2 * 10 ^ 28) := by
  have isSome := magnitude.wholeDigits_ne_nil
  have areDigits := magnitude.areDigits_positional
  have written := magnitude.valueAfter_positional
  have length := magnitude.length_fractionDigits
  have value := magnitude.value_eq_div
  have places : maxScale = 28 := rfl
  have noZeros : magnitude.exponent.toNat = 0 := by omega
  rw [noZeros, pow_zero, Nat.mul_one] at written value
  rw [ofPlain?_plainText isSome areDigits]
  obtain ⟨front, back, split, frontLength⟩ :
      ∃ front back, magnitude.fractionDigits = front ++ back ∧ front.length = maxScale :=
    ⟨_, _, (List.take_append_drop maxScale _).symm, List.length_take_of_le (by omega)⟩
  rw [split] at areDigits written length ⊢
  rw [List.length_append, frontLength] at length
  have more : back ≠ [] := by
    rintro rfl
    rw [List.length_nil] at length
    omega
  have frontFits : valueAfter 0 (magnitude.wholeDigits ++ front) + 1 < mantissaLimit := by
    have limit : 10 ^ 17 + 1 < mantissaLimit := by decide
    have less := le_valueAfter (valueAfter 0 (magnitude.wholeDigits ++ front)) back
    rw [← valueAfter_append, List.append_assoc, written] at less
    omega
  obtain ⟨mantissa, isRounded, mantissaFits, close⟩ :=
    exists_readDigits_of_length isSome more areDigits frontLength frontFits
  rw [written] at close
  obtain ⟨d, isRead, isMagnitude, sign⟩ :=
    exists_ofParts? negative mantissaFits (Nat.le_refl maxScale)
  refine ⟨d, by rw [isRounded]; exact isRead, sign, ?_⟩
  have unit : (0 : ℚ) < 10 ^ 28 := by positivity
  calc
    |d.magnitude - magnitude.value|
    _ = |(mantissa - magnitude.digits / 10 ^ back.length : ℚ) / 10 ^ 28| := by
      rw [isMagnitude, value, ← length, places, pow_add]
      congr 1
      field_simp
    _ = |(mantissa - magnitude.digits / 10 ^ back.length : ℚ)| / 10 ^ 28 := by
      rw [abs_div, abs_of_pos unit]
    _ ≤ 1 / 2 / 10 ^ 28 := by gcongr
    _ = 1 / (2 * 10 ^ 28) := by rw [div_div]

/-- A magnitude that fits is read up to half a unit of the last of 28 places, and as it is if it has
no more. -/
theorem exists_ofPlain?_positional (short : magnitude.digits ≤ 10 ^ 17)
    (fits : magnitude.digits * 10 ^ magnitude.exponent.toNat < mantissaLimit) :
    ∃ d, ofPlain? (plainText negative magnitude.wholeDigits magnitude.fractionDigits) = some d ∧
      d.value = (if negative then -d.magnitude else d.magnitude) ∧
      |d.magnitude - magnitude.value| ≤ 1 / (2 * 10 ^ 28) ∧
      (-28 ≤ magnitude.exponent → d.magnitude = magnitude.value) := by
  by_cases few : -28 ≤ magnitude.exponent
  · obtain ⟨d, isRead, sign, exactly⟩ := exists_ofPlain?_of_few magnitude negative few fits
    refine ⟨d, isRead, sign, ?_, fun _ => exactly⟩
    rw [exactly, sub_self, abs_zero]
    positivity
  · obtain ⟨d, isRead, sign, close⟩ :=
      exists_ofPlain?_of_many magnitude negative (not_le.1 few) short
    exact ⟨d, isRead, sign, close, fun exact => absurd exact few⟩

end

theorem writeMagnitude_plain (magnitude : DecimalMagnitude) :
    FloatStyle.plain.writeMagnitude magnitude =
      positional false (decimalDigits magnitude.digits) magnitude.exponent := by
  unfold FloatStyle.writeMagnitude
  exact if_pos rfl

/-- A number is read through its shortest digits. -/
theorem ofBinary64?_eq {x : Binary64} (some : x.units ≠ 0) :
    ofBinary64? x =
      ofPlain? (plainText x.negative (shortest .upward x.units).wholeDigits
        (shortest .upward x.units).fractionDigits) := by
  have tie : FloatStyle.plain.tie = .upward := rfl
  unfold ofBinary64? FloatStyle.write
  dsimp only
  rw [if_neg some, String.toList_ofList, tie, writeMagnitude_plain,
    DecimalMagnitude.positional_eq_plainText]

end Decimal

end BillingClient.Number
