import BillingClient.Calendar.Instant
import BillingClient.Proofs.Calendar.Date

/-!
Contract: instants written and read.

The text is read part by part: `readNanos_fractionText` for the fraction, `readTime_chars`
for the time of day, where second 60 stands for a leap second. Main statements:
`Instant.ofText?_text_truncated`, for texts of either precision, and `Instant.ofText?_text`, where
the text loses nothing.
-/

namespace BillingClient.Calendar.Instant

open BillingClient.Text

/-! ## Fractions -/

theorem readFraction_padded (width value : Nat) (positive : 0 < width) (atMost : width ≤ 9)
    (small : value < 10 ^ width) :
    readFraction (padded width value ++ ['Z']) = some (value * 10 ^ (9 - width), ['Z']) := by
  have length := length_paddedDigits positive small
  have fits : value ≤ maxSigned64 := by
    have limit : 10 ^ 9 ≤ maxSigned64 := by decide
    have below : 10 ^ width ≤ 10 ^ 9 := Nat.pow_le_pow_right (by decide) atMost
    omega
  have read := readNumber_digits 9 ['Z'] (paddedDigits_ne_nil width value)
    (fun _ member => paddedDigits_lt member)
    (.inr ⟨by omega, fun _ _ starts => by cases starts; rfl⟩) (by rwa [valueAfter_paddedDigits])
  rw [valueAfter_paddedDigits, ← padded_eq_map] at read
  have used : (padded width value ++ ['Z']).length - ['Z'].length = width := by
    rw [padded_eq_map, List.length_append, List.length_map, length]
    omega
  simp only [readFraction, read, Option.map_some, used]
  rfl

/-- The nanoseconds that the fraction digits of a text count. -/
def Precision.unit : Precision → Nat
  | .millis => 1000000
  | .exact => 1

/-- The fraction digits of a text give the nanoseconds, but for what they leave out. -/
theorem readNanos_fractionText (precision : Precision) {nano : Nat} (small : nano < nanosPerSecond) :
    readNanos (fractionText precision nano ++ ['Z']) =
      some (nano / precision.unit * precision.unit, ['Z']) := by
  have limit : nanosPerSecond = 1000000000 := rfl
  cases precision with
  | millis => exact readFraction_padded 3 (nano / 1000000) (by decide) (by decide) (by omega)
  | exact =>
      rw [Precision.unit, Nat.div_one, Nat.mul_one]
      unfold fractionText
      dsimp only
      split
      · rename_i zero
        rw [zero]
        rfl
      · split
        · have read := readFraction_padded 3 (nano / 1000000) (by decide)
            (by decide) (by omega)
          have exact : nano / 1000000 * 10 ^ (9 - 3) = nano := by omega
          rw [exact] at read
          exact read
        · split
          · have read := readFraction_padded 6 (nano / 1000) (by decide)
              (by decide) (by omega)
            have exact : nano / 1000 * 10 ^ (9 - 6) = nano := by omega
            rw [exact] at read
            exact read
          · have read := readFraction_padded 9 nano (by decide)
              (by decide) (by omega)
            have exact : nano * 10 ^ (9 - 9) = nano := by omega
            rw [exact] at read
            exact read

/-! ## Times and instants -/

/-- The bounds of the time of an instant: a leap second only ends a minute. -/
theorem time_cases (instant : Instant) : instant.second < 86400 ∧
    (instant.nano / nanosPerSecond = 0 ∧ instant.nano % nanosPerSecond = instant.nano ∨
      instant.nano / nanosPerSecond = 1 ∧
        instant.nano % nanosPerSecond + nanosPerSecond = instant.nano ∧
        instant.second % 60 = 59) := by
  have isTime := instant.isTime
  simp only [Calendar.isTime, Bool.and_eq_true, Bool.or_eq_true, decide_eq_true_eq,
    beq_iff_eq] at isTime
  simp only [secondsPerDay, nanosPerSecond] at isTime ⊢
  omega

/-- The last instant that a text of some precision can name, up to a given one. -/
def truncated (precision : Precision) (instant : Instant) : Instant where
  date := instant.date
  second := instant.second
  nano := instant.nano / precision.unit * precision.unit
  isTime := by
    obtain ⟨inDay, leap⟩ := instant.time_cases
    simp only [Calendar.isTime, Bool.and_eq_true, Bool.or_eq_true, decide_eq_true_eq, beq_iff_eq]
    simp only [secondsPerDay, nanosPerSecond] at leap ⊢
    cases precision <;> simp only [Precision.unit] <;> omega

theorem truncated_exact (instant : Instant) : instant.truncated .exact = instant := by
  cases instant
  simp [truncated, Precision.unit]

/-- The time of day of an instant is read back up to its `Z`. -/
theorem readTime_chars (precision : Precision) (instant : Instant) :
    readTime (padded 2 (instant.second / 3600) ++ ':' :: (padded 2 (instant.second / 60 % 60) ++
        ':' :: (padded 2 (instant.second % 60 + instant.nano / nanosPerSecond) ++
        (fractionText precision (instant.nano % nanosPerSecond) ++ ['Z'])))) =
      some (instant.second, (instant.truncated precision).nano, ['Z']) := by
  obtain ⟨inDay, leap⟩ := instant.time_cases
  have fraction := readNanos_fractionText precision
    (Nat.mod_lt instant.nano (show 0 < nanosPerSecond by decide))
  have colon := readMark_cons ':' (by decide)
  -- A whole second is a whole number of units.
  have whole : instant.nano % nanosPerSecond / precision.unit * precision.unit +
      instant.nano / nanosPerSecond * nanosPerSecond = (instant.truncated precision).nano := by
    have limit : nanosPerSecond = 1000000000 := rfl
    cases precision <;> simp only [truncated, Precision.unit, limit] <;> omega
  simp only [readTime, readPart_padded (show instant.second / 3600 < 100 by omega),
    readPart_padded (show instant.second / 60 % 60 < 100 by omega),
    readPart_padded (show instant.second % 60 + instant.nano / nanosPerSecond < 100 by omega),
    colon, fraction, Option.bind_eq_bind, Option.bind_some]
  have inRange : ¬ (decide (24 ≤ instant.second / 3600) ||
      decide (60 ≤ instant.second / 60 % 60) ||
      decide (61 ≤ instant.second % 60 + instant.nano / nanosPerSecond)) = true := by
    simp only [Bool.or_eq_true, decide_eq_true_eq]
    omega
  rw [if_neg inRange, ← whole]
  rcases leap with ⟨noLeap, _⟩ | ⟨leap, _, last⟩
  · rw [if_neg (by omega), noLeap, Nat.zero_mul, Nat.add_zero]
    congr 2
    omega
  · rw [if_pos (by omega), leap, Nat.one_mul]
    congr 2
    omega

/-- The text of an instant names it, but for what its fraction digits leave out. -/
theorem ofText?_text_truncated (precision : Precision) (instant : Instant) :
    ofText? (instant.text precision) = some (instant.truncated precision) := by
  have local? : ofLocal? instant.date instant.second (instant.truncated precision).nano 0 =
      some (instant.truncated precision) := by
    have inDay := instant.time_cases.1
    have days : secondsPerDay = 86400 := rfl
    unfold ofLocal?
    dsimp only
    rw [if_neg (by simp only [Int.ofNat_eq_natCast]; omega),
      if_neg (by simp only [Int.ofNat_eq_natCast]; omega), ofParts?]
    have second : (Int.ofNat instant.second - 0).toNat = instant.second := by simp
    rw [second]
    exact dif_pos (instant.truncated precision).isTime
  simp only [ofText?, text, chars, String.toList_ofList, List.append_assoc, List.cons_append,
    Date.readDate_chars, readTime_chars, Option.bind_eq_bind, Option.bind_some]
  exact local?

/-- The exact text of an instant names it. -/
theorem ofText?_text (instant : Instant) : ofText? (instant.text .exact) = some instant := by
  rw [ofText?_text_truncated, truncated_exact]

end BillingClient.Calendar.Instant
