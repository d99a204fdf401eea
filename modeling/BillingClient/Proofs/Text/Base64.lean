import BillingClient.Text.Base64

/-!
Contract: bytes are read back from their padded Base64.

Three bytes are four digits, which hold six bits each; what is left at the end is padded. Main
statements: `decode?_encode`, and `length_encode` for the padding.
-/

namespace BillingClient.Text.Base64

/-! ## Digits -/

theorem digitValue?_digit {value : Nat} (small : value < 64) :
    digitValue? (digit value) = some value := by
  have every : ∀ value < 64, digitValue? (digit value) = some value := by decide
  exact every value small

/-- Padding is no digit. -/
theorem digit_ne_padding {value : Nat} (small : value < 64) : digit value ≠ '=' := by
  have every : ∀ value < 64, digit value ≠ '=' := by decide
  exact every value small

/-! ## Groups -/

/-- The digits of some bytes are read as these. -/
theorem decode?_encode (bytes : List UInt8) : decode? (encode bytes) = some bytes := by
  fun_induction encode bytes with
  | case1 => rfl
  | case2 a =>
      have bound : a.toNat < 256 := a.toNat_lt_size
      have first : a.toNat / 4 * 4 + a.toNat % 4 * 16 / 16 = a.toNat := by omega
      simp only [decode?, digitValue?_digit (show a.toNat / 4 < 64 by omega),
        digitValue?_digit (show a.toNat % 4 * 16 < 64 by omega), Option.bind_eq_bind,
        Option.bind_some]
      rw [if_pos (by omega), first, UInt8.ofNat_toNat]
  | case3 a b =>
      have firstBound : a.toNat < 256 := a.toNat_lt_size
      have secondBound : b.toNat < 256 := b.toNat_lt_size
      have first : a.toNat / 4 * 4 + (a.toNat % 4 * 16 + b.toNat / 16) / 16 = a.toNat := by omega
      have second : (a.toNat % 4 * 16 + b.toNat / 16) % 16 * 16 + b.toNat % 16 * 4 / 4 =
          b.toNat := by omega
      rw [decode?]
      · simp only [digitValue?_digit (show a.toNat / 4 < 64 by omega),
          digitValue?_digit (show a.toNat % 4 * 16 + b.toNat / 16 < 64 by omega),
          digitValue?_digit (show b.toNat % 16 * 4 < 64 by omega), Option.bind_eq_bind,
          Option.bind_some]
        rw [if_pos (by omega), first, second, UInt8.ofNat_toNat, UInt8.ofNat_toNat]
      · exact digit_ne_padding (by omega)
  | case4 a b c rest inductionHypothesis =>
      have firstBound : a.toNat < 256 := a.toNat_lt_size
      have secondBound : b.toNat < 256 := b.toNat_lt_size
      have thirdBound : c.toNat < 256 := c.toNat_lt_size
      have first : a.toNat / 4 * 4 + (a.toNat % 4 * 16 + b.toNat / 16) / 16 = a.toNat := by omega
      have second : (a.toNat % 4 * 16 + b.toNat / 16) % 16 * 16 +
          (b.toNat % 16 * 4 + c.toNat / 64) / 4 = b.toNat := by omega
      have third : (b.toNat % 16 * 4 + c.toNat / 64) % 4 * 64 + c.toNat % 64 = c.toNat := by omega
      have lastDigit : digit (c.toNat % 64) ≠ '=' := digit_ne_padding (by omega)
      rw [decode?]
      · simp only [digitValue?_digit (show a.toNat / 4 < 64 by omega),
          digitValue?_digit (show a.toNat % 4 * 16 + b.toNat / 16 < 64 by omega),
          digitValue?_digit (show b.toNat % 16 * 4 + c.toNat / 64 < 64 by omega),
          digitValue?_digit (show c.toNat % 64 < 64 by omega), inductionHypothesis,
          Option.bind_eq_bind, Option.bind_some]
        rw [first, second, third, UInt8.ofNat_toNat, UInt8.ofNat_toNat, UInt8.ofNat_toNat]
      · exact fun _ isPadding _ => lastDigit isPadding
      · exact fun isPadding _ => lastDigit isPadding

theorem length_encode (bytes : List UInt8) :
    (encode bytes).length = (bytes.length + 2) / 3 * 4 := by
  fun_induction encode bytes with
  | case1 => decide
  | case2 | case3 => simp
  | case4 a b c rest inductionHypothesis =>
      simp only [List.length_cons, inductionHypothesis]
      omega

end BillingClient.Text.Base64
