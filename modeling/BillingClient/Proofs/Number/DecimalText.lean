import BillingClient.Number.Decimal
import BillingClient.Proofs.Text.Digits

/-!
Contract: amounts are written in full, and their texts give them back.

A plain text is a sign, the digits before the point and those behind it, as many as the scale. It is
read digit by digit, without rounding as long as its digits have room. Main statement:
`ofPlain?_text`, for every amount but a negative zero.
-/

namespace BillingClient.Number

open BillingClient.Text

/-- A plain text, by its sign and its digits before and behind the point, of which there is none
where no digit follows. -/
def plainText (negative : Bool) (whole fraction : List Nat) : List Char :=
  (if negative then ['-'] else []) ++ whole.map Nat.digitChar ++
    (if fraction = [] then [] else '.' :: fraction.map Nat.digitChar)

namespace Decimal

/-! ## Reading digits -/

/-- What has been read once some more digits are. -/
def Progress.after (progress : Progress) (digits : List Nat) : Progress where
  pointSeen := progress.pointSeen
  digitSeen := progress.digitSeen || !digits.isEmpty
  mantissa := valueAfter progress.mantissa digits
  scale := if progress.pointSeen then progress.scale + digits.length else progress.scale

/-- Digits that have room are read as they are. -/
theorem readDigits_digits (progress : Progress) {digits : List Nat}
    (areDigits : ∀ digit ∈ digits, digit < 10)
    (fits : valueAfter progress.mantissa digits < mantissaLimit)
    (room : progress.pointSeen = true → progress.scale + digits.length ≤ maxScale)
    (rest : List Char) :
    readDigits progress (digits.map Nat.digitChar ++ rest) =
      readDigits (progress.after digits) rest := by
  induction digits generalizing progress with
  | nil =>
      obtain ⟨pointSeen, digitSeen, mantissa, scale⟩ := progress
      simp [Progress.after]
  | cons digit digits inductionHypothesis =>
      rw [List.forall_mem_cons] at areDigits
      rw [valueAfter_cons] at fits
      have next : progress.mantissa * 10 + digit < mantissaLimit :=
        Nat.lt_of_le_of_lt (le_valueAfter _ digits) fits
      have hasRoom : ¬ (progress.pointSeen && decide (maxScale ≤ progress.scale)) = true := by
        intro full
        simp only [Bool.and_eq_true, decide_eq_true_eq] at full
        have bound := room full.1
        rw [List.length_cons] at bound
        omega
      rw [List.map_cons, List.cons_append, readDigits, if_neg hasRoom,
        decimalDigit?_digitChar areDigits.1]
      dsimp only
      rw [if_pos next, inductionHypothesis _ areDigits.2 fits]
      · congr 1
        cases seen : progress.pointSeen with
        | false => simp [Progress.after, seen]
        | true =>
            simp only [Progress.after, seen, if_true, List.length_cons, List.isEmpty_cons,
              Bool.not_false, Bool.or_true, Bool.true_or, valueAfter_cons, Progress.mk.injEq,
              true_and]
            omega
      · intro seen
        have bound := room seen
        rw [List.length_cons] at bound
        dsimp only at seen ⊢
        rw [if_pos seen]
        omega

/-- The point ends the digits before it. -/
theorem readDigits_point {progress : Progress} (unseen : progress.pointSeen = false)
    (rest : List Char) :
    readDigits progress ('.' :: rest) = readDigits { progress with pointSeen := true } rest := by
  have noDigit : decimalDigit? '.' = none := by decide
  rw [readDigits, noDigit, unseen]
  rfl

section

variable {whole fraction : List Nat} (isSome : whole ≠ [])
  (areDigits : ∀ digit ∈ whole ++ fraction, digit < 10)

include isSome areDigits

/-- The digits of a plain text that have room give its mantissa and scale. -/
theorem readDigits_plainText (fits : valueAfter 0 (whole ++ fraction) < mantissaLimit)
    (room : fraction.length ≤ maxScale) :
    readDigits ⟨false, false, 0, 0⟩ (plainText false whole fraction) =
      some (valueAfter 0 (whole ++ fraction), fraction.length) := by
  rw [List.forall_mem_append] at areDigits
  rw [valueAfter_append] at fits ⊢
  have wholeFits : valueAfter 0 whole < mantissaLimit :=
    Nat.lt_of_le_of_lt (le_valueAfter _ fraction) fits
  have seen : (!whole.isEmpty) = true := by simpa using isSome
  have wholeRead := readDigits_digits ⟨false, false, 0, 0⟩ areDigits.1 wholeFits nofun
  unfold plainText
  rw [if_neg Bool.false_ne_true, List.nil_append, wholeRead]
  by_cases none : fraction = []
  · subst none
    rw [if_pos rfl, readDigits]
    simp [Progress.after, seen]
  · have fractionRead := readDigits_digits
      { Progress.after ⟨false, false, 0, 0⟩ whole with pointSeen := true } areDigits.2 fits
      (fun _ => by simpa [Progress.after] using room) []
    rw [List.append_nil] at fractionRead
    rw [if_neg none, readDigits_point rfl, fractionRead, readDigits]
    simp [Progress.after, seen]

/-- A plain text is read by its digits, and its sign is put before what they give. -/
theorem ofPlain?_plainText (negative : Bool) :
    ofPlain? (plainText negative whole fraction) =
      (readDigits ⟨false, false, 0, 0⟩ (plainText false whole fraction)).bind
        fun (mantissa, scale) => ofParts? (negative && mantissa != 0) mantissa scale := by
  obtain ⟨digit, digits, rfl⟩ := List.exists_cons_of_ne_nil isSome
  have small : digit < 10 := areDigits digit (by simp)
  have notSign : digit.digitChar ≠ '-' ∧ digit.digitChar ≠ '+' := by
    have every : ∀ digit < 10, digit.digitChar ≠ '-' ∧ digit.digitChar ≠ '+' := by decide
    exact every digit small
  cases negative with
  | true => rfl
  | false =>
      unfold ofPlain? plainText
      rw [if_neg Bool.false_ne_true, List.nil_append, List.map_cons, List.cons_append]
      split
      · rename_i rest shape
        split at shape
        · rename_i sign
          exact absurd (List.cons.inj sign).1 notSign.1
        · rename_i sign
          exact absurd (List.cons.inj sign).1 notSign.2
        · cases shape
          rfl

end

/-! ## Texts of amounts -/

/-- The digits of an amount before its point. -/
def wholeDigits (d : Decimal) : List Nat :=
  let digits := paddedDigits (d.scale + 1) d.mantissa
  digits.take (digits.length - d.scale)

/-- The digits of an amount behind its point. -/
def fractionDigits (d : Decimal) : List Nat :=
  let digits := paddedDigits (d.scale + 1) d.mantissa
  digits.drop (digits.length - d.scale)

section

variable (d : Decimal)

theorem wholeDigits_append_fractionDigits :
    d.wholeDigits ++ d.fractionDigits = paddedDigits (d.scale + 1) d.mantissa :=
  List.take_append_drop _ _

theorem lt_length_paddedDigits : d.scale < (paddedDigits (d.scale + 1) d.mantissa).length := by
  unfold paddedDigits
  rw [List.length_append, List.length_replicate]
  omega

theorem wholeDigits_ne_nil : d.wholeDigits ≠ [] := by
  have long := d.lt_length_paddedDigits
  unfold wholeDigits
  rw [ne_eq, List.take_eq_nil_iff]
  rintro (none | none)
  · omega
  · rw [none] at long
    exact absurd long (Nat.not_lt_zero _)

theorem length_fractionDigits : d.fractionDigits.length = d.scale := by
  have long := d.lt_length_paddedDigits
  unfold fractionDigits
  rw [List.length_drop]
  omega

/-- The text of an amount is plain, with as many digits behind the point as the scale. -/
theorem toList_text :
    d.text.toList = plainText d.negative d.wholeDigits d.fractionDigits := by
  have noFraction : d.fractionDigits = [] ↔ d.scale = 0 := by
    rw [← List.length_eq_zero_iff, d.length_fractionDigits]
  have length : (padded (d.scale + 1) d.mantissa).length =
      (paddedDigits (d.scale + 1) d.mantissa).length := by
    rw [padded_eq_map, List.length_map]
  unfold text plainText
  dsimp only
  rw [String.toList_ofList, length, padded_eq_map, ← List.map_take, ← List.map_drop]
  simp only [noFraction]
  rfl

theorem areDigits_text : ∀ digit ∈ d.wholeDigits ++ d.fractionDigits, digit < 10 := by
  rw [d.wholeDigits_append_fractionDigits]
  exact fun digit => paddedDigits_lt

/-- The text of an amount that is no negative zero gives it back, with its scale. -/
theorem ofPlain?_text (notNegativeZero : d.negative = true → d.mantissa ≠ 0) :
    ofPlain? d.text.toList = some d := by
  have value : valueAfter 0 (d.wholeDigits ++ d.fractionDigits) = d.mantissa := by
    rw [d.wholeDigits_append_fractionDigits, valueAfter_paddedDigits]
  have read := readDigits_plainText d.wholeDigits_ne_nil d.areDigits_text
    (by rw [value]; exact d.mantissa_lt) (by rw [d.length_fractionDigits]; exact d.scale_le)
  have sign : (d.negative && d.mantissa != 0) = d.negative := by
    cases negative : d.negative with
    | false => rfl
    | true => simpa using notNegativeZero negative
  rw [d.toList_text, ofPlain?_plainText d.wholeDigits_ne_nil d.areDigits_text, read, value,
    d.length_fractionDigits, Option.bind_some]
  dsimp only
  rw [sign, ofParts?, dif_pos ⟨d.mantissa_lt, d.scale_le⟩]

end

end Decimal

end BillingClient.Number
