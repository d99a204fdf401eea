import BillingClient.Calendar.Date
import BillingClient.Proofs.Text.Digits

/-!
Contract: dates written and read.

`readNumber_digits` reads printed digits in front of anything that ends them, by the width
or by not being a digit. Main statements: `readDate_chars`, in front of any text, and
`Date.ofText?_text`.
-/

namespace BillingClient.Calendar

open BillingClient.Text

/-! ## Blanks and marks -/

theorem isBlank_digitChar {digit : Nat} (small : digit < 10) :
    isBlank digit.digitChar = false := by
  have every : ∀ digit < 10, isBlank digit.digitChar = false := by decide
  exact every digit small

theorem dropBlanks_cons {c : Char} (notBlank : isBlank c = false) (rest : List Char) :
    dropBlanks (c :: rest) = c :: rest := by
  rw [dropBlanks, List.dropWhile_cons, if_neg (by simp [notBlank])]

theorem dropBlanks_digits {digits : List Nat} (some : digits ≠ [])
    (small : ∀ digit ∈ digits, digit < 10) (rest : List Char) :
    dropBlanks (digits.map Nat.digitChar ++ rest) = digits.map Nat.digitChar ++ rest := by
  obtain ⟨first, others, rfl⟩ := List.exists_cons_of_ne_nil some
  exact dropBlanks_cons (isBlank_digitChar (small first (by simp))) _

theorem readMark_cons (mark : Char) (notBlank : isBlank mark = false) (rest : List Char) :
    readMark mark (mark :: rest) = some rest := by
  rw [readMark, dropBlanks_cons notBlank]
  simp

/-! ## Numbers -/

/-- Whether digits of some width end in front of a text: the width is used up, or what
comes next is no digit. -/
def EndsDigits (width : Nat) (digits : List Nat) (rest : List Char) : Prop :=
  digits.length = width ∨
    digits.length ≤ width ∧ ∀ c tail, rest = c :: tail → decimalDigit? c = none

theorem takeWhile_digits {width : Nat} {digits : List Nat} {rest : List Char}
    (small : ∀ digit ∈ digits, digit < 10) (ends : EndsDigits width digits rest) :
    ((digits.map Nat.digitChar ++ rest).take width).takeWhile (decimalDigit? · |>.isSome) =
      digits.map Nat.digitChar := by
  have areDigits : ∀ c ∈ digits.map Nat.digitChar, (decimalDigit? c).isSome = true := by
    intro c member
    obtain ⟨digit, digitIn, rfl⟩ := List.mem_map.1 member
    rw [decimalDigit?_digitChar (small digit digitIn)]
    rfl
  rcases ends with full | ⟨fits, stops⟩
  · have whole : (digits.map Nat.digitChar ++ rest).take width = digits.map Nat.digitChar :=
      List.take_left' (by rw [List.length_map, full])
    rw [whole]
    simpa using @List.takeWhile_append_of_pos _ _ _ [] areDigits
  · rw [List.take_append, List.take_of_length_le (by rwa [List.length_map]),
      List.takeWhile_append_of_pos areDigits]
    cases rest with
    | nil => simp
    | cons c tail =>
        have notDigit := stops c tail rfl
        cases width - (digits.map Nat.digitChar).length with
        | zero => simp
        | succ more => simp [notDigit]

theorem readNumber_digits (width : Nat) {digits : List Nat} (rest : List Char)
    (some : digits ≠ []) (small : ∀ digit ∈ digits, digit < 10)
    (ends : EndsDigits width digits rest) (fits : valueAfter 0 digits ≤ maxSigned64) :
    readNumber width (digits.map Nat.digitChar ++ rest) =
      Option.some (valueAfter 0 digits, rest) := by
  have notEmpty : (digits.map Nat.digitChar).isEmpty = false := by
    cases digits with
    | nil => contradiction
    | cons digit others => rfl
  rw [readNumber, takeWhile_digits small ends]
  simp only [notEmpty, Bool.false_eq_true, if_false, digitsValue?_map small, Option.bind_some,
    if_pos fits, List.drop_left]

/-- A padded number that fits its width is read in front of any text. -/
theorem readNumber_padded (width value : Nat) (positive : 0 < width) (small : value < 10 ^ width)
    (fits : value ≤ maxSigned64) (rest : List Char) :
    readNumber width (padded width value ++ rest) = some (value, rest) := by
  have read := readNumber_digits width rest (paddedDigits_ne_nil width value)
    (fun _ member => paddedDigits_lt member) (.inl (length_paddedDigits positive small))
    (by rwa [valueAfter_paddedDigits])
  rwa [valueAfter_paddedDigits, ← padded_eq_map] at read

theorem dropBlanks_padded (width value : Nat) (rest : List Char) :
    dropBlanks (padded width value ++ rest) = padded width value ++ rest := by
  rw [padded_eq_map]
  exact dropBlanks_digits (paddedDigits_ne_nil width value)
    (fun _ member => paddedDigits_lt member) rest

theorem readPart_padded {value : Nat} (small : value < 100) (rest : List Char) :
    readPart (padded 2 value ++ rest) = some (value, rest) := by
  have limit : (100 : Nat) ≤ maxSigned64 := by decide
  rw [readPart, dropBlanks_padded]
  exact readNumber_padded 2 value (by decide) small (by omega) rest

/-! ## Dates -/

namespace Date

/-- The bounds of the parts of a date. -/
structure HasBounds (date : Date) : Prop where
  minYear_le : minYear ≤ date.year
  year_le : date.year ≤ maxYear
  month_le : date.month ≤ 12
  day_le : date.day ≤ 31

theorem daysInMonth_le (year : Int) (month : Nat) : daysInMonth year month ≤ 31 := by
  unfold daysInMonth
  split
  · split <;> decide
  all_goals decide

theorem hasBounds (date : Date) : date.HasBounds := by
  have isDay := date.isDay
  have days := daysInMonth_le date.year date.month
  simp only [Calendar.isDay, Bool.and_eq_true, decide_eq_true_eq] at isDay
  obtain ⟨⟨⟨⟨⟨least, greatest⟩, -⟩, month⟩, -⟩, day⟩ := isDay
  exact ⟨least, greatest, month, Nat.le_trans day days⟩

theorem ofParts?_parts (date : Date) : ofParts? date.year date.month date.day = some date := by
  rw [ofParts?, dif_pos date.isDay]

/-- The signed form of a year reads all digits up to the hyphen after it. -/
theorem readYear_signed (magnitude : Nat) (small : magnitude ≤ 262143) (rest : List Char) :
    readNumber (padded 4 magnitude ++ '-' :: rest).length (padded 4 magnitude ++ '-' :: rest) =
      some (magnitude, '-' :: rest) := by
  have limit : 262143 ≤ maxSigned64 := by decide
  have read := readNumber_digits (padded 4 magnitude ++ '-' :: rest).length ('-' :: rest)
    (paddedDigits_ne_nil 4 magnitude) (fun _ member => paddedDigits_lt member)
    (.inr ⟨by rw [padded_eq_map, List.length_append, List.length_map]; omega,
      fun _ _ starts => by cases starts; rfl⟩)
    (by rw [valueAfter_paddedDigits]; omega)
  rwa [valueAfter_paddedDigits, ← padded_eq_map] at read

theorem readYear_yearText {year : Int} (least : minYear ≤ year) (greatest : year ≤ maxYear)
    (rest : List Char) : readYear (yearText year ++ '-' :: rest) = some (year, '-' :: rest) := by
  have first : minYear = -262143 := rfl
  have last : maxYear = 262142 := rfl
  have limit : 262143 ≤ maxSigned64 := by decide
  unfold yearText
  by_cases plain : 0 ≤ year ∧ year ≤ 9999
  · have digits := readNumber_padded 4 year.natAbs (by decide)
      (by omega) (by omega) ('-' :: rest)
    obtain ⟨first, others, small, shape⟩ := padded_cons 4 year.natAbs
    have noSign : first.digitChar ≠ '-' ∧ first.digitChar ≠ '+' := by
      have every : ∀ digit < 10, digit.digitChar ≠ '-' ∧ digit.digitChar ≠ '+' := by decide
      exact every first small
    rw [if_pos plain, readYear, dropBlanks_padded]
    rw [shape, List.cons_append] at digits ⊢
    generalize first.digitChar = c at digits noSign ⊢
    split
    · rename_i starts
      cases starts
      exact absurd rfl noSign.1
    · rename_i starts
      cases starts
      exact absurd rfl noSign.2
    · have value : Int.ofNat year.natAbs = year := Int.natAbs_of_nonneg plain.1
      simp only [digits, Option.map_some, value]
  · rw [if_neg plain]
    have digits := readYear_signed year.natAbs (by omega) rest
    by_cases negative : year < 0
    · have value : -Int.ofNat year.natAbs = year := by
        rw [Int.ofNat_eq_natCast]
        omega
      rw [if_pos negative, List.cons_append, readYear, dropBlanks_cons (by decide)]
      simp only [digits, Option.map_some, value]
    · have value : Int.ofNat year.natAbs = year := Int.natAbs_of_nonneg (Int.not_lt.1 negative)
      rw [if_neg negative, List.cons_append, readYear, dropBlanks_cons (by decide)]
      simp only [digits, Option.map_some, value]

/-- The text of a date is read back in front of any text. -/
theorem readDate_chars (date : Date) (rest : List Char) :
    readDate (date.chars ++ rest) = some (date, rest) := by
  obtain ⟨least, greatest, month, day⟩ := date.hasBounds
  simp only [chars, List.append_assoc, List.cons_append, readDate,
    readYear_yearText least greatest, readMark_cons '-' (by decide),
    readPart_padded (show date.month < 100 by omega), readPart_padded (show date.day < 100 by omega),
    ofParts?_parts, Option.bind_eq_bind, Option.bind_some]

/-- The text of a date names it. -/
theorem ofText?_text (date : Date) : ofText? date.text = some date := by
  have read := readDate_chars date []
  rw [List.append_nil] at read
  simp only [ofText?, text, String.toList_ofList, read, Option.bind_eq_bind, Option.bind_some]
  rfl

end Date

end BillingClient.Calendar
