import BillingClient.Text.Digits
import Mathlib.Algebra.Group.Nat.Defs

/-!
Contract: printed numbers and the digits they are made of.

`digitsOf` are the decimal digits of a number as numbers; `decimalDigits` and `padded`
print them one by one. Main statements: `valueAfter_digitsOf` and `valueAfter_paddedDigits`, by
which the digits give the number back, `digitsValue?_map`, and `length_paddedDigits`.
-/

namespace BillingClient.Text

/-! ## Single digits -/

/-- A printed digit is read as its value. -/
theorem decimalDigit?_digitChar {digit : Nat} (small : digit < 10) :
    decimalDigit? digit.digitChar = some digit := by
  have every : ∀ digit < 10, decimalDigit? digit.digitChar = some digit := by decide
  exact every digit small

/-- The printed hexadecimal digits are read as their values. -/
theorem hexDigit?_lowerHexDigit {value : Nat} (small : value < 16) :
    hexDigit? (lowerHexDigit value) = some value := by
  have every : ∀ value < 16, hexDigit? (lowerHexDigit value) = some value := by decide
  exact every value small

/-! ## The digits of a number -/

/-- The decimal digits of a number, most significant first. -/
def digitsOf (value : Nat) : List Nat :=
  if value < 10 then [value] else digitsOf (value / 10) ++ [value % 10]

@[simp] theorem digitsOf_zero : digitsOf 0 = [0] := by
  rw [digitsOf, if_pos (by decide)]

theorem decimalDigits_eq_map (value : Nat) :
    decimalDigits value = (digitsOf value).map Nat.digitChar := by
  induction value using digitsOf.induct with
  | case1 value small =>
      rw [digitsOf, if_pos small, decimalDigits, Nat.toDigits_of_lt_base small]
      rfl
  | case2 value large inductionHypothesis =>
      rw [digitsOf, if_neg large, List.map_append, ← inductionHypothesis, decimalDigits,
        Nat.toDigits_of_base_le (by decide) (Nat.not_lt.1 large)]
      rfl

theorem digitsOf_lt {value digit : Nat} (member : digit ∈ digitsOf value) : digit < 10 := by
  induction value using digitsOf.induct with
  | case1 value small =>
      rw [digitsOf, if_pos small, List.mem_singleton] at member
      omega
  | case2 value large inductionHypothesis =>
      rw [digitsOf, if_neg large, List.mem_append, List.mem_singleton] at member
      rcases member with earlier | last
      · exact inductionHypothesis earlier
      · omega

theorem digitsOf_ne_nil (value : Nat) : digitsOf value ≠ [] := by
  rw [digitsOf]
  split <;> simp

/-- The number that digits write, after digits that write `start`. -/
def valueAfter (start : Nat) (digits : List Nat) : Nat :=
  digits.foldl (fun value digit => value * 10 + digit) start

@[simp] theorem valueAfter_nil (start : Nat) : valueAfter start [] = start := rfl

@[simp] theorem valueAfter_cons (start digit : Nat) (rest : List Nat) :
    valueAfter start (digit :: rest) = valueAfter (start * 10 + digit) rest := rfl

theorem valueAfter_append (start : Nat) (front back : List Nat) :
    valueAfter start (front ++ back) = valueAfter (valueAfter start front) back :=
  List.foldl_append

theorem le_valueAfter (start : Nat) (digits : List Nat) : start ≤ valueAfter start digits := by
  induction digits generalizing start with
  | nil => exact Nat.le_refl _
  | cons digit rest inductionHypothesis =>
      have next := inductionHypothesis (start * 10 + digit)
      rw [valueAfter_cons]
      omega

/-- The digits of a number write it. -/
theorem valueAfter_digitsOf (value : Nat) : valueAfter 0 (digitsOf value) = value := by
  induction value using digitsOf.induct with
  | case1 value small =>
      rw [digitsOf, if_pos small]
      simp
  | case2 value large inductionHypothesis =>
      rw [digitsOf, if_neg large, valueAfter_append, inductionHypothesis, valueAfter_cons,
        valueAfter_nil]
      omega

/-- A number that is not zero has no leading zero. -/
theorem head?_digitsOf {value : Nat} (positive : 0 < value) : (digitsOf value).head? ≠ some 0 := by
  induction value using digitsOf.induct with
  | case1 value small =>
      rw [digitsOf, if_pos small]
      simp
      omega
  | case2 value large inductionHypothesis =>
      have leading := inductionHypothesis (by omega)
      obtain ⟨first, others, shape⟩ := List.exists_cons_of_ne_nil (digitsOf_ne_nil (value / 10))
      rw [digitsOf, if_neg large, shape, List.cons_append]
      rwa [shape] at leading

theorem length_digitsOf_le {value width : Nat} (positive : 0 < width) (small : value < 10 ^ width) :
    (digitsOf value).length ≤ width := by
  have printed := (Nat.length_toDigits_le_iff (by decide) positive).2 small
  have same : Nat.toDigits 10 value = (digitsOf value).map Nat.digitChar :=
    decimalDigits_eq_map value
  rwa [same, List.length_map] at printed

/-! ## Padded numbers -/

/-- The digits of a number with zeros before them up to a least width. -/
def paddedDigits (width value : Nat) : List Nat :=
  List.replicate (width - (digitsOf value).length) 0 ++ digitsOf value

theorem padded_eq_map (width value : Nat) :
    padded width value = (paddedDigits width value).map Nat.digitChar := by
  rw [padded, paddedDigits, decimalDigits_eq_map, List.map_append, List.map_replicate,
    List.length_map]
  rfl

theorem paddedDigits_lt {width value digit : Nat} (member : digit ∈ paddedDigits width value) :
    digit < 10 := by
  rw [paddedDigits, List.mem_append] at member
  rcases member with zero | proper
  · rw [List.eq_of_mem_replicate zero]
    decide
  · exact digitsOf_lt proper

theorem paddedDigits_ne_nil (width value : Nat) : paddedDigits width value ≠ [] := by
  simp [paddedDigits, digitsOf_ne_nil]

theorem padded_cons (width value : Nat) :
    ∃ digit rest, digit < 10 ∧ padded width value = digit.digitChar :: rest := by
  obtain ⟨digit, others, shape⟩ := List.exists_cons_of_ne_nil (paddedDigits_ne_nil width value)
  have member : digit ∈ paddedDigits width value := by simp [shape]
  refine ⟨digit, others.map Nat.digitChar, paddedDigits_lt member, ?_⟩
  rw [padded_eq_map, shape, List.map_cons]

theorem length_paddedDigits {width value : Nat} (positive : 0 < width)
    (small : value < 10 ^ width) : (paddedDigits width value).length = width := by
  have fits := length_digitsOf_le positive small
  rw [paddedDigits, List.length_append, List.length_replicate]
  omega

theorem valueAfter_replicate_zero (count : Nat) : valueAfter 0 (List.replicate count 0) = 0 := by
  induction count with
  | zero => rfl
  | succ count inductionHypothesis =>
      rw [List.replicate_succ, valueAfter_cons]
      exact inductionHypothesis

theorem valueAfter_paddedDigits (width value : Nat) :
    valueAfter 0 (paddedDigits width value) = value := by
  rw [paddedDigits, valueAfter_append, valueAfter_replicate_zero, valueAfter_digitsOf]

/-! ## Reading printed digits -/

private theorem foldlM_digitChar (start : Nat) {digits : List Nat}
    (small : ∀ digit ∈ digits, digit < 10) :
    (digits.map Nat.digitChar).foldlM
        (fun value c => (decimalDigit? c).map (value * 10 + ·)) start =
      some (valueAfter start digits) := by
  induction digits generalizing start with
  | nil => rfl
  | cons digit rest inductionHypothesis =>
      have digitSmall : digit < 10 := small digit (by simp)
      rw [List.map_cons, List.foldlM_cons, decimalDigit?_digitChar digitSmall, Option.map_some]
      exact inductionHypothesis (start * 10 + digit)
        fun other member => small other (List.mem_cons_of_mem _ member)

/-- Printed digits are read as the number they write. -/
theorem digitsValue?_map {digits : List Nat} (small : ∀ digit ∈ digits, digit < 10) :
    digitsValue? (digits.map Nat.digitChar) = some (valueAfter 0 digits) :=
  foldlM_digitChar 0 small

end BillingClient.Text
