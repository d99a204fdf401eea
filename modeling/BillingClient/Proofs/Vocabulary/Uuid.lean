import BillingClient.Proofs.Text.Digits
import BillingClient.Vocabulary.Uuid

/-!
Contract: UUIDs written and read.

The digits of a UUID are read as its value (`hexValue?_hexDigits`), and its text is read
in the hyphenated form only. Main statement: `Uuid.ofText?_text`.
-/

namespace BillingClient.Vocabulary.Uuid

open BillingClient.Text

theorem length_hexDigits (width value : Nat) : (hexDigits width value).length = width := by
  induction width generalizing value with
  | zero => rfl
  | succ width inductionHypothesis =>
      rw [hexDigits, List.length_append, inductionHypothesis, List.length_singleton]

/-- The digits of a number are hexadecimal. -/
theorem exists_of_mem_hexDigits {width value : Nat} {c : Char}
    (charIn : c ∈ hexDigits width value) : ∃ digit < 16, c = lowerHexDigit digit := by
  induction width generalizing value with
  | zero => cases charIn
  | succ width inductionHypothesis =>
      rw [hexDigits, List.mem_append, List.mem_singleton] at charIn
      rcases charIn with earlier | last
      · exact inductionHypothesis earlier
      · exact ⟨value % 16, Nat.mod_lt _ (by decide), last⟩

theorem no_hyphen_in_hexDigits (width value : Nat) : ∀ c ∈ hexDigits width value, c ≠ '-' := by
  have every : ∀ digit < 16, lowerHexDigit digit ≠ '-' := by decide
  intro c charIn
  obtain ⟨digit, small, rfl⟩ := exists_of_mem_hexDigits charIn
  exact every digit small

/-- The digits of a number that fits the width are read as that number. -/
theorem hexValue?_hexDigits {width value : Nat} (small : value < 16 ^ width) :
    hexValue? (hexDigits width value) = some value := by
  induction width generalizing value with
  | zero =>
      have zero : value = 0 := by omega
      rw [zero]
      rfl
  | succ width inductionHypothesis =>
      have fewer : value / 16 < 16 ^ width := by
        rw [Nat.pow_succ] at small
        omega
      have front := inductionHypothesis fewer
      rw [hexValue?] at front ⊢
      rw [hexDigits, List.foldlM_append, front]
      simp only [Option.bind_eq_bind, Option.bind_some, List.foldlM_cons, List.foldlM_nil,
        hexDigit?_lowerHexDigit (Nat.mod_lt value (show 0 < 16 by decide)), Option.map_some]
      exact congrArg some (Nat.div_add_mod' value 16)

theorem take_drop_append_drop (digits : List Char) (start width : Nat) :
    (digits.drop start).take width ++ digits.drop (start + width) = digits.drop start := by
  rw [← List.drop_drop, List.take_append_drop]

/-- The groups between hyphens are the digits. -/
theorem filter_hyphenate {digits : List Char} (noHyphen : ∀ c ∈ digits, c ≠ '-') :
    (hyphenate digits).filter (· ≠ '-') = digits := by
  have kept : ∀ part : List Char, part ⊆ digits →
      part.filter (fun c => decide (c ≠ '-')) = part := by
    intro part within
    refine List.filter_eq_self.2 fun c member => ?_
    simpa using noHyphen c (within member)
  have hyphen : ∀ rest : List Char, ('-' :: rest).filter (fun c => decide (c ≠ '-')) =
      rest.filter (fun c => decide (c ≠ '-')) := fun rest => List.filter_cons_of_neg (by decide)
  have group : ∀ start width, (digits.drop start).take width ⊆ digits := fun start width =>
    List.Subset.trans (List.take_subset _ _) (List.drop_subset _ _)
  simp only [hyphenate, List.filter_append, hyphen, kept _ (List.take_subset _ _),
    kept _ (group _ _), kept _ (List.drop_subset _ _), List.append_assoc]
  rw [take_drop_append_drop digits 16 4, take_drop_append_drop digits 12 4,
    take_drop_append_drop digits 8 4, List.take_append_drop]

theorem length_hyphenate {digits : List Char} (length : digits.length = 32) :
    (hyphenate digits).length = 36 := by
  simp [hyphenate, length]

theorem mem_of_mem_hyphenate {digits : List Char} {c : Char} (charIn : c ∈ hyphenate digits) :
    c = '-' ∨ c ∈ digits := by
  simp only [hyphenate, List.mem_append, List.mem_cons] at charIn
  rcases charIn with (((first | rfl | second) | rfl | third) | rfl | fourth) | rfl | last
  · exact .inr (List.mem_of_mem_take first)
  · exact .inl rfl
  · exact .inr (List.mem_of_mem_drop (List.mem_of_mem_take second))
  · exact .inl rfl
  · exact .inr (List.mem_of_mem_drop (List.mem_of_mem_take third))
  · exact .inl rfl
  · exact .inr (List.mem_of_mem_drop (List.mem_of_mem_take fourth))
  · exact .inl rfl
  · exact .inr (List.mem_of_mem_drop last)

/-- The text of a UUID has hyphens and hexadecimal digits. -/
theorem mem_text {uuid : Uuid} {c : Char} (charIn : c ∈ uuid.text.toList) :
    c = '-' ∨ ∃ digit < 16, c = lowerHexDigit digit := by
  rw [text, String.toList_ofList] at charIn
  rcases mem_of_mem_hyphenate charIn with hyphen | digitIn
  · exact .inl hyphen
  · exact .inr (exists_of_mem_hexDigits digitIn)

theorem length_text (uuid : Uuid) : uuid.text.toList.length = 36 := by
  rw [text, String.toList_ofList, length_hyphenate]
  exact length_hexDigits 32 uuid.value

/-- The text of a UUID names it. -/
theorem ofText?_text (uuid : Uuid) : ofText? uuid.text = some uuid := by
  have length : uuid.digits.length = 32 := length_hexDigits 32 uuid.value
  have limit : limit = 16 ^ 32 := rfl
  have value : hexValue? uuid.digits = some uuid.value := by
    have small := uuid.value_lt
    rw [limit] at small
    exact hexValue?_hexDigits small
  have notPlain : ofDigits? (hyphenate uuid.digits) = none := by
    rw [ofDigits?, length_hyphenate length, if_neg (by decide)]
  have groups : (hyphenate uuid.digits).filter (· ≠ '-') = uuid.digits :=
    filter_hyphenate (no_hyphen_in_hexDigits 32 uuid.value)
  have hyphenated : ofHyphenated? (hyphenate uuid.digits) = some uuid := by
    rw [ofHyphenated?, groups]
    simp only [if_true, ofDigits?, if_pos length, value, Option.bind_some, dif_pos uuid.value_lt]
  rw [ofText?, text, String.toList_ofList]
  simp only [notPlain, hyphenated, Option.none_or, Option.some_or]

end BillingClient.Vocabulary.Uuid
