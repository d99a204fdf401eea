import BillingClient.Proofs.Text.Percent
import BillingClient.Proofs.Vocabulary.Uuid
import Mathlib.Data.Bool.AllAny
import Mathlib.Data.List.Induction

/-!
Contract: the texts that are read as UUIDs.

`IsForm` are the ways in which 32 hexadecimal digits may be written as a UUID. Those texts are
read and no others, each as the UUID whose own digits are the same in lower case. Main statement:
`ofText?_eq_some_iff`.
-/

namespace BillingClient.Vocabulary.Uuid

open BillingClient.Text

/-! ## Hexadecimal digits -/

/-- The hexadecimal digits of both cases. -/
def hexAlphabet : List Char :=
  "0123456789abcdefABCDEF".toList

/-- A digit has a value, and is written for it in lower case. -/
theorem exists_hexDigit? {c : Char} (isHex : c ∈ hexAlphabet) :
    ∃ value < 16, hexDigit? c = some value ∧ lowerHexDigit value = c.toLower := by
  have every : ∀ c ∈ hexAlphabet,
      ∃ value < 16, hexDigit? c = some value ∧ lowerHexDigit value = c.toLower :=
    List.all_iff_forall_prop.1 (by decide)
  exact every c isHex

/-- Only digits have a value. -/
theorem mem_hexAlphabet_of_hexDigit? {c : Char} {value : Nat} (digit : hexDigit? c = some value) :
    c ∈ hexAlphabet := by
  have ascii : c.toNat < 0x80 := by
    have bounded : c ≤ '9' ∨ c ≤ 'f' ∨ c ≤ 'F' := by
      unfold hexDigit? at digit
      simp only [Bool.and_eq_true, decide_eq_true_eq] at digit
      split_ifs at digit with decimal lower upper
      · exact .inl decimal.2
      · exact .inr (.inl lower.2)
      · exact .inr (.inr upper.2)
    rcases bounded with below | below | below
    all_goals exact Nat.lt_of_le_of_lt below (by decide)
  have every : ∀ code < 0x80,
      (hexDigit? (Char.ofNat code)).isSome → Char.ofNat code ∈ hexAlphabet := by decide
  exact forall_ascii (fun c => (hexDigit? c).isSome → c ∈ hexAlphabet) every ascii (by simp [digit])

theorem ne_hyphen_of_mem_hexAlphabet : ∀ c ∈ hexAlphabet, c ≠ '-' :=
  List.all_iff_forall_prop.1 (by decide)

theorem hexValue?_append_singleton (front : List Char) (last : Char) :
    hexValue? (front ++ [last]) =
      (hexValue? front).bind fun value => (hexDigit? last).map (value * 16 + ·) := by
  unfold hexValue?
  rw [List.foldlM_append]
  simp

/-- Digits write a number that fits them, and whose own digits they are in lower case. -/
theorem exists_hexValue? {digits : List Char} (areHex : ∀ c ∈ digits, c ∈ hexAlphabet) :
    ∃ value < 16 ^ digits.length, hexValue? digits = some value ∧
      hexDigits digits.length value = digits.map Char.toLower := by
  induction digits using List.reverseRecOn with
  | nil => exact ⟨0, by decide, rfl, rfl⟩
  | append_singleton front last inductionHypothesis =>
      rw [List.forall_mem_append] at areHex
      obtain ⟨value, small, read, written⟩ := inductionHypothesis areHex.1
      obtain ⟨digit, digitSmall, lastRead, lastWritten⟩ :=
        exists_hexDigit? (areHex.2 last (List.mem_singleton_self last))
      refine ⟨value * 16 + digit, ?_, ?_, ?_⟩
      · rw [List.length_append, List.length_singleton, Nat.pow_succ]
        omega
      · rw [hexValue?_append_singleton, read, lastRead]
        rfl
      · have quotient : (value * 16 + digit) / 16 = value := by omega
        have remainder : (value * 16 + digit) % 16 = digit := by omega
        rw [List.length_append, List.length_singleton, hexDigits, quotient, remainder, written,
          lastWritten, List.map_append, List.map_singleton]

/-- What writes a number consists of digits. -/
theorem mem_hexAlphabet_of_hexValue? {digits : List Char} {value : Nat}
    (read : hexValue? digits = some value) : ∀ c ∈ digits, c ∈ hexAlphabet := by
  induction digits using List.reverseRecOn generalizing value with
  | nil => exact List.forall_mem_nil _
  | append_singleton front last inductionHypothesis =>
      rw [hexValue?_append_singleton] at read
      obtain ⟨before, frontRead, read⟩ := Option.bind_eq_some_iff.1 read
      obtain ⟨digit, lastRead, _⟩ := Option.map_eq_some_iff.1 read
      rw [List.forall_mem_append]
      refine ⟨inductionHypothesis frontRead, fun c charIn => ?_⟩
      rw [List.mem_singleton.1 charIn]
      exact mem_hexAlphabet_of_hexDigit? lastRead

/-! ## Digits of UUIDs -/

/-- The digits of a UUID, of either case. -/
structure AreDigits (digits : List Char) : Prop where
  length : digits.length = 32
  areHex : ∀ c ∈ digits, c ∈ hexAlphabet

theorem AreDigits.filter_hyphenate {digits : List Char} (areDigits : AreDigits digits) :
    (hyphenate digits).filter (· ≠ '-') = digits :=
  Uuid.filter_hyphenate fun c charIn =>
    ne_hyphen_of_mem_hexAlphabet c (areDigits.areHex c charIn)

/-- A UUID is told by its digits. -/
theorem eq_of_digits {left right : Uuid} (same : left.digits = right.digits) : left = right := by
  have read (uuid : Uuid) : hexValue? uuid.digits = some uuid.value :=
    hexValue?_hexDigits uuid.value_lt
  have values := read left
  rw [same, read right] at values
  cases left
  cases right
  cases values
  rfl

theorem ofDigits?_eq_some_iff (digits : List Char) (uuid : Uuid) :
    ofDigits? digits = some uuid ↔
      AreDigits digits ∧ uuid.digits = digits.map Char.toLower := by
  unfold ofDigits?
  constructor
  · intro read
    obtain ⟨length, read⟩ := Option.ite_none_right_eq_some.1 read
    obtain ⟨value, valueRead, read⟩ := Option.bind_eq_some_iff.1 read
    obtain ⟨small, read⟩ := Option.dite_none_right_eq_some.1 read
    cases read
    have areHex := mem_hexAlphabet_of_hexValue? valueRead
    obtain ⟨again, _, againRead, written⟩ := exists_hexValue? areHex
    cases againRead.symm.trans valueRead
    rw [length] at written
    exact ⟨⟨length, areHex⟩, written⟩
  · rintro ⟨areDigits, same⟩
    obtain ⟨value, small, valueRead, written⟩ := exists_hexValue? areDigits.areHex
    rw [areDigits.length] at small written
    have inRange : value < limit := small
    rw [if_pos areDigits.length, valueRead, Option.bind_some, dif_pos inRange, Option.some_inj]
    exact eq_of_digits (written.trans same.symm)

theorem ofHyphenated?_eq_some_iff (text : List Char) (uuid : Uuid) :
    ofHyphenated? text = some uuid ↔ ∃ digits, AreDigits digits ∧ text = hyphenate digits ∧
      uuid.digits = digits.map Char.toLower := by
  unfold ofHyphenated?
  constructor
  · intro read
    obtain ⟨shape, read⟩ := Option.ite_none_right_eq_some.1 read
    obtain ⟨areDigits, same⟩ := (ofDigits?_eq_some_iff _ uuid).1 read
    exact ⟨_, areDigits, shape, same⟩
  · rintro ⟨digits, areDigits, rfl, same⟩
    dsimp only
    rw [areDigits.filter_hyphenate, if_pos rfl]
    exact (ofDigits?_eq_some_iff digits uuid).2 ⟨areDigits, same⟩

/-! ## Forms -/

/-- The ways in which digits are written as a UUID. -/
inductive IsForm (digits : List Char) : List Char → Prop
  | simple : IsForm digits digits
  | hyphenated : IsForm digits (hyphenate digits)
  | braced : IsForm digits ('{' :: hyphenate digits ++ ['}'])
  /-- The hyphenated form after `urn:uuid:`, in any case. -/
  | urn (scheme : List Char) (isUrn : scheme.map Char.toLower = "urn:uuid:".toList) :
      IsForm digits (scheme ++ hyphenate digits)

theorem ofDigits?_eq_none {text : List Char} (length : text.length ≠ 32) :
    ofDigits? text = none :=
  if_neg length

theorem ofHyphenated?_eq_none {text : List Char} (length : text.length ≠ 36) :
    ofHyphenated? text = none := by
  rw [Option.eq_none_iff_forall_ne_some]
  intro uuid read
  obtain ⟨digits, areDigits, rfl, _⟩ := (ofHyphenated?_eq_some_iff text uuid).1 read
  exact length (length_hyphenate areDigits.length)

theorem unbraced?_eq_some_iff (text inside : List Char) :
    unbraced? text = some inside ↔ text = '{' :: inside ++ ['}'] := by
  unfold unbraced?
  constructor
  · intro opened
    split at opened
    · obtain ⟨closed, opened⟩ := Option.ite_none_right_eq_some.1 opened
      cases opened
      rw [List.cons_append, List.dropLast_append_getLast? '}' closed]
    · cases opened
  · rintro rfl
    simp

theorem afterUrn?_eq_some_iff (text rest : List Char) :
    afterUrn? text = some rest ↔
      ∃ scheme : List Char,
        scheme.map Char.toLower = "urn:uuid:".toList ∧ text = scheme ++ rest := by
  unfold afterUrn?
  constructor
  · intro named
    obtain ⟨isUrn, named⟩ := Option.ite_none_right_eq_some.1 named
    cases named
    exact ⟨text.take 9, isUrn, (List.take_append_drop 9 text).symm⟩
  · rintro ⟨scheme, isUrn, rfl⟩
    have nine : scheme.length = 9 := by
      rw [← List.length_map Char.toLower, isUrn]
      rfl
    rw [List.take_left' nine, List.drop_left' nine, if_pos isUrn]

/-- A text is read as a UUID exactly when it is one of the forms of 32 digits, which are then those
of the UUID in lower case. -/
theorem ofText?_eq_some_iff (text : String) (uuid : Uuid) :
    ofText? text = some uuid ↔ ∃ digits, AreDigits digits ∧ IsForm digits text.toList ∧
      uuid.digits = digits.map Char.toLower := by
  unfold ofText?
  simp only [Option.or_eq_some_iff]
  constructor
  · rintro (read | ⟨_, read | ⟨_, read | ⟨_, read⟩⟩⟩)
    · obtain ⟨areDigits, same⟩ := (ofDigits?_eq_some_iff _ uuid).1 read
      exact ⟨_, areDigits, .simple, same⟩
    · obtain ⟨digits, areDigits, shape, same⟩ := (ofHyphenated?_eq_some_iff _ uuid).1 read
      exact ⟨digits, areDigits, shape ▸ .hyphenated, same⟩
    · obtain ⟨inside, opened, read⟩ := Option.bind_eq_some_iff.1 read
      obtain ⟨digits, areDigits, rfl, same⟩ := (ofHyphenated?_eq_some_iff _ uuid).1 read
      exact ⟨digits, areDigits, (unbraced?_eq_some_iff _ _).1 opened ▸ .braced, same⟩
    · obtain ⟨rest, named, read⟩ := Option.bind_eq_some_iff.1 read
      obtain ⟨digits, areDigits, rfl, same⟩ := (ofHyphenated?_eq_some_iff _ uuid).1 read
      obtain ⟨scheme, isUrn, shape⟩ := (afterUrn?_eq_some_iff _ _).1 named
      exact ⟨digits, areDigits, shape ▸ .urn scheme isUrn, same⟩
  · -- The forms differ in their lengths, so the earlier readers refuse a later form.
    rintro ⟨digits, areDigits, form, same⟩
    have hyphenated := (ofHyphenated?_eq_some_iff _ uuid).2 ⟨digits, areDigits, rfl, same⟩
    have long := length_hyphenate areDigits.length
    generalize text.toList = chars at form
    cases form with
    | simple => exact .inl ((ofDigits?_eq_some_iff digits uuid).2 ⟨areDigits, same⟩)
    | hyphenated => exact .inr ⟨ofDigits?_eq_none (by omega), .inl hyphenated⟩
    | braced =>
        have length : ('{' :: hyphenate digits ++ ['}']).length = 38 := by simp [long]
        refine .inr ⟨ofDigits?_eq_none (by omega), .inr ⟨ofHyphenated?_eq_none (by omega), .inl ?_⟩⟩
        rw [(unbraced?_eq_some_iff _ _).2 rfl]
        exact hyphenated
    | urn scheme isUrn =>
        have nine : scheme.length = 9 := by
          rw [← List.length_map Char.toLower, isUrn]
          rfl
        have length : (scheme ++ hyphenate digits).length = 45 := by simp [nine, long]
        have notBraced : unbraced? (scheme ++ hyphenate digits) = none := by
          rw [Option.eq_none_iff_forall_ne_some]
          intro inside opened
          have shape := (unbraced?_eq_some_iff _ _).1 opened
          obtain ⟨first, others, rfl⟩ := List.exists_cons_of_length_eq_add_one nine
          obtain rfl : first = '{' := (List.cons.inj shape).1
          cases isUrn
        refine .inr ⟨ofDigits?_eq_none (by omega), .inr ⟨ofHyphenated?_eq_none (by omega),
          .inr ⟨?_, ?_⟩⟩⟩
        · rw [notBraced]
          rfl
        · rw [(afterUrn?_eq_some_iff _ _).2 ⟨scheme, isUrn, rfl⟩]
          exact hyphenated

end BillingClient.Vocabulary.Uuid
