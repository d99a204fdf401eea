import BillingClient.Json.Reader
import BillingClient.Json.Writer
import BillingClient.Proofs.Number.Shortest
import BillingClient.Proofs.Text.Digits

/-!
Contract: numbers of JSON texts, written and read.

`NumberText.chars` writes the parts of a number, and `readUnsigned_written` reads a
well-formed one back in front of anything that does not go on like a number. The texts
that the writer gives to integers and to binary64 numbers are of this form:
`writeInteger_eq_chars` and `write_eq_chars`.
-/

namespace BillingClient.Json

open BillingClient.Number
open BillingClient.Text
open BillingClient.Text.Utf8 (Symbol)

/-- Characters as symbols to read, before others. -/
def written (chars : List Char) (rest : Input) : Input :=
  chars.map Symbol.char ++ rest

@[simp] theorem written_nil (rest : Input) : written [] rest = rest := rfl

@[simp] theorem written_cons (c : Char) (chars : List Char) (rest : Input) :
    written (c :: chars) rest = .char c :: written chars rest := rfl

theorem written_append (front back : List Char) (rest : Input) :
    written (front ++ back) rest = written front (written back rest) := by
  simp [written]

/-- Whether what is left cannot belong to a number before it. -/
def Input.EndsNumber (rest : Input) : Prop :=
  ∀ c tail, rest = .char c :: tail → decimalDigit? c = none ∧ c ≠ '.' ∧ c ≠ 'e' ∧ c ≠ 'E'

theorem endsNumber_nil : Input.EndsNumber [] := by
  intro c tail starts
  cases starts

theorem endsNumber_cons {c : Char} {tail : Input} (notDigit : decimalDigit? c = none)
    (notMark : c ≠ '.' ∧ c ≠ 'e' ∧ c ≠ 'E') : Input.EndsNumber (.char c :: tail) := by
  intro other rest starts
  cases starts
  exact ⟨notDigit, notMark⟩

/-! ## Digits -/

/-- Whether what is left does not start with a digit. -/
def Input.EndsDigits (rest : Input) : Prop :=
  ∀ c tail, rest = .char c :: tail → decimalDigit? c = none

theorem Input.EndsNumber.endsDigits {rest : Input} (ends : rest.EndsNumber) : rest.EndsDigits :=
  fun c tail starts => (ends c tail starts).1

theorem endsDigits_cons {c : Char} {tail : Input} (notDigit : decimalDigit? c = none) :
    Input.EndsDigits (.char c :: tail) := by
  intro other rest starts
  cases starts
  exact notDigit

private theorem readDigits_none {rest : Input} (ends : rest.EndsDigits) :
    readDigits rest = ([], rest) := by
  unfold readDigits
  split
  · rename_i c tail
    simp only [ends c tail rfl]
  · rfl

theorem readDigits_written {digits : List Nat} {rest : Input}
    (small : ∀ digit ∈ digits, digit < 10) (ends : rest.EndsDigits) :
    readDigits (written (digits.map Nat.digitChar) rest) = (digits, rest) := by
  induction digits with
  | nil => exact readDigits_none ends
  | cons digit others inductionHypothesis =>
      have digitSmall : digit < 10 := small digit (by simp)
      have othersRead := inductionHypothesis
        fun other member => small other (List.mem_cons_of_mem _ member)
      rw [List.map_cons, written_cons, readDigits]
      simp only [decimalDigit?_digitChar digitSmall, othersRead]

theorem readSomeDigits_written {digits : List Nat} {rest : Input}
    (small : ∀ digit ∈ digits, digit < 10) (some : digits ≠ []) (ends : rest.EndsDigits) :
    readSomeDigits (written (digits.map Nat.digitChar) rest) = Option.some (digits, rest) := by
  have notEmpty : digits.isEmpty = false := by
    cases digits with
    | nil => contradiction
    | cons digit others => rfl
  rw [readSomeDigits, readDigits_written small ends]
  simp [notEmpty]

/-! ## Numbers -/

namespace NumberText

/-- A point and the digits after it. -/
def fractionChars : Option (List Nat) → List Char
  | none => []
  | some digits => '.' :: digits.map Nat.digitChar

/-- The mark of an exponent with its sign and digits. -/
def exponentChars : Option (Bool × List Nat) → List Char
  | none => []
  | some (true, digits) => 'e' :: '-' :: digits.map Nat.digitChar
  | some (false, digits) => 'e' :: digits.map Nat.digitChar

/-- A number without its sign. -/
def unsignedChars (text : NumberText) : List Char :=
  text.whole.map Nat.digitChar ++ (fractionChars text.fraction ++ exponentChars text.exponent)

/-- The characters of a number. -/
def chars (text : NumberText) : List Char :=
  (if text.negative then ['-'] else []) ++ text.unsignedChars

/-- Digits that a part of a number may consist of. -/
structure AreDigits (digits : List Nat) : Prop where
  nonempty : digits ≠ []
  small : ∀ digit ∈ digits, digit < 10

/-- Whether the parts make up a number of a JSON text. -/
structure IsWellFormed (text : NumberText) : Prop where
  whole : AreDigits text.whole
  noLeadingZero : text.whole.head? = some 0 → text.whole.length = 1
  fraction : ∀ digits, text.fraction = some digits → AreDigits digits
  exponent : ∀ negative digits, text.exponent = some (negative, digits) → AreDigits digits

end NumberText

open NumberText

theorem readFraction_written {fraction : Option (List Nat)} {rest : Input}
    (digits : ∀ digits, fraction = some digits → AreDigits digits) (ends : rest.EndsDigits)
    (noPoint : ∀ tail, rest ≠ .char '.' :: tail) :
    readFraction (written (fractionChars fraction) rest) = some (fraction, rest) := by
  cases fraction with
  | none =>
      rw [fractionChars, written_nil]
      unfold readFraction
      split
      · rename_i tail
        exact absurd rfl (noPoint tail)
      · rfl
  | some fraction =>
      have areDigits := digits fraction rfl
      rw [fractionChars, written_cons, readFraction,
        readSomeDigits_written areDigits.small areDigits.nonempty ends]
      rfl

theorem readExponent_written {exponent : Option (Bool × List Nat)} {rest : Input}
    (digits : ∀ negative digits, exponent = some (negative, digits) → AreDigits digits)
    (ends : rest.EndsNumber) :
    readExponent (written (exponentChars exponent) rest) = some (exponent, rest) := by
  match exponent with
  | none =>
      rw [exponentChars, written_nil]
      unfold readExponent
      split
      · rename_i tail
        exact absurd rfl (ends 'e' tail rfl).2.2.1
      · rename_i tail
        exact absurd rfl (ends 'E' tail rfl).2.2.2
      · rfl
  | some (true, digits') =>
      have areDigits := digits true digits' rfl
      rw [exponentChars, written_cons, written_cons]
      simp only [readExponent, readSomeDigits_written areDigits.small areDigits.nonempty
        ends.endsDigits, Option.map_some]
  | some (false, digits') =>
      have areDigits := digits false digits' rfl
      have read := readSomeDigits_written areDigits.small areDigits.nonempty ends.endsDigits
      obtain ⟨first, others, shape⟩ := List.exists_cons_of_ne_nil areDigits.nonempty
      have value := decimalDigit?_digitChar (areDigits.small first (by simp [shape]))
      have noSign : first.digitChar ≠ '+' ∧ first.digitChar ≠ '-' := by
        constructor <;> intro same <;> rw [same] at value <;> contradiction
      rw [exponentChars, written_cons]
      simp only [readExponent]
      rw [shape, List.map_cons, written_cons] at read ⊢
      generalize first.digitChar = c at read noSign ⊢
      split
      · rename_i tail starts
        cases starts
        exact absurd rfl noSign.1
      · rename_i tail starts
        cases starts
        exact absurd rfl noSign.2
      · rw [read, Option.map_some]

/-- A well-formed number is read back in front of anything that does not go on like one. -/
theorem readUnsigned_written {text : NumberText} {rest : Input} (wellFormed : text.IsWellFormed)
    (ends : rest.EndsNumber) :
    readUnsigned text.negative (written text.unsignedChars rest) = some (text, rest) := by
  obtain ⟨negative, whole, fraction, exponent⟩ := text
  have exponentEnds : Input.EndsDigits (written (exponentChars exponent) rest) ∧
      ∀ tail, written (exponentChars exponent) rest ≠ .char '.' :: tail := by
    match exponent with
    | none => exact ⟨ends.endsDigits, fun tail starts => (ends '.' tail starts).2.1 rfl⟩
    | some (true, _) => exact ⟨endsDigits_cons (by decide), by simp [exponentChars]⟩
    | some (false, _) => exact ⟨endsDigits_cons (by decide), by simp [exponentChars]⟩
  have fractionEnds : Input.EndsDigits
      (written (fractionChars fraction) (written (exponentChars exponent) rest)) := by
    cases fraction with
    | none => exact exponentEnds.1
    | some _ => exact endsDigits_cons (by decide)
  have leading : ¬ (whole.head? = some 0 ∧ 1 < whole.length) := by
    rintro ⟨zero, long⟩
    have single : whole.length = 1 := wellFormed.noLeadingZero zero
    omega
  simp only [unsignedChars, written_append, readUnsigned,
    readSomeDigits_written wellFormed.whole.small wellFormed.whole.nonempty fractionEnds,
    readFraction_written wellFormed.fraction exponentEnds.1 exponentEnds.2,
    readExponent_written wellFormed.exponent ends, Option.bind_eq_bind, Option.bind_some]
  rw [if_neg (by simpa using leading)]

/-! ## Integers -/

namespace NumberText

/-- An integer as written. -/
def ofInt (value : Int) : NumberText :=
  ⟨value < 0, digitsOf value.natAbs, none, none⟩

theorem ofInt_isWellFormed (value : Int) : (ofInt value).IsWellFormed where
  whole := ⟨digitsOf_ne_nil _, fun _ member => digitsOf_lt member⟩
  noLeadingZero leading := by
    by_cases zero : value.natAbs = 0
    · simp only [ofInt, zero, digitsOf_zero, List.length_singleton]
    · exact absurd leading (head?_digitsOf (Nat.pos_of_ne_zero zero))
  fraction _ shape := by cases shape
  exponent _ _ shape := by cases shape

theorem writeInteger_eq_chars (value : Int) : writeInteger value = (ofInt value).chars := by
  by_cases negative : value < 0 <;>
    simp [writeInteger, chars, unsignedChars, ofInt, fractionChars, exponentChars, negative,
      decimalDigits_eq_map]

/-! ## Binary64 numbers -/

/-- Digits with a point, no exponent. -/
def positional (negative : Bool) (digits : List Nat) (exponent : Int) : NumberText :=
  match exponent with
  | .ofNat zeros => ⟨negative, digits ++ List.replicate zeros 0, some [0], none⟩
  | .negSucc n =>
    let places := n + 1
    if places < digits.length then
      ⟨negative, digits.take (digits.length - places),
        some (digits.drop (digits.length - places)), none⟩
    else ⟨negative, [0], some (List.replicate (places - digits.length) 0 ++ digits), none⟩

/-- Digits with the point after the first one and an exponent. -/
def scientific (negative : Bool) (digits : List Nat) (leading : Int) : NumberText :=
  ⟨negative, digits.take 1, if digits.drop 1 = [] then none else some (digits.drop 1),
    some (leading < 0, paddedDigits 1 leading.natAbs)⟩

/-- A decimal magnitude as written. -/
def ofMagnitude (negative : Bool) (magnitude : DecimalMagnitude) : NumberText :=
  let digits := digitsOf magnitude.digits
  let leading := magnitude.exponent + Int.ofNat digits.length - 1
  if FloatStyle.json.isPositional leading then positional negative digits magnitude.exponent
  else scientific negative digits leading

/-- A binary64 number as written. -/
def ofBinary64 (x : Binary64) : NumberText :=
  if x.units = 0 then ⟨x.negative, [0], some [0], none⟩
  else ofMagnitude x.negative (shortest .toEven x.units)

theorem AreDigits.append {front back : List Nat} (digits : AreDigits front)
    (small : ∀ digit ∈ back, digit < 10) : AreDigits (front ++ back) where
  nonempty := by simp [digits.nonempty]
  small digit member := (List.mem_append.1 member).elim (digits.small digit) (small digit)

private theorem replicate_zero_small (count : Nat) :
    ∀ digit ∈ List.replicate count 0, digit < 10 := by
  intro digit member
  rw [List.eq_of_mem_replicate member]
  decide

private theorem zero_areDigits : AreDigits [0] :=
  ⟨by simp, by simp⟩

theorem positional_isWellFormed (negative : Bool) {digits : List Nat} (exponent : Int)
    (areDigits : AreDigits digits) (leading : digits.head? ≠ some 0) :
    (positional negative digits exponent).IsWellFormed := by
  obtain ⟨first, others, shape⟩ := List.exists_cons_of_ne_nil areDigits.nonempty
  unfold positional
  cases exponent with
  | ofNat zeros =>
      refine ⟨areDigits.append (replicate_zero_small zeros), fun zero => ?_, ?_, ?_⟩
      · rw [shape] at zero leading
        exact absurd zero leading
      · rintro _ ⟨rfl⟩
        exact zero_areDigits
      · rintro _ _ ⟨⟩
  | negSucc n =>
      dsimp only
      split
      · rename_i inside
        have some : digits.take (digits.length - (n + 1)) ≠ [] := by
          simp [shape]
          simp [shape] at inside
          omega
        refine ⟨⟨some, fun digit member => areDigits.small digit (List.mem_of_mem_take member)⟩,
          fun zero => ?_, ?_, ?_⟩
        · have same : (digits.take (digits.length - (n + 1))).head? = digits.head? := by
            rw [List.head?_take, if_neg (by omega)]
          exact absurd (same ▸ zero) leading
        · rintro _ ⟨rfl⟩
          refine ⟨?_, fun digit member => areDigits.small digit (List.mem_of_mem_drop member)⟩
          simp
          omega
        · rintro _ _ ⟨⟩
      · refine ⟨zero_areDigits, fun _ => rfl, ?_, ?_⟩
        · rintro _ ⟨rfl⟩
          refine ⟨by simp [areDigits.nonempty], fun digit member => ?_⟩
          exact (List.mem_append.1 member).elim (replicate_zero_small _ digit)
            (areDigits.small digit)
        · rintro _ _ ⟨⟩

theorem scientific_isWellFormed (negative : Bool) {digits : List Nat} (leading : Int)
    (areDigits : AreDigits digits) : (scientific negative digits leading).IsWellFormed := by
  obtain ⟨first, others, rfl⟩ := List.exists_cons_of_ne_nil areDigits.nonempty
  refine ⟨⟨by simp [scientific], fun digit member => ?_⟩, fun _ => rfl, ?_, ?_⟩
  · exact areDigits.small digit (List.mem_of_mem_take member)
  · intro fraction shape
    simp only [scientific, List.drop_succ_cons, List.drop_zero] at shape
    split at shape
    · contradiction
    · rename_i some
      cases shape
      exact ⟨some, fun digit member => areDigits.small digit (List.mem_cons_of_mem _ member)⟩
  · rintro _ _ ⟨rfl⟩
    exact ⟨paddedDigits_ne_nil _ _, fun _ member => paddedDigits_lt member⟩

theorem ofMagnitude_isWellFormed (negative : Bool) {magnitude : DecimalMagnitude}
    (positive : 0 < magnitude.digits) : (ofMagnitude negative magnitude).IsWellFormed := by
  have areDigits : AreDigits (digitsOf magnitude.digits) :=
    ⟨digitsOf_ne_nil _, fun _ member => digitsOf_lt member⟩
  unfold ofMagnitude
  dsimp only
  split
  · exact positional_isWellFormed _ _ areDigits (head?_digitsOf positive)
  · exact scientific_isWellFormed _ _ areDigits

theorem ofBinary64_isWellFormed (x : Binary64) : (ofBinary64 x).IsWellFormed := by
  unfold ofBinary64
  split
  · refine ⟨zero_areDigits, fun _ => rfl, ?_, ?_⟩
    · rintro _ ⟨rfl⟩
      exact zero_areDigits
    · rintro _ _ ⟨⟩
  · rename_i notZero
    exact ofMagnitude_isWellFormed _ (shortest_digits_pos _ (Nat.pos_of_ne_zero notZero))

private theorem positional_chars (negative : Bool) (digits : List Nat) (exponent : Int) :
    Number.positional true (digits.map Nat.digitChar) exponent =
      (positional negative digits exponent).unsignedChars := by
  unfold Number.positional positional unsignedChars
  cases exponent with
  | ofNat zeros =>
      simp [fractionChars, exponentChars]
      rfl
  | negSucc n =>
      dsimp only
      rw [List.length_map]
      split <;> simp [fractionChars, exponentChars]

private theorem scientific_chars (negative : Bool) {digits : List Nat} (leading : Int)
    (some : digits ≠ []) :
    Number.scientific .json (digits.map Nat.digitChar) leading =
      (scientific negative digits leading).unsignedChars := by
  obtain ⟨first, others, rfl⟩ := List.exists_cons_of_ne_nil some
  unfold Number.scientific scientific unsignedChars
  rw [padded_eq_map]
  cases others <;> by_cases below : leading < 0 <;>
    simp [fractionChars, exponentChars, FloatStyle.json, below]

/-- A number with the sign written before its other characters. -/
theorem chars_of_unsignedChars {text : NumberText} {negative : Bool} {unsigned : List Char}
    (sign : text.negative = negative) (rest : unsigned = text.unsignedChars) :
    (if negative then ['-'] else []) ++ unsigned = text.chars := by
  rw [chars, sign, rest]

private theorem positional_negative (negative : Bool) (digits : List Nat) (exponent : Int) :
    (positional negative digits exponent).negative = negative := by
  unfold positional
  split
  · rfl
  · dsimp only
    split <;> rfl

private theorem magnitude_chars (negative : Bool) (magnitude : DecimalMagnitude) :
    (if negative then ['-'] else []) ++ FloatStyle.json.writeMagnitude magnitude =
      (ofMagnitude negative magnitude).chars := by
  unfold FloatStyle.writeMagnitude ofMagnitude
  dsimp only
  rw [decimalDigits_eq_map, List.length_map]
  by_cases inRange : FloatStyle.json.isPositional
      (magnitude.exponent + Int.ofNat (digitsOf magnitude.digits).length - 1) = true
  · rw [if_pos inRange, if_pos inRange]
    exact chars_of_unsignedChars (positional_negative ..) (positional_chars negative _ _)
  · rw [if_neg inRange, if_neg inRange]
    exact chars_of_unsignedChars rfl (scientific_chars negative _ (digitsOf_ne_nil _))

/-- The text of a binary64 number has the parts of `ofBinary64`. -/
theorem write_eq_chars (x : Binary64) : (FloatStyle.json.write x).toList = (ofBinary64 x).chars := by
  unfold FloatStyle.write ofBinary64
  by_cases zero : x.units = 0
  · rw [if_pos zero, if_pos zero, String.toList_ofList]
    rfl
  · rw [if_neg zero, if_neg zero, String.toList_ofList]
    exact magnitude_chars x.negative _

/-- A number as written. -/
def of : Number → NumberText
  | .integer value => ofInt value
  | .float value => ofBinary64 value

theorem of_isWellFormed (number : Number) : (of number).IsWellFormed := by
  cases number with
  | integer value => exact ofInt_isWellFormed value
  | float value => exact ofBinary64_isWellFormed value

theorem value_chars_number (number : Number) :
    (Value.number number).chars .json = (of number).chars := by
  cases number with
  | integer value => rw [Value.chars, writeInteger_eq_chars, of]
  | float value => rw [Value.chars, write_eq_chars, of]

end NumberText

end BillingClient.Json
