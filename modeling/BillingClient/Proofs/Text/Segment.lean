import BillingClient.Proofs.Text.Percent
import BillingClient.Text.Blank

/-!
Contract: a path segment stands for one text.

A segment is made of unreserved characters and of escapes, one character of the text after the
other, so that it holds neither a mark of a URL nor a blank, and what it holds for a blank or a plus
sign of the text is never taken for the other. Main statement: `encodeSegment_isReversible`.
-/

namespace BillingClient.Text.Form

/-! ## The form of a segment -/

/-- The characters that stand for themselves: letters and digits of ASCII, and four marks. -/
def IsUnreserved (c : Char) : Prop :=
  c.isAlphanum = true ∨ c ∈ ['*', '-', '.', '_']

instance : DecidablePred IsUnreserved :=
  fun _ => inferInstanceAs (Decidable (_ ∨ _))

/-- The digits of an escape. -/
def escapeDigits : List Char :=
  ['0', '1', '2', '3', '4', '5', '6', '7', '8', '9', 'A', 'B', 'C', 'D', 'E', 'F']

/-- A text of unreserved characters, and of escapes with two upper-case digits each. -/
inductive IsSegment : List Char → Prop where
  | nil : IsSegment []
  | kept {c : Char} {rest : List Char} (unreserved : IsUnreserved c) (isRest : IsSegment rest) :
      IsSegment (c :: rest)
  | escaped {high low : Char} {rest : List Char} (highIn : high ∈ escapeDigits)
      (lowIn : low ∈ escapeDigits) (isRest : IsSegment rest) :
      IsSegment ('%' :: high :: low :: rest)

theorem IsSegment.append {left right : List Char} (isLeft : IsSegment left)
    (isRight : IsSegment right) : IsSegment (left ++ right) := by
  induction isLeft with
  | nil => exact isRight
  | kept unreserved _ inductionHypothesis => exact .kept unreserved inductionHypothesis
  | escaped highIn lowIn _ inductionHypothesis => exact .escaped highIn lowIn inductionHypothesis

theorem IsSegment.flatMap {α : Type} {written : α → List Char} {items : List α}
    (each : ∀ item ∈ items, IsSegment (written item)) : IsSegment (items.flatMap written) := by
  induction items with
  | nil => exact .nil
  | cons item items inductionHypothesis =>
      rw [List.forall_mem_cons] at each
      rw [List.flatMap_cons]
      exact each.1.append (inductionHypothesis each.2)

theorem isSegment_escape (byte : UInt8) : IsSegment (Percent.escape byte) := by
  have digits : ∀ value < 16, upperHexDigit value ∈ escapeDigits := by decide
  have bound : byte.toNat < 256 := byte.toNat_lt_size
  exact .escaped (digits _ (by omega)) (digits _ (by omega)) .nil

theorem isSegment_encodeSegment (text : String) : IsSegment (encodeSegment text).toList := by
  unfold encodeSegment
  rw [String.toList_ofList]
  refine IsSegment.flatMap fun c _ => ?_
  unfold Percent.encodeChar
  split
  · rename_i kept
    obtain ⟨ascii, plain⟩ := Bool.and_eq_true_iff.1 kept
    have unreserved : isPlain c = true → IsUnreserved c :=
      forall_ascii (fun c => isPlain c = true → IsUnreserved c) (by decide)
        (of_decide_eq_true ascii)
    exact .kept (unreserved plain) .nil
  · exact IsSegment.flatMap fun byte _ => isSegment_escape byte

/-- A segment holds no mark of a URL and no blank. -/
theorem unmarked_of_mem_encodeSegment {text : String} {c : Char}
    (charIn : c ∈ (encodeSegment text).toList) :
    c ∉ ['/', '?', '#', '+', '\\'] ∧ isBlank c = false := by
  obtain ⟨ascii, plain⟩ := isPlain_or_of_mem_encodeSegment charIn
  exact forall_ascii (fun c => isPlain c = true ∨ c = '%' →
    c ∉ ['/', '?', '#', '+', '\\'] ∧ isBlank c = false) (by decide) ascii plain

/-! ## One character after the other -/

theorem encodeSegment_append (left right : String) :
    encodeSegment (left ++ right) = encodeSegment left ++ encodeSegment right := by
  unfold encodeSegment
  rw [String.toList_append, List.flatMap_append, String.ofList_append]

/-- A segment is the form of its text with `%20` for each `+`. It is made of unreserved characters
and escapes, without a mark of a URL or a blank, and percent-decoding gives back the bytes of the
text, so no two texts have one segment. It is written one character after the other, where a plus
sign and a blank are different escapes. -/
theorem encodeSegment_isReversible :
    (∀ text : String,
      (encodeSegment text).toList =
          (encode text).toList.flatMap (fun c => if c = '+' then ['%', '2', '0'] else [c]) ∧
        IsSegment (encodeSegment text).toList ∧
        (∀ c ∈ (encodeSegment text).toList,
          c ∉ ['/', '?', '#', '+', '\\'] ∧ isBlank c = false) ∧
        Percent.decode (encodeSegment text) = Utf8.encode text) ∧
    (∀ left right : String,
      encodeSegment (left ++ right) = encodeSegment left ++ encodeSegment right) ∧
    encodeSegment "+" = "%2B" ∧ encodeSegment " " = "%20" ∧
    Function.Injective encodeSegment := by
  refine ⟨fun text => ?_, encodeSegment_append, by decide +kernel, by decide +kernel, ?_⟩
  · exact ⟨toList_encodeSegment text, isSegment_encodeSegment text,
      fun c => unmarked_of_mem_encodeSegment, decode_encodeSegment text⟩
  · intro left right same
    exact encodeSegment_inj same

end BillingClient.Text.Form
