import BillingClient.Client.Query
import BillingClient.Proofs.Vocabulary.Faithful
import Mathlib.Data.List.Basic

/-!
Contract: days and instants are the same in parameters and in JSON.

A day is one text in both. An instant loses nothing in JSON, and less than a millisecond in a
parameter. Main statement: `moments_readBack`.
-/

namespace BillingClient

open BillingClient.Calendar
open BillingClient.Client
open BillingClient.Json
open BillingClient.Text

/-! ## Texts of days in JSON -/

/-- A string without characters to escape is written as it is. -/
theorem Json.writeString_eq {text : String} (plain : ∀ c ∈ text.toList, escapeChar c = [c]) :
    writeString text = '"' :: text.toList ++ ['"'] := by
  unfold writeString
  rw [List.flatMap_congr plain, List.flatMap_singleton']

theorem Json.escapeChar_padded {width value : Nat} :
    ∀ c ∈ padded width value, escapeChar c = [c] := by
  have every : ∀ digit < 10, escapeChar digit.digitChar = [digit.digitChar] := by decide
  intro c charIn
  rw [padded_eq_map] at charIn
  obtain ⟨digit, digitIn, rfl⟩ := List.mem_map.1 charIn
  exact every digit (paddedDigits_lt digitIn)

/-- A day is written without escapes. -/
theorem Calendar.Date.escapeChar_text (date : Date) :
    ∀ c ∈ date.text.toList, escapeChar c = [c] := by
  have hyphen : escapeChar '-' = ['-'] := by decide
  have plus : escapeChar '+' = ['+'] := by decide
  have year : ∀ c ∈ yearText date.year, escapeChar c = [c] := by
    unfold yearText
    split
    · exact escapeChar_padded
    · rw [List.forall_mem_cons]
      refine ⟨?_, escapeChar_padded⟩
      split
      · exact hyphen
      · exact plus
  unfold text chars
  simp only [String.toList_ofList, List.cons_append, List.append_assoc]
  rw [List.forall_mem_append, List.forall_mem_cons, List.forall_mem_append, List.forall_mem_cons]
  exact ⟨year, hyphen, escapeChar_padded, hyphen, escapeChar_padded⟩

theorem Json.Codec.text_date (date : Date) :
    Codec.date.text date = "\"" ++ date.text ++ "\"" := by
  show String.ofList (writeString date.text) = _
  rw [writeString_eq date.escapeChar_text, ← String.toList_inj, String.toList_ofList,
    String.toList_append, String.toList_append]
  rfl

/-- A codec of strings reads what it writes. -/
theorem Json.Codec.ofBytes?_text_refine {α : Type} {read : String → Option α} {written : α → String}
    {value : α} (same : read (written value) = some value) :
    (Codec.string.refine read written).ofBytes?
      (Utf8.encode ((Codec.string.refine read written).text value)) = some value := by
  rw [Codec.ofBytes?_encode_text]
  show (StringText.string? (.of (written value))).bind read = some value
  rw [StringText.string?_of, Option.bind_some, same]

/-- A day has one text in parameters and in JSON, and either names it. An instant is read from JSON
as it is, and from a parameter without what it has beyond whole milliseconds. -/
theorem moments_readBack :
    (∀ key (date : Date), ∃ written, (Query.date key (some date)).pairs = [(key, written)] ∧
      Codec.date.text date = "\"" ++ written ++ "\"" ∧ Date.ofText? written = some date ∧
      Codec.date.ofBytes? (Utf8.encode (Codec.date.text date)) = some date) ∧
    (∀ instant : Instant,
      Codec.instant.ofBytes? (Utf8.encode (Codec.instant.text instant)) = some instant) ∧
    ∀ key (instant : Instant), ∃ written again,
      (Query.instant key (some instant)).pairs = [(key, written)] ∧
      Instant.ofText? written = some again ∧
      again.date = instant.date ∧ again.second = instant.second ∧
      again.nano % 1000000 = 0 ∧ again.nano ≤ instant.nano ∧
      instant.nano < again.nano + 1000000 := by
  refine ⟨fun key date => ?_, fun instant => ?_, fun key instant => ?_⟩
  · exact ⟨date.text, rfl, Codec.text_date date, date.ofText?_text,
      Codec.ofBytes?_text_refine date.ofText?_text⟩
  · exact Codec.ofBytes?_text_refine instant.ofText?_text
  · refine ⟨instant.text .millis, instant.truncated .millis, rfl,
      instant.ofText?_text_truncated .millis, rfl, rfl, ?_, ?_, ?_⟩
    all_goals
      simp only [Instant.truncated, Instant.Precision.unit]
      omega

end BillingClient
