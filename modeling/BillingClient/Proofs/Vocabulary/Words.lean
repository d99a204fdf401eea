import BillingClient.Vocabulary.Words

/-!
Contract: wordlists without gaps or doubles.

`LawfulWordlist` says that every value is listed and that no two values have one word;
`Wordlist.ofWord?_word` is what follows for reading. Every wordlist is lawful.
-/

namespace BillingClient.Vocabulary

/-- A wordlist that lists every value, each with a word of its own. -/
class LawfulWordlist (α : Type) [Wordlist α] : Prop where
  mem_values : ∀ value : α, value ∈ Wordlist.values
  words_nodup : ((Wordlist.values : List α).map Wordlist.word).Nodup

namespace Wordlist

theorem find?_word {α : Type} [Wordlist α] {values : List α} {value : α} (listed : value ∈ values)
    (unique : (values.map word).Nodup) : values.find? (word · = word value) = some value := by
  induction values with
  | nil => cases listed
  | cons head rest inductionHypothesis =>
      obtain ⟨fresh, restUnique⟩ := List.nodup_cons.1 unique
      rcases List.mem_cons.1 listed with rfl | later
      · rw [List.find?_cons_of_pos (by simp)]
      · have other : word head ≠ word value :=
          fun same => fresh (same ▸ List.mem_map_of_mem later)
        rw [List.find?_cons_of_neg (by simpa using other)]
        exact inductionHypothesis later restUnique

/-- The word of a value names it. -/
theorem ofWord?_word {α : Type} [Wordlist α] [LawfulWordlist α] (value : α) :
    ofWord? (word value) = some value :=
  find?_word (LawfulWordlist.mem_values value) LawfulWordlist.words_nodup

end Wordlist

instance : LawfulWordlist AuditLevel where
  mem_values value := by cases value <;> decide
  words_nodup := by decide

instance : LawfulWordlist ObjectType where
  mem_values value := by cases value <;> decide
  words_nodup := by decide

instance : LawfulWordlist ProductCategory where
  mem_values value := by cases value <;> decide
  words_nodup := by decide

instance : LawfulWordlist BillingPeriod where
  mem_values value := by cases value <;> decide
  words_nodup := by decide

instance : LawfulWordlist PhaseType where
  mem_values value := by cases value <;> decide
  words_nodup := by decide

instance : LawfulWordlist BillingActionPolicy where
  mem_values value := by cases value <;> decide
  words_nodup := by decide

instance : LawfulWordlist EntitlementActionPolicy where
  mem_values value := by cases value <;> decide
  words_nodup := by decide

instance : LawfulWordlist EntitlementState where
  mem_values value := by cases value <;> decide
  words_nodup := by decide

instance : LawfulWordlist InvoiceStatus where
  mem_values value := by cases value <;> decide
  words_nodup := by decide

instance : LawfulWordlist InvoiceItemType where
  mem_values value := by cases value <;> decide
  words_nodup := by decide

instance : LawfulWordlist TransactionType where
  mem_values value := by cases value <;> decide
  words_nodup := by decide

instance : LawfulWordlist TransactionStatus where
  mem_values value := by cases value <;> decide
  words_nodup := by decide

instance : LawfulWordlist UsageType where
  mem_values value := by cases value <;> decide
  words_nodup := by decide

instance : LawfulWordlist BillingMode where
  mem_values value := by cases value <;> decide
  words_nodup := by decide

instance : LawfulWordlist TierBlockPolicy where
  mem_values value := by cases value <;> decide
  words_nodup := by decide

instance : LawfulWordlist DryRunType where
  mem_values value := by cases value <;> decide
  words_nodup := by decide

end BillingClient.Vocabulary
