import BillingClient.Proofs.Calendar.Instant
import BillingClient.Proofs.Json.Faithful
import BillingClient.Proofs.Vocabulary.Uuid
import BillingClient.Proofs.Vocabulary.Words
import BillingClient.Vocabulary.Currency
import BillingClient.Vocabulary.Identifier

/-!
Contract: the terms of the vocabulary, dates and instants as JSON strings that are read
back. Each value of these types is admissible.
-/

namespace BillingClient.Vocabulary

open BillingClient.Calendar
open BillingClient.Json (Codec)

instance : Codec.Faithful .date :=
  .ofString Date.ofText?_text

instance : Codec.Faithful .instant :=
  .ofString Instant.ofText?_text

instance : Codec.Faithful Uuid.codec :=
  .ofString Uuid.ofText?_text

/-- The text of an identifier names it. -/
theorem Identifier.parse_text {kind : ObjectKind} (id : Identifier kind) :
    parse id.text = .ok id := by
  rw [parse, text, Uuid.ofText?_text]

instance {kind : ObjectKind} : Codec.Faithful (Identifier.codec : Codec (Identifier kind)) :=
  .ofString fun id => by rw [Identifier.parse_text]; rfl

/-- The code of a currency names it. -/
theorem Currency.parse_code (currency : Currency) : parse currency.code = .ok currency := by
  rw [parse, dif_pos currency.isCode]

instance : Codec.Faithful Currency.codec :=
  .ofString fun currency => by rw [Currency.parse_code]; rfl

instance {α : Type} [BEq α] [ReflBEq α] [Wordlist α] [LawfulWordlist α] :
    Codec.Faithful (Wordlist.codec : Codec α) :=
  .ofName Wordlist.ofWord?_word

end BillingClient.Vocabulary
