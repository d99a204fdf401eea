import BillingClient.Vocabulary.Words

/-!
Contract: every wordlist, by the kind of its words.
-/

namespace BillingClient.Vocabulary

/-- A word as it is read: its spelling and its JSON form. -/
structure Entry where
  spelling : Spelling
  json : Json.Value

/-- A wordlist whose type is left out: its kind, and how a word is read. -/
structure Dictionary where
  kind : String
  parse : String → Except Refusal Entry

def Dictionary.of (α : Type) [Wordlist α] : Dictionary where
  kind := Wordlist.kind α
  parse text := (Wordlist.parse text).map fun (value : α) =>
    ⟨Wordlist.spelling value, Wordlist.codec.encode value⟩

/-- The dictionaries of all wordlists. -/
def Dictionary.all : List Dictionary := [
  .of AuditLevel,
  .of ObjectType,
  .of ProductCategory,
  .of BillingPeriod,
  .of PhaseType,
  .of BillingActionPolicy,
  .of EntitlementActionPolicy,
  .of EntitlementState,
  .of InvoiceStatus,
  .of InvoiceItemType,
  .of TransactionType,
  .of TransactionStatus,
  .of UsageType,
  .of BillingMode,
  .of TierBlockPolicy,
  .of DryRunType
]

end BillingClient.Vocabulary
