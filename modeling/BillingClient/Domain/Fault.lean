import BillingClient.Domain.Audit

/-!
Contract: the failure report of the server.
-/

namespace BillingClient.Domain

open BillingClient.Calendar
open BillingClient.Json (Codec Map Record Value)
open BillingClient.Number (Decimal)
open BillingClient.Vocabulary

/-- A failure as the server describes it. -/
structure BillingException where
  className : Option String := none
  code : Option Int := none
  message : Option String := none
  causeClassName : Option String := none
  causeMessage : Option String := none
  stackTrace : List Value := []
deriving BEq, Inhabited

/-- The wire form of a failure as the server describes it. -/
abbrev BillingException.record : Record BillingException where
  schema :=
    .field (.optional "className" .string) <|
    .field (.optional "code" .int32) <|
    .field (.optional "message" .string) <|
    .field (.optional "causeClassName" .string) <|
    .field (.optional "causeMessage" .string) <|
    .field (.list "stackTrace" .free) <|
    .done
  toRow value := (value.className, value.code, value.message, value.causeClassName,
    value.causeMessage, value.stackTrace, ())
  ofRow := fun (className, code, message, causeClassName, causeMessage, stackTrace, ()) =>
    { className, code, message, causeClassName, causeMessage, stackTrace }

@[inherit_doc BillingException.record]
def BillingException.codec : Codec BillingException :=
  BillingException.record.codec

end BillingClient.Domain
