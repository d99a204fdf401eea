import BillingClient.Json.Record
import BillingClient.Vocabulary.Currency
import BillingClient.Vocabulary.Identifier
import BillingClient.Vocabulary.Words

/-!
Contract: the audit history of an object.
-/

namespace BillingClient.Domain

open BillingClient.Calendar
open BillingClient.Json (Codec Map Record Value)
open BillingClient.Number (Decimal)
open BillingClient.Vocabulary

/-- An entry of an audit history: who changed an object, when and why. -/
structure AuditLog where
  changeType : Option String := none
  changeDate : Option Instant := none
  objectType : Option ObjectType := none
  objectId : Option ObjectId := none
  changedBy : Option String := none
  reasonCode : Option String := none
  comments : Option String := none
  userToken : Option String := none
  history : Option Value := none
deriving BEq, Inhabited

/-- The wire form of an entry of an audit history. -/
abbrev AuditLog.record : Record AuditLog where
  schema :=
    .field (.optional "changeType" .string) <|
    .field (.optional "changeDate" .instant) <|
    .field (.optional "objectType" Wordlist.codec) <|
    .field (.optional "objectId" Identifier.codec) <|
    .field (.optional "changedBy" .string) <|
    .field (.optional "reasonCode" .string) <|
    .field (.optional "comments" .string) <|
    .field (.optional "userToken" .string) <|
    .field (.optional "history" .free) <|
    .done
  toRow value := (value.changeType, value.changeDate, value.objectType, value.objectId,
    value.changedBy, value.reasonCode, value.comments, value.userToken, value.history, ())
  ofRow := fun (changeType, changeDate, objectType, objectId, changedBy, reasonCode, comments,
    userToken, history, ()) =>
    { changeType, changeDate, objectType, objectId, changedBy, reasonCode, comments, userToken,
      history }

@[inherit_doc AuditLog.record]
def AuditLog.codec : Codec AuditLog :=
  AuditLog.record.codec

end BillingClient.Domain
