import BillingClient.Json.Codec
import BillingClient.Vocabulary.Term
import BillingClient.Vocabulary.Uuid

/-!
Contract: identifiers of the server's objects.

Every object has a UUID, and every kind of object an identifier type of its own, so
that an invoice's identifier is no account's. All kinds share one text, one reader
and one codec.
-/

namespace BillingClient.Vocabulary

/-- The kinds of identified objects. `object` is any of them. -/
inductive ObjectKind where
  | account
  | bundle
  | subscription
  | invoice
  | invoiceItem
  | payment
  | paymentMethod
  | transaction
  | paymentAttempt
  | tag
  | tagDefinition
  | customField
  | credit
  | tenant
  | object
deriving DecidableEq, Repr

/-- The name of the identifier type of a kind. -/
def ObjectKind.label : ObjectKind → String
  | .account => "AccountId"
  | .bundle => "BundleId"
  | .subscription => "SubscriptionId"
  | .invoice => "InvoiceId"
  | .invoiceItem => "InvoiceItemId"
  | .payment => "PaymentId"
  | .paymentMethod => "PaymentMethodId"
  | .transaction => "TransactionId"
  | .paymentAttempt => "PaymentAttemptId"
  | .tag => "TagId"
  | .tagDefinition => "TagDefinitionId"
  | .customField => "CustomFieldId"
  | .credit => "CreditId"
  | .tenant => "TenantId"
  | .object => "ObjectId"

/-- Every kind. -/
def ObjectKind.all : List ObjectKind :=
  [.account, .bundle, .subscription, .invoice, .invoiceItem, .payment, .paymentMethod,
    .transaction, .paymentAttempt, .tag, .tagDefinition, .customField, .credit, .tenant,
    .object]

/-- An identifier of an object of a kind. -/
structure Identifier (kind : ObjectKind) where
  uuid : Uuid
deriving DecidableEq, Repr, Inhabited

namespace Identifier

variable {kind : ObjectKind}

def text (id : Identifier kind) : String :=
  id.uuid.text

/-- The identifier that a text writes, or why there is none. -/
def parse (text : String) : Except Refusal (Identifier kind) :=
  match Uuid.ofText? text with
  | some uuid => .ok ⟨uuid⟩
  | none => .error (.identifier text)

/-- The same identifier without its kind. -/
def toObject (id : Identifier kind) : Identifier .object :=
  ⟨id.uuid⟩

/-- The text that names the type and the identifier. -/
def described (id : Identifier kind) : String :=
  kind.label ++ "(" ++ id.text ++ ")"

def codec : Json.Codec (Identifier kind) :=
  Json.Codec.string.refine (fun text => (parse text).toOption) text

end Identifier

def Uuid.codec : Json.Codec Uuid :=
  Json.Codec.string.refine ofText? text

abbrev AccountId := Identifier .account
abbrev BundleId := Identifier .bundle
abbrev SubscriptionId := Identifier .subscription
abbrev InvoiceId := Identifier .invoice
abbrev InvoiceItemId := Identifier .invoiceItem
abbrev PaymentId := Identifier .payment
abbrev PaymentMethodId := Identifier .paymentMethod
abbrev TransactionId := Identifier .transaction
abbrev PaymentAttemptId := Identifier .paymentAttempt
abbrev TagId := Identifier .tag
abbrev TagDefinitionId := Identifier .tagDefinition
abbrev CustomFieldId := Identifier .customField
abbrev CreditId := Identifier .credit
abbrev TenantId := Identifier .tenant
abbrev ObjectId := Identifier .object

end BillingClient.Vocabulary
