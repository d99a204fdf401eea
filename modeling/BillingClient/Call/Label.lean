import BillingClient.Call.Operation
import BillingClient.Domain.Label

/-!
Contract: calls about tags and custom fields: their definitions, all of them page by
page, and those of one object.
-/

namespace BillingClient

open BillingClient.Client
open BillingClient.Domain
open BillingClient.Vocabulary

/-- Calls about definitions of tags. -/
inductive TagDefinitionCall where
  | list (audit : AuditLevel)
  | get (id : TagDefinitionId) (audit : AuditLevel)
  | create (definition : TagDefinition)
  | delete (id : TagDefinitionId)

/-- The operation of a call. -/
def TagDefinitionCall.operation : TagDefinitionCall → Operation
  | .list audit => .lookup ["tagDefinitions"] (.audit audit) (.listing TagDefinition.codec)
  | .get id audit =>
    .lookup ["tagDefinitions", id.text] (.audit audit) (.optional TagDefinition.codec)
  | .create definition =>
    .authored "create_tag_definition" (do
        let _ ← required definition.name "name" "create_tag_definition"
        return { Operation.asking .post ["tagDefinitions"] with
          body := some (.json TagDefinition.codec definition)
          followsLocation := true })
      (.required TagDefinition.codec)
  | .delete id =>
    .authored "delete_tag_definition"
      (.ok (Operation.asking .delete ["tagDefinitions", id.text]))
      .unit

/-- Calls about all tags. -/
inductive TagCall where
  | list (page : Page) (audit : AuditLevel)
  | search (key : String) (page : Page) (audit : AuditLevel)

/-- The operation of a call. -/
def TagCall.operation : TagCall → Operation
  | .list page audit =>
    .lookup ["tags", "pagination"] (.page page ++ .audit audit) (.listing Tag.codec)
  | .search key page audit =>
    .lookup ["tags", "search", key] (.page page ++ .audit audit) (.listing Tag.codec)

/-- Calls about all custom fields. -/
inductive CustomFieldCall where
  | list (page : Page) (audit : AuditLevel)
  | search (key : String) (page : Page) (audit : AuditLevel)

/-- The operation of a call. -/
def CustomFieldCall.operation : CustomFieldCall → Operation
  | .list page audit =>
    .lookup ["customFields", "pagination"] (.page page ++ .audit audit)
      (.listing CustomField.codec)
  | .search key page audit =>
    .lookup ["customFields", "search", key] (.page page ++ .audit audit)
      (.listing CustomField.codec)

inductive Taggable where
  | account (id : AccountId)
  | bundle (id : BundleId)
  | subscription (id : SubscriptionId)
  | invoice (id : InvoiceId)
  | payment (id : PaymentId)
deriving DecidableEq, Repr

def Taggable.path : Taggable → List String
  | .account id => ["accounts", id.text]
  | .bundle id => ["bundles", id.text]
  | .subscription id => ["subscriptions", id.text]
  | .invoice id => ["invoices", id.text]
  | .payment id => ["payments", id.text]

/-- An object that has custom fields. -/
inductive Annotatable where
  | taggable (object : Taggable)
  | paymentMethod (id : PaymentMethodId)
deriving DecidableEq, Repr

def Annotatable.path : Annotatable → List String
  | .taggable object => object.path
  | .paymentMethod id => ["paymentMethods", id.text]

/-- Calls about the tags and custom fields of one object. -/
inductive LabelCall where
  | customFields (object : Annotatable) (audit : AuditLevel)
  | addCustomFields (object : Annotatable) (fields : List CustomField)
  | changeCustomFields (object : Annotatable) (fields : List CustomField)
  | deleteCustomFields (object : Annotatable) (ids : List CustomFieldId)
  | tags (object : Taggable) (includesDeleted : Bool) (audit : AuditLevel)
  | addTags (object : Taggable) (definitions : List TagDefinitionId)
  | deleteTags (object : Taggable) (definitions : List TagDefinitionId)

/-- The operation of a call. -/
def LabelCall.operation : LabelCall → Operation
  | .customFields object audit =>
    .lookup (object.path ++ ["customFields"]) (.audit audit) (.listing CustomField.codec)
  | .addCustomFields object fields =>
    .authored "create_custom_fields"
      (.ok { Operation.asking .post (object.path ++ ["customFields"]) with
        body := some (.json CustomField.codec.list fields)
        followsLocation := true })
      (.listing CustomField.codec)
  | .changeCustomFields object fields =>
    .authored "modify_custom_fields" (do
        fields.forM fun field => do
          let _ ← required field.customFieldId "customFieldId" "modify_custom_fields"
        return { Operation.asking .put (object.path ++ ["customFields"]) with
          body := some (.json CustomField.codec.list fields) })
      .unit
  | .deleteCustomFields object ids =>
    .authored "delete_custom_fields"
      (.ok (Operation.asking .delete (object.path ++ ["customFields"])
        (.each "customField" (ids.map Identifier.text))))
      .unit
  | .tags object includesDeleted audit =>
    .lookup (object.path ++ ["tags"])
      (.flag "includedDeleted" includesDeleted ++ .audit audit)
      (.listing Tag.codec)
  | .addTags object definitions =>
    .authored "create_tags"
      (.ok { Operation.asking .post (object.path ++ ["tags"]) with
        body := some (.json (Json.Codec.list Identifier.codec) definitions)
        followsLocation := true })
      (.listing Tag.codec)
  | .deleteTags object definitions =>
    .authored "delete_tags"
      (.ok (Operation.asking .delete (object.path ++ ["tags"])
        (.each "tagDef" (definitions.map Identifier.text))))
      .unit

end BillingClient
