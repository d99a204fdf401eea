import BillingClient.Domain.Audit

/-!
Contract: tags and custom fields, which any object may carry.
-/

namespace BillingClient.Domain

open BillingClient.Calendar
open BillingClient.Json (Codec Map Record Value)
open BillingClient.Number (Decimal)
open BillingClient.Vocabulary

structure Tag where
  tagId : Option TagId := none
  objectType : Option ObjectType := none
  objectId : Option ObjectId := none
  tagDefinitionId : Option TagDefinitionId := none
  tagDefinitionName : Option String := none
  auditLogs : List AuditLog := []
deriving BEq, Inhabited

/-- The wire form of a tag on an object. -/
abbrev Tag.record : Record Tag where
  schema :=
    .field (.optional "tagId" Identifier.codec) <|
    .field (.optional "objectType" Wordlist.codec) <|
    .field (.optional "objectId" Identifier.codec) <|
    .field (.optional "tagDefinitionId" Identifier.codec) <|
    .field (.optional "tagDefinitionName" .string) <|
    .field (.list "auditLogs" AuditLog.codec) <|
    .done
  toRow value := (value.tagId, value.objectType, value.objectId, value.tagDefinitionId,
    value.tagDefinitionName, value.auditLogs, ())
  ofRow := fun (tagId, objectType, objectId, tagDefinitionId, tagDefinitionName, auditLogs, ()) =>
    { tagId, objectType, objectId, tagDefinitionId, tagDefinitionName, auditLogs }

@[inherit_doc Tag.record]
def Tag.codec : Codec Tag :=
  Tag.record.codec

/-- A tag that objects can carry. -/
structure TagDefinition where
  id : Option TagDefinitionId := none
  isControlTag : Option Bool := none
  name : Option String := none
  description : Option String := none
  applicableObjectTypes : List ObjectType := []
  auditLogs : List AuditLog := []
deriving BEq, Inhabited

/-- The wire form of a tag that objects can carry. -/
abbrev TagDefinition.record : Record TagDefinition where
  schema :=
    .field (.optional "id" Identifier.codec) <|
    .field (.optional "isControlTag" .bool) <|
    .field (.optional "name" .string) <|
    .field (.optional "description" .string) <|
    .field (.list "applicableObjectTypes" Wordlist.codec) <|
    .field (.list "auditLogs" AuditLog.codec) <|
    .done
  toRow value := (value.id, value.isControlTag, value.name, value.description,
    value.applicableObjectTypes, value.auditLogs, ())
  ofRow := fun (id, isControlTag, name, description, applicableObjectTypes, auditLogs, ()) =>
    { id, isControlTag, name, description, applicableObjectTypes, auditLogs }

@[inherit_doc TagDefinition.record]
def TagDefinition.codec : Codec TagDefinition :=
  TagDefinition.record.codec

/-- A named value on an object. -/
structure CustomField where
  customFieldId : Option CustomFieldId := none
  objectId : Option ObjectId := none
  objectType : Option ObjectType := none
  name : Option String := none
  value : Option String := none
  auditLogs : List AuditLog := []
deriving BEq, Inhabited

/-- The wire form of a named value on an object. -/
abbrev CustomField.record : Record CustomField where
  schema :=
    .field (.optional "customFieldId" Identifier.codec) <|
    .field (.optional "objectId" Identifier.codec) <|
    .field (.optional "objectType" Wordlist.codec) <|
    .field (.optional "name" .string) <|
    .field (.optional "value" .string) <|
    .field (.list "auditLogs" AuditLog.codec) <|
    .done
  toRow value := (value.customFieldId, value.objectId, value.objectType, value.name, value.value,
    value.auditLogs, ())
  ofRow := fun (customFieldId, objectId, objectType, name, value, auditLogs, ()) =>
    { customFieldId, objectId, objectType, name, value, auditLogs }

@[inherit_doc CustomField.record]
def CustomField.codec : Codec CustomField :=
  CustomField.record.codec

/-- A custom field with a name and a value. -/
def CustomField.ofStrings (name value : String) : CustomField :=
  { name := some name, value := some value }

end BillingClient.Domain
