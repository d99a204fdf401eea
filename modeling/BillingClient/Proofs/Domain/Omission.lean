import BillingClient.Proofs.Domain.Reading
import BillingClient.Proofs.Json.Omission

/-!
Contract: what every model leaves out of its objects.

`WireModel.OmitsAbsent` follows a value through its fields, lists and maps down to the plain
values: each object of a model that is met has the members of the held fields and no other, and
none of them is `null` unless it is a free value. `WireModel.Omits` is the law for all values of
a type, found from the fields of its record. Main statement: `WireModel.omits_of_mem`.
-/

namespace BillingClient.Domain

open BillingClient.Json
open BillingClient.Vocabulary

namespace WireModel

/-! ## Values that leave out what is absent -/

/-- Whether what is written for a value has, in each object of a model and at every depth, the
members of the fields that are held and no others, and no `null` but in a free value. -/
inductive OmitsAbsent : {α : Type} → Codec α → α → Prop
  | scalar {α : Type} {codec : Codec α} {value : α} (isScalar : (codec.encode value).IsScalar) :
      OmitsAbsent codec value
  | free (value : Value) : OmitsAbsent .free value
  | present {α : Type} {codec : Codec α} {value : α} (inside : OmitsAbsent codec value) :
      OmitsAbsent codec.nullable (some value)
  | list {α : Type} {codec : Codec α} {values : List α}
      (inside : ∀ value ∈ values, OmitsAbsent codec value) : OmitsAbsent codec.list values
  | map {α : Type} {codec : Codec α} {map : Map α}
      (inside : ∀ entry ∈ map.entries, OmitsAbsent codec entry.2) : OmitsAbsent codec.map map
  | object {model : WireModel} {value : model.Carrier} {members : List (String × Value)}
      (listed : model ∈ all) (encoded : model.codec.encode value = .object members)
      (writes : model.form.WritesHeld value members)
      (null : ∀ cell ∈ model.form.wireCells value, cell.field.IsHeld cell.value →
        cell.field.codec.encode cell.value = .null → cell.field.HoldsFreeNull cell.value)
      (inside : ∀ cell ∈ model.form.wireCells value, cell.field.IsHeld cell.value →
        OmitsAbsent cell.field.codec cell.value) : OmitsAbsent model.codec value

/-- Whether a value is a free `null`. -/
inductive IsFreeNull : {α : Type} → Codec α → α → Prop
  | mk : IsFreeNull .free .null

/-- A type whose values all leave out what is absent. -/
class Omits {α : Type} (codec : Codec α) : Prop where
  omitsAbsent : ∀ value, OmitsAbsent codec value
  isFreeNull : ∀ value, codec.encode value = .null → IsFreeNull codec value

/-! ## Plain types, lists and maps -/

namespace Omits

variable {α : Type}

theorem ofScalar {codec : Codec α} (isScalar : ∀ value, (codec.encode value).IsScalar) :
    Omits codec where
  omitsAbsent value := .scalar (isScalar value)
  isFreeNull value null := by
    have scalar := isScalar value
    rw [null] at scalar
    cases scalar

instance : Omits .bool := .ofScalar .bool

instance : Omits .string := .ofScalar .string

instance : Omits .int32 := .ofScalar fun value => .number (.integer value)

instance : Omits .decimal := .ofScalar fun value => .number (.float value.toBinary64)

instance : Omits .date := .ofScalar fun value => .string value.text

instance : Omits .instant := .ofScalar fun value => .string (value.text .exact)

instance {kind : ObjectKind} : Omits (Identifier.codec : Codec (Identifier kind)) :=
  .ofScalar fun value => .string value.text

instance : Omits Uuid.codec := .ofScalar fun value => .string value.text

instance : Omits Currency.codec := .ofScalar fun value => .string value.code

instance [Wordlist α] : Omits (Wordlist.codec : Codec α) :=
  .ofScalar fun _ => .string _

instance : Omits .free where
  omitsAbsent := .free
  isFreeNull value null := by
    obtain rfl : value = .null := null
    exact .mk

instance (codec : Codec α) [Omits codec] : Omits codec.list where
  omitsAbsent _ := .list fun value _ => omitsAbsent value
  isFreeNull _ null := by cases null

instance (codec : Codec α) [Omits codec] : Omits codec.map where
  omitsAbsent _ := .map fun entry _ => omitsAbsent entry.2
  isFreeNull _ null := by cases null

end Omits

/-! ## Fields and records -/

/-- Whether a field, if its value is held, is written without what is absent inside. -/
structure FieldOmits {α : Type} (field : Json.Field α) (value : α) : Prop where
  omitsAbsent : field.IsHeld value → OmitsAbsent field.codec value
  holdsFreeNull : field.IsHeld value → field.codec.encode value = .null →
    field.HoldsFreeNull value

/-- A field that is always written so. -/
class OmitsField {α : Type} (field : Json.Field α) : Prop where
  fieldOmits : ∀ value, FieldOmits field value

namespace OmitsField

variable {α : Type} (name : String) (codec : Codec α) [Omits codec]

instance : OmitsField (.optional name codec) where
  fieldOmits value := by
    cases value with
    | none =>
        have absent := Field.not_isHeld_none name codec
        exact ⟨fun held => absurd held absent, fun held => absurd held absent⟩
    | some value =>
        refine ⟨fun _ => .present (Omits.omitsAbsent value), fun _ null => ?_⟩
        obtain ⟨⟩ := Omits.isFreeNull value null
        exact .mk name

instance : OmitsField (.list name codec) where
  fieldOmits values :=
    ⟨fun _ => .list fun value _ => Omits.omitsAbsent value, fun _ null => by cases null⟩

instance : OmitsField (.fullList name codec) where
  fieldOmits values :=
    ⟨fun _ => .list fun value _ => Omits.omitsAbsent value, fun _ null => by cases null⟩

instance : OmitsField (.map name codec) where
  fieldOmits map :=
    ⟨fun _ => .map fun entry _ => Omits.omitsAbsent entry.2, fun _ null => by cases null⟩

end OmitsField

/-- Whether all fields of a row are written without what is absent inside. -/
def RowOmits {ρ : Type} (schema : Schema ρ) (row : ρ) : Prop :=
  ∀ isInner, ∀ cell ∈ schema.wireCells isInner row, FieldOmits cell.field cell.value

theorem rowOmits_done : RowOmits .done () := by
  rintro isInner cell ⟨⟩

theorem rowOmits_field {α ρ : Type} {first : Json.Field α} {rest : Schema ρ} {value : α} {row : ρ}
    (firstOmits : FieldOmits first value) (restOmits : RowOmits rest row) :
    RowOmits (.field first rest) (value, row) := by
  intro isInner
  rw [Schema.wireCells, List.forall_mem_cons]
  exact ⟨firstOmits, restOmits isInner⟩

/-- A record whose fields are all always written so. -/
class OmitsSchema {ρ : Type} (schema : Schema ρ) : Prop where
  rowOmits : ∀ row, RowOmits schema row

namespace OmitsSchema

instance : OmitsSchema .done where
  rowOmits _ := rowOmits_done

instance {α ρ : Type} (first : Json.Field α) (rest : Schema ρ) [OmitsField first] [OmitsSchema rest] :
    OmitsSchema (.field first rest) where
  rowOmits row := rowOmits_field (OmitsField.fieldOmits row.1) (OmitsSchema.rowOmits row.2)

end OmitsSchema

/-! ## Models -/

/-- Whether all fields that a value holds are written without what is absent inside. -/
def FormOmits {σ : Type} (form : WireForm σ) (value : σ) : Prop :=
  ∀ cell ∈ form.wireCells value, FieldOmits cell.field cell.value

/-- A wire form whose fields are all always written so. -/
class OmitsForm {σ : Type} (form : WireForm σ) : Prop where
  formOmits : ∀ value, FormOmits form value

namespace OmitsForm

instance {σ : Type} (record : Record σ) [OmitsSchema record.schema] : OmitsForm (.plain record) where
  formOmits value := OmitsSchema.rowOmits (record.toRow value) false

instance {σ ω ι : Type} (outer : Record ω) (inner : Record ι) (join : ω × ι → σ)
    (split : σ → ω × ι) (join_split : ∀ value, join (split value) = value)
    (split_join : ∀ pair, split (join pair) = pair)
    (strings : Schema.ReadsCollected inner.schema) [OmitsSchema outer.schema]
    [OmitsSchema inner.schema] :
    OmitsForm (.joined outer inner join split join_split split_join strings) where
  formOmits value := by
    unfold FormOmits WireForm.wireCells
    rw [List.forall_mem_append]
    exact ⟨OmitsSchema.rowOmits _ false, OmitsSchema.rowOmits _ true⟩

end OmitsForm

theorem omitsAbsent_of_formOmits {model : WireModel} (listed : model ∈ all)
    {value : model.Carrier} (formOmits : FormOmits model.form value) :
    OmitsAbsent model.codec value := by
  obtain ⟨members, encoded, writes⟩ :=
    model.form.exists_writesHeld model.names_nodup model.isWire value
  rw [← model.codec_eq] at encoded
  exact .object listed encoded writes
    (fun cell cellIn => (formOmits cell cellIn).holdsFreeNull)
    (fun cell cellIn => (formOmits cell cellIn).omitsAbsent)

theorem encode_ne_null (model : WireModel) (value : model.Carrier) :
    model.codec.encode value ≠ .null := by
  rw [model.codec_eq, WireForm.encode_eq_object]
  exact nofun

/-- A model whose fields are all always written so. -/
theorem omits (model : WireModel) [OmitsForm model.form]
    (listed : model ∈ all := by
      repeat first
        | exact .head _
        | refine .tail _ ?_) : Omits model.codec where
  omitsAbsent value := omitsAbsent_of_formOmits listed (OmitsForm.formOmits value)
  isFreeNull value null := absurd null (model.encode_ne_null value)

end WireModel

open WireModel

/-! ## Audit history and notifications of gateways -/

instance : Omits AuditLog.codec :=
  omits (.ofRecord "AuditLog" AuditLog.codec AuditLog.record)

instance : Omits PluginProperty.codec :=
  omits (.ofRecord "PluginProperty" PluginProperty.codec PluginProperty.record)

instance : Omits HostedPaymentPageFields.codec :=
  omits (.ofRecord "HostedPaymentPageFields" HostedPaymentPageFields.codec
    HostedPaymentPageFields.record)

instance : Omits HostedPaymentPageFormDescriptor.codec :=
  omits (.ofRecord "HostedPaymentPageFormDescriptor" HostedPaymentPageFormDescriptor.codec
    HostedPaymentPageFormDescriptor.record)

instance : Omits GatewayNotification.codec :=
  omits (.ofRecord "GatewayNotification" GatewayNotification.codec GatewayNotification.record)

/-! ## Labels -/

instance : Omits Tag.codec :=
  omits (.ofRecord "Tag" Tag.codec Tag.record)

instance : Omits TagDefinition.codec :=
  omits (.ofRecord "TagDefinition" TagDefinition.codec TagDefinition.record)

instance : Omits CustomField.codec :=
  omits (.ofRecord "CustomField" CustomField.codec CustomField.record)

/-! ## Prices and the catalog -/

instance : Omits Price.codec :=
  omits (.ofRecord "Price" Price.codec Price.record)

instance : Omits BlockPrice.codec :=
  omits (.ofRecord "BlockPrice" BlockPrice.codec BlockPrice.record)

instance : Omits TierPrice.codec :=
  omits (.ofRecord "TierPrice" TierPrice.codec TierPrice.record)

instance : Omits UsagePrice.codec :=
  omits (.ofRecord "UsagePrice" UsagePrice.codec UsagePrice.record)

instance : Omits PhasePrice.codec :=
  omits (.ofRecord "PhasePrice" PhasePrice.codec PhasePrice.record)

instance : Omits CatalogDuration.codec :=
  omits (.ofRecord "CatalogDuration" CatalogDuration.codec CatalogDuration.record)

instance : Omits Phase.codec :=
  omits (.ofRecord "Phase" Phase.codec Phase.record)

instance : Omits Plan.codec :=
  omits (.ofRecord "Plan" Plan.codec Plan.record)

instance : Omits Product.codec :=
  omits (.ofRecord "Product" Product.codec Product.record)

instance : Omits PriceList.codec :=
  omits (.ofRecord "PriceList" PriceList.codec PriceList.record)

instance : Omits CatalogUnit.codec :=
  omits (.ofRecord "Unit" CatalogUnit.codec CatalogUnit.record)

instance : Omits Catalog.codec :=
  omits (.ofRecord "Catalog" Catalog.codec Catalog.record)

instance : Omits PlanDetail.codec :=
  omits (.ofRecord "PlanDetail" PlanDetail.codec PlanDetail.record)

/-! ## Payments -/

instance : Omits PaymentTransaction.codec :=
  omits (.ofRecord "PaymentTransaction" PaymentTransaction.codec PaymentTransaction.record)

instance : Omits PaymentAttempt.codec :=
  omits (.ofRecord "PaymentAttempt" PaymentAttempt.codec PaymentAttempt.record)

instance : Omits Payment.codec :=
  omits (.ofRecord "Payment" Payment.codec Payment.record)

instance : Omits Chargeback.codec :=
  omits (.ofRecord "Chargeback" Chargeback.codec Chargeback.record)

instance : Omits AdminPayment.codec :=
  omits (.ofRecord "AdminPayment" AdminPayment.codec AdminPayment.record)

instance : Omits PaymentMethodPluginDetail.codec :=
  omits (.ofRecord "PaymentMethodPluginDetail" PaymentMethodPluginDetail.codec
    PaymentMethodPluginDetail.record)

instance : Omits PaymentMethod.codec :=
  omits (.ofRecord "PaymentMethod" PaymentMethod.codec PaymentMethod.record)

/-! ## Invoice items -/

/-- An item leaves out what is absent, and so do its child items. -/
theorem InvoiceItem.omitsAbsent (item : InvoiceItem) : OmitsAbsent InvoiceItem.codec item := by
  have listed : InvoiceItem.wireModel ∈ all := by
    repeat first
      | exact .head _
      | refine .tail _ ?_
  have children : FieldOmits (.list "childItems" InvoiceItem.codec) item.childItems :=
    ⟨fun _ => .list fun child _ => child.omitsAbsent, fun _ null => by cases null⟩
  have row : RowOmits (recordWith InvoiceItem.codec).schema
      ((recordWith InvoiceItem.codec).toRow item) := by
    repeat first
      | exact rowOmits_done
      | refine rowOmits_field children ?_
      | refine rowOmits_field (OmitsField.fieldOmits _) ?_
  exact omitsAbsent_of_formOmits listed (row false)
termination_by item.height
decreasing_by exact height_lt_of_mem_childItems ‹_›

instance : Omits InvoiceItem.codec where
  omitsAbsent := InvoiceItem.omitsAbsent
  isFreeNull item null := absurd null (InvoiceItem.wireModel.encode_ne_null item)

/-! ## Invoices -/

instance : Omits Invoice.codec :=
  omits (.ofRecord "Invoice" Invoice.codec Invoice.record)

instance : Omits InvoiceDryRun.codec :=
  omits (.ofRecord "InvoiceDryRun" InvoiceDryRun.codec InvoiceDryRun.record)

instance : Omits Credit.codec :=
  omits (.ofRecord "Credit" Credit.codec Credit.record)

instance : OmitsForm InvoicePayment.wireModel.form := by
  unfold InvoicePayment.wireModel
  infer_instance

instance : Omits InvoicePayment.wireModel.codec :=
  omits InvoicePayment.wireModel

instance : Omits InvoicePayment.codec :=
  inferInstanceAs (Omits InvoicePayment.wireModel.codec)

instance : OmitsForm InvoicePaymentTransaction.wireModel.form := by
  unfold InvoicePaymentTransaction.wireModel
  infer_instance

instance : Omits InvoicePaymentTransaction.wireModel.codec :=
  omits InvoicePaymentTransaction.wireModel

instance : Omits InvoicePaymentTransaction.codec :=
  inferInstanceAs (Omits InvoicePaymentTransaction.wireModel.codec)

/-! ## Entitlements -/

instance : Omits EventSubscription.codec :=
  omits (.ofRecord "EventSubscription" EventSubscription.codec EventSubscription.record)

instance : Omits Subscription.codec :=
  omits (.ofRecord "Subscription" Subscription.codec Subscription.record)

instance : Omits BundleTimeline.codec :=
  omits (.ofRecord "BundleTimeline" BundleTimeline.codec BundleTimeline.record)

instance : Omits Bundle.codec :=
  omits (.ofRecord "Bundle" Bundle.codec Bundle.record)

/-! ## Accounts, tenants and usage -/

instance : Omits Account.codec :=
  omits (.ofRecord "Account" Account.codec Account.record)

instance : Omits AccountEmail.codec :=
  omits (.ofRecord "AccountEmail" AccountEmail.codec AccountEmail.record)

instance : Omits InvoiceEmail.codec :=
  omits (.ofRecord "InvoiceEmail" InvoiceEmail.codec InvoiceEmail.record)

instance : Omits AccountTimeline.codec :=
  omits (.ofRecord "AccountTimeline" AccountTimeline.codec AccountTimeline.record)

instance : Omits OverdueState.codec :=
  omits (.ofRecord "OverdueState" OverdueState.codec OverdueState.record)

instance : Omits Tenant.codec :=
  omits (.ofRecord "Tenant" Tenant.codec Tenant.record)

instance : Omits TenantKeyValue.codec :=
  omits (.ofRecord "TenantKeyValue" TenantKeyValue.codec TenantKeyValue.record)

instance : Omits UsageRecord.codec :=
  omits (.ofRecord "UsageRecord" UsageRecord.codec UsageRecord.record)

instance : Omits UnitUsageRecord.codec :=
  omits (.ofRecord "UnitUsageRecord" UnitUsageRecord.codec UnitUsageRecord.record)

instance : Omits SubscriptionUsageRecord.codec :=
  omits (.ofRecord "SubscriptionUsageRecord" SubscriptionUsageRecord.codec
    SubscriptionUsageRecord.record)

instance : Omits RolledUpUnit.codec :=
  omits (.ofRecord "RolledUpUnit" RolledUpUnit.codec RolledUpUnit.record)

instance : Omits RolledUpUsage.codec :=
  omits (.ofRecord "RolledUpUsage" RolledUpUsage.codec RolledUpUsage.record)

instance : Omits BillingException.codec :=
  omits (.ofRecord "BillingException" BillingException.codec BillingException.record)

namespace WireModel

/-! ## All models -/

/-- Every value of every model leaves out what is absent. -/
theorem omits_of_mem : ∀ model ∈ all, Omits model.codec := by
  unfold all
  repeat first
    | exact List.forall_mem_nil _
    | refine List.forall_mem_cons.2 ⟨inferInstance, ?_⟩

theorem exists_writesHeld (model : WireModel) (value : model.Carrier) :
    ∃ members, model.codec.encode value = .object members ∧
      model.form.WritesHeld value members := by
  rw [model.codec_eq]
  exact model.form.exists_writesHeld model.names_nodup model.isWire value

/-- The lists that are written even when nothing is in them, by their models. -/
def alwaysWritten : List (String × String) := [
  ("AccountTimeline", "bundles"),
  ("AccountTimeline", "invoices"),
  ("AccountTimeline", "payments"),
  ("BundleTimeline", "events"),
  ("RolledUpUsage", "rolledUpUnits"),
  ("SubscriptionUsageRecord", "unitUsageRecords"),
  ("TenantKeyValue", "values"),
  ("UnitUsageRecord", "usageRecords")
]

theorem forall_isHeld_iff {model : WireModel} (listed : model ∈ all) {wire : WireField}
    (wireIn : wire ∈ model.form.wireFields) :
    (∀ value, wire.field.IsHeld value) ↔ (model.name, wire.field.name) ∈ alwaysWritten := by
  have written : ∀ model ∈ all, ∀ wire ∈ model.form.wireFields,
      wire.field.isOmitted wire.field.absent = false ↔
        (model.name, wire.field.name) ∈ alwaysWritten := by decide +kernel
  rw [Field.forall_isHeld_iff (model.isWire wire wireIn)]
  exact written model listed wire wireIn

/-! ## Names -/

/-- Whether letters and digits go on without two capitals in a row, after a capital or not. -/
def isCamelCaseAfter (capital : Bool) : List UInt8 → Bool
  | [] => true
  | letter :: rest =>
    if 'A'.toNat ≤ letter.toNat ∧ letter.toNat ≤ 'Z'.toNat then
      !capital && isCamelCaseAfter true rest
    else
      (('a'.toNat ≤ letter.toNat ∧ letter.toNat ≤ 'z'.toNat) ∨
        ('0'.toNat ≤ letter.toNat ∧ letter.toNat ≤ '9'.toNat)) && isCamelCaseAfter false rest

/-- Whether a name is in camel case: letters and digits, a letter that is no capital first, and no
two capitals in a row. -/
def isCamelCase (name : String) : Bool :=
  match name.toUTF8.data.toList with
  | [] => false
  | first :: rest =>
    ('a'.toNat ≤ first.toNat ∧ first.toNat ≤ 'z'.toNat) && isCamelCaseAfter false rest

/-- The names of all members are in camel case but one, the credit balance of an account. -/
theorem isCamelCase_name {model : WireModel} (listed : model ∈ all) {name : String}
    (nameIn : name ∈ model.form.names) :
    isCamelCase name = true ∨ (model.name, name) = ("Account", "accountCBA") := by
  have written : ∀ model ∈ all, ∀ name ∈ model.form.names,
      isCamelCase name = true ∨ (model.name, name) = ("Account", "accountCBA") := by
    decide +kernel
  exact written model listed name nameIn

end WireModel

end BillingClient.Domain
