import BillingClient.Domain.Registry
import BillingClient.Proofs.Domain.InvoiceItem
import BillingClient.Proofs.Json.FaithfulRecord
import BillingClient.Proofs.Vocabulary.Faithful

/-!
Contract: every model reads back what it writes.

Each model is a record of faithful fields whose names differ. Invoice items are the one
recursive model: the law for items below some height is the instance from which the law
for the next height follows. The two models with an inner payment or transaction are
records side by side in one object.
-/

namespace BillingClient.Domain

open BillingClient.Json
open BillingClient.Vocabulary

/-! ## Audit history and notifications of gateways -/

instance : Codec.Faithful AuditLog.codec :=
  Record.faithful AuditLog.record

instance : Codec.Faithful PluginProperty.codec :=
  Record.faithful PluginProperty.record

instance : Codec.Faithful HostedPaymentPageFields.codec :=
  Record.faithful HostedPaymentPageFields.record

instance : Codec.Faithful HostedPaymentPageFormDescriptor.codec :=
  Record.faithful HostedPaymentPageFormDescriptor.record

instance : Codec.Faithful GatewayNotification.codec :=
  Record.faithful GatewayNotification.record

/-! ## Labels -/

instance : Codec.Faithful Tag.codec :=
  Record.faithful Tag.record

instance : Codec.Faithful TagDefinition.codec :=
  Record.faithful TagDefinition.record

instance : Codec.Faithful CustomField.codec :=
  Record.faithful CustomField.record

/-! ## Prices and the catalog -/

instance : Codec.Faithful Price.codec :=
  Record.faithful Price.record

instance : Codec.Faithful BlockPrice.codec :=
  Record.faithful BlockPrice.record

instance : Codec.Faithful TierPrice.codec :=
  Record.faithful TierPrice.record

instance : Codec.Faithful UsagePrice.codec :=
  Record.faithful UsagePrice.record

instance : Codec.Faithful PhasePrice.codec :=
  Record.faithful PhasePrice.record

instance : Codec.Faithful CatalogDuration.codec :=
  Record.faithful CatalogDuration.record

instance : Codec.Faithful Phase.codec :=
  Record.faithful Phase.record

instance : Codec.Faithful Plan.codec :=
  Record.faithful Plan.record

instance : Codec.Faithful Product.codec :=
  Record.faithful Product.record

instance : Codec.Faithful PriceList.codec :=
  Record.faithful PriceList.record

instance : Codec.Faithful CatalogUnit.codec :=
  Record.faithful CatalogUnit.record

instance : Codec.Faithful Catalog.codec :=
  Record.faithful Catalog.record

instance : Codec.Faithful PlanDetail.codec :=
  Record.faithful PlanDetail.record

/-! ## Payments -/

instance : Codec.Faithful PaymentTransaction.codec :=
  Record.faithful PaymentTransaction.record

instance : Codec.Faithful PaymentAttempt.codec :=
  Record.faithful PaymentAttempt.record

instance : Codec.Faithful Payment.codec :=
  Record.faithful Payment.record

instance : Codec.Faithful Chargeback.codec :=
  Record.faithful Chargeback.record

instance : Codec.Faithful AdminPayment.codec :=
  Record.faithful AdminPayment.record

instance : Codec.Faithful PaymentMethodPluginDetail.codec :=
  Record.faithful PaymentMethodPluginDetail.record

instance : Codec.Faithful PaymentMethod.codec :=
  Record.faithful PaymentMethod.record

/-! ## Invoice items -/

namespace InvoiceItem

mutual

/-- Whether the amounts of an item are each given back by their own text, its audit history
is admissible, and so are its child items. -/
def IsAdmissible : InvoiceItem → Prop
  | { amount, rate, quantity, childItems, auditLogs, .. } =>
    (∀ present, amount = some present → Codec.Admissible .decimal present) ∧
    (∀ present, rate = some present → Codec.Admissible .decimal present) ∧
    (∀ present, quantity = some present → Codec.Admissible .decimal present) ∧
    (∀ log ∈ auditLogs, Codec.Admissible AuditLog.codec log) ∧
    AreAdmissible childItems

/-- Whether some items are all admissible. -/
def AreAdmissible : List InvoiceItem → Prop
  | [] => True
  | item :: rest => item.IsAdmissible ∧ AreAdmissible rest

end

theorem isAdmissible_iff {item : InvoiceItem} : item.IsAdmissible ↔
    (∀ present, item.amount = some present → Codec.Admissible .decimal present) ∧
    (∀ present, item.rate = some present → Codec.Admissible .decimal present) ∧
    (∀ present, item.quantity = some present → Codec.Admissible .decimal present) ∧
    (∀ log ∈ item.auditLogs, Codec.Admissible AuditLog.codec log) ∧
    AreAdmissible item.childItems := by
  cases item
  rw [IsAdmissible]

theorem AreAdmissible.of_mem {item : InvoiceItem} {items : List InvoiceItem}
    (admissible : AreAdmissible items) (member : item ∈ items) : item.IsAdmissible := by
  induction items with
  | nil => cases member
  | cons head rest inductionHypothesis =>
      rw [AreAdmissible] at admissible
      rcases List.mem_cons.1 member with rfl | later
      · exact admissible.1
      · exact inductionHypothesis admissible.2 later

theorem sameAll_eq_beq (left right : List InvoiceItem) : sameAll left right = (left == right) := by
  induction left generalizing right with
  | nil => cases right <;> rfl
  | cons head rest inductionHypothesis =>
      cases right with
      | nil => rfl
      | cons other others =>
          rw [sameAll, inductionHypothesis, List.cons_beq_cons]
          rfl

theorem names_nodup (child : Codec InvoiceItem) : (recordWith child).schema.names.Nodup := by
  have names : (recordWith InvoiceItem.codec).schema.names.Nodup := by decide
  exact names

set_option synthInstance.maxSize 512 in
/-- A record of an item keeps an item if the codec of its child items does. -/
abbrev recordWithFaithful (child : Codec InvoiceItem) [Codec.Faithful child] :
    Codec.Faithful (recordWith child).codec :=
  Record.faithful (recordWith child) (names_nodup child) <| by
    intro again item same
    show InvoiceItem.same again item = true
    cases again
    simp only [InvoiceItem.same, sameAll_eq_beq, Bool.and_eq_true, and_assoc]
    simpa only [Schema.Faithful.Same, and_true] using same

/-- Items below some height are kept. -/
abbrev faithfulBelow (height : Nat)
    (isSound : ∀ item : InvoiceItem, item.height < height → item.IsAdmissible →
      (InvoiceItem.codec.encode item).IsSound)
    (readsBack : ∀ place (item : InvoiceItem), item.height < height → item.IsAdmissible →
      (InvoiceItem.codec.encode item).depth ≤ place.room →
        InvoiceItem.codec.ReadsBack place item) :
    Codec.Faithful InvoiceItem.codec where
  Admissible item := item.height < height ∧ item.IsAdmissible
  encode_ne_null item _ := by
    rw [codec_eq]
    simp [Record.codec]
  isSound item admissible := isSound item admissible.1 admissible.2
  readsBack place item admissible := readsBack place item admissible.1 admissible.2

theorem isSound_and_readsBack (height : Nat) (item : InvoiceItem) (below : item.height < height)
    (admissible : item.IsAdmissible) :
    (InvoiceItem.codec.encode item).IsSound ∧
      ∀ place : Place, (InvoiceItem.codec.encode item).depth ≤ place.room →
        InvoiceItem.codec.ReadsBack place item := by
  induction height generalizing item with
  | zero => omega
  | succ height inductionHypothesis =>
      let _ := faithfulBelow height
        (fun item below admissible => (inductionHypothesis item below admissible).1)
        (fun place item below admissible => (inductionHypothesis item below admissible).2 place)
      let _ := recordWithFaithful InvoiceItem.codec
      have promised : Codec.Admissible (recordWith InvoiceItem.codec).codec item := by
        obtain ⟨amount, rate, quantity, logs, children⟩ := isAdmissible_iff.1 admissible
        have items : ∀ child ∈ item.childItems, child.height < height ∧ child.IsAdmissible := by
          intro child member
          have lower := height_lt_of_mem_childItems member
          exact ⟨by omega, children.of_mem member⟩
        -- every other field takes any value
        repeat first
          | refine ⟨fun _ _ => trivial, ?_⟩
          | refine ⟨amount, ?_⟩
          | refine ⟨rate, ?_⟩
          | refine ⟨quantity, ?_⟩
        exact ⟨items, logs, trivial⟩
      rw [codec_eq]
      exact ⟨Codec.Faithful.isSound item promised,
        fun place => Codec.Faithful.readsBack place item promised⟩

end InvoiceItem

instance : Codec.Faithful InvoiceItem.codec where
  Admissible := InvoiceItem.IsAdmissible
  encode_ne_null item _ := by
    rw [InvoiceItem.codec_eq]
    simp [Record.codec]
  isSound item admissible :=
    (InvoiceItem.isSound_and_readsBack _ item (Nat.lt_succ_self _) admissible).1
  readsBack place item admissible :=
    (InvoiceItem.isSound_and_readsBack _ item (Nat.lt_succ_self _) admissible).2 place

/-! ## Invoices -/

instance : Codec.Faithful Invoice.codec :=
  Record.faithful Invoice.record

instance : Codec.Faithful InvoiceDryRun.codec :=
  Record.faithful InvoiceDryRun.record

instance : Codec.Faithful Credit.codec :=
  Record.faithful Credit.record

instance : Codec.Faithful InvoicePayment.codec :=
  letI := Record.flattenedFaithful InvoicePayment.ownRecord Payment.record
  .ofRefine _ fun again value same => by
    obtain ⟨sameOwn, samePayment⟩ := Bool.and_eq_true_iff.1 same
    exact ⟨_, rfl, Bool.and_eq_true_iff.2 ⟨samePayment, sameOwn⟩⟩

instance : Codec.Faithful InvoicePaymentTransaction.codec :=
  letI := Record.flattenedFaithful InvoicePaymentTransaction.ownRecord PaymentTransaction.record
  .ofRefine _ fun again value same => by
    obtain ⟨sameOwn, sameTransaction⟩ := Bool.and_eq_true_iff.1 same
    exact ⟨_, rfl, Bool.and_eq_true_iff.2 ⟨sameTransaction, sameOwn⟩⟩

/-! ## Entitlements -/

instance : Codec.Faithful EventSubscription.codec :=
  Record.faithful EventSubscription.record

set_option synthInstance.maxSize 512 in
instance : Codec.Faithful Subscription.codec :=
  Record.faithful Subscription.record

instance : Codec.Faithful BundleTimeline.codec :=
  Record.faithful BundleTimeline.record

instance : Codec.Faithful Bundle.codec :=
  Record.faithful Bundle.record

/-! ## Accounts, tenants and usage -/

set_option synthInstance.maxSize 512 in
instance : Codec.Faithful Account.codec :=
  Record.faithful Account.record

instance : Codec.Faithful AccountEmail.codec :=
  Record.faithful AccountEmail.record

instance : Codec.Faithful InvoiceEmail.codec :=
  Record.faithful InvoiceEmail.record

instance : Codec.Faithful AccountTimeline.codec :=
  Record.faithful AccountTimeline.record

instance : Codec.Faithful OverdueState.codec :=
  Record.faithful OverdueState.record

instance : Codec.Faithful Tenant.codec :=
  Record.faithful Tenant.record

instance : Codec.Faithful TenantKeyValue.codec :=
  Record.faithful TenantKeyValue.record

instance : Codec.Faithful UsageRecord.codec :=
  Record.faithful UsageRecord.record

instance : Codec.Faithful UnitUsageRecord.codec :=
  Record.faithful UnitUsageRecord.record

instance : Codec.Faithful SubscriptionUsageRecord.codec :=
  Record.faithful SubscriptionUsageRecord.record

instance : Codec.Faithful RolledUpUnit.codec :=
  Record.faithful RolledUpUnit.record

instance : Codec.Faithful RolledUpUsage.codec :=
  Record.faithful RolledUpUsage.record

end BillingClient.Domain
