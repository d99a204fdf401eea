import BillingClient.Domain.Gateway

/-!
Contract: payments, their transactions and the attempts behind them.
-/

namespace BillingClient.Domain

open BillingClient.Calendar
open BillingClient.Json (Codec Map Record Value)
open BillingClient.Number (Decimal)
open BillingClient.Vocabulary

structure PaymentTransaction where
  transactionId : Option TransactionId := none
  transactionExternalKey : Option String := none
  paymentId : Option PaymentId := none
  paymentExternalKey : Option String := none
  transactionType : Option TransactionType := none
  amount : Option Decimal := none
  currency : Option Currency := none
  effectiveDate : Option Instant := none
  processedAmount : Option Decimal := none
  processedCurrency : Option Currency := none
  status : Option TransactionStatus := none
  gatewayErrorCode : Option String := none
  gatewayErrorMsg : Option String := none
  firstPaymentReferenceId : Option String := none
  secondPaymentReferenceId : Option String := none
  properties : List PluginProperty := []
  auditLogs : List AuditLog := []
deriving BEq, Inhabited

/-- The wire form of a transaction of a payment. -/
abbrev PaymentTransaction.record : Record PaymentTransaction where
  schema :=
    .field (.optional "transactionId" Identifier.codec) <|
    .field (.optional "transactionExternalKey" .string) <|
    .field (.optional "paymentId" Identifier.codec) <|
    .field (.optional "paymentExternalKey" .string) <|
    .field (.optional "transactionType" Wordlist.codec) <|
    .field (.optional "amount" .decimal) <|
    .field (.optional "currency" Currency.codec) <|
    .field (.optional "effectiveDate" .instant) <|
    .field (.optional "processedAmount" .decimal) <|
    .field (.optional "processedCurrency" Currency.codec) <|
    .field (.optional "status" Wordlist.codec) <|
    .field (.optional "gatewayErrorCode" .string) <|
    .field (.optional "gatewayErrorMsg" .string) <|
    .field (.optional "firstPaymentReferenceId" .string) <|
    .field (.optional "secondPaymentReferenceId" .string) <|
    .field (.list "properties" PluginProperty.codec) <|
    .field (.list "auditLogs" AuditLog.codec) <|
    .done
  toRow value := (value.transactionId, value.transactionExternalKey, value.paymentId,
    value.paymentExternalKey, value.transactionType, value.amount, value.currency,
    value.effectiveDate, value.processedAmount, value.processedCurrency, value.status,
    value.gatewayErrorCode, value.gatewayErrorMsg, value.firstPaymentReferenceId,
    value.secondPaymentReferenceId, value.properties, value.auditLogs, ())
  ofRow := fun (transactionId, transactionExternalKey, paymentId, paymentExternalKey,
    transactionType, amount, currency, effectiveDate, processedAmount, processedCurrency, status,
    gatewayErrorCode, gatewayErrorMsg, firstPaymentReferenceId, secondPaymentReferenceId,
    properties, auditLogs, ()) =>
    { transactionId, transactionExternalKey, paymentId, paymentExternalKey, transactionType,
      amount, currency, effectiveDate, processedAmount, processedCurrency, status,
      gatewayErrorCode, gatewayErrorMsg, firstPaymentReferenceId, secondPaymentReferenceId,
      properties, auditLogs }

@[inherit_doc PaymentTransaction.record]
def PaymentTransaction.codec : Codec PaymentTransaction :=
  PaymentTransaction.record.codec

structure PaymentAttempt where
  accountId : Option AccountId := none
  paymentMethodId : Option PaymentMethodId := none
  paymentExternalKey : Option String := none
  transactionId : Option PaymentAttemptId := none
  transactionExternalKey : Option String := none
  transactionType : Option TransactionType := none
  effectiveDate : Option Instant := none
  stateName : Option String := none
  amount : Option Decimal := none
  currency : Option Currency := none
  pluginName : Option String := none
  pluginProperties : List PluginProperty := []
  auditLogs : List AuditLog := []
deriving BEq, Inhabited

/-- The wire form of an attempt at a transaction. -/
abbrev PaymentAttempt.record : Record PaymentAttempt where
  schema :=
    .field (.optional "accountId" Identifier.codec) <|
    .field (.optional "paymentMethodId" Identifier.codec) <|
    .field (.optional "paymentExternalKey" .string) <|
    .field (.optional "transactionId" Identifier.codec) <|
    .field (.optional "transactionExternalKey" .string) <|
    .field (.optional "transactionType" Wordlist.codec) <|
    .field (.optional "effectiveDate" .instant) <|
    .field (.optional "stateName" .string) <|
    .field (.optional "amount" .decimal) <|
    .field (.optional "currency" Currency.codec) <|
    .field (.optional "pluginName" .string) <|
    .field (.list "pluginProperties" PluginProperty.codec) <|
    .field (.list "auditLogs" AuditLog.codec) <|
    .done
  toRow value := (value.accountId, value.paymentMethodId, value.paymentExternalKey,
    value.transactionId, value.transactionExternalKey, value.transactionType, value.effectiveDate,
    value.stateName, value.amount, value.currency, value.pluginName, value.pluginProperties,
    value.auditLogs, ())
  ofRow := fun (accountId, paymentMethodId, paymentExternalKey, transactionId,
    transactionExternalKey, transactionType, effectiveDate, stateName, amount, currency,
    pluginName, pluginProperties, auditLogs, ()) =>
    { accountId, paymentMethodId, paymentExternalKey, transactionId, transactionExternalKey,
      transactionType, effectiveDate, stateName, amount, currency, pluginName, pluginProperties,
      auditLogs }

@[inherit_doc PaymentAttempt.record]
def PaymentAttempt.codec : Codec PaymentAttempt :=
  PaymentAttempt.record.codec

structure Payment where
  accountId : Option AccountId := none
  paymentId : Option PaymentId := none
  paymentNumber : Option String := none
  paymentExternalKey : Option String := none
  authAmount : Option Decimal := none
  capturedAmount : Option Decimal := none
  purchasedAmount : Option Decimal := none
  refundedAmount : Option Decimal := none
  creditedAmount : Option Decimal := none
  currency : Option Currency := none
  paymentMethodId : Option PaymentMethodId := none
  transactions : List PaymentTransaction := []
  paymentAttempts : List PaymentAttempt := []
  auditLogs : List AuditLog := []
deriving BEq, Inhabited

/-- The wire form of a payment. -/
abbrev Payment.record : Record Payment where
  schema :=
    .field (.optional "accountId" Identifier.codec) <|
    .field (.optional "paymentId" Identifier.codec) <|
    .field (.optional "paymentNumber" .string) <|
    .field (.optional "paymentExternalKey" .string) <|
    .field (.optional "authAmount" .decimal) <|
    .field (.optional "capturedAmount" .decimal) <|
    .field (.optional "purchasedAmount" .decimal) <|
    .field (.optional "refundedAmount" .decimal) <|
    .field (.optional "creditedAmount" .decimal) <|
    .field (.optional "currency" Currency.codec) <|
    .field (.optional "paymentMethodId" Identifier.codec) <|
    .field (.list "transactions" PaymentTransaction.codec) <|
    .field (.list "paymentAttempts" PaymentAttempt.codec) <|
    .field (.list "auditLogs" AuditLog.codec) <|
    .done
  toRow value := (value.accountId, value.paymentId, value.paymentNumber, value.paymentExternalKey,
    value.authAmount, value.capturedAmount, value.purchasedAmount, value.refundedAmount,
    value.creditedAmount, value.currency, value.paymentMethodId, value.transactions,
    value.paymentAttempts, value.auditLogs, ())
  ofRow := fun (accountId, paymentId, paymentNumber, paymentExternalKey, authAmount,
    capturedAmount, purchasedAmount, refundedAmount, creditedAmount, currency, paymentMethodId,
    transactions, paymentAttempts, auditLogs, ()) =>
    { accountId, paymentId, paymentNumber, paymentExternalKey, authAmount, capturedAmount,
      purchasedAmount, refundedAmount, creditedAmount, currency, paymentMethodId, transactions,
      paymentAttempts, auditLogs }

@[inherit_doc Payment.record]
def Payment.codec : Codec Payment :=
  Payment.record.codec

structure Chargeback where
  accountId : Option AccountId := none
  paymentId : Option PaymentId := none
  amount : Option Decimal := none
  currency : Option Currency := none
  effectiveDate : Option Instant := none
  auditLogs : List AuditLog := []
deriving BEq, Inhabited

/-- The wire form of a chargeback of a payment. -/
abbrev Chargeback.record : Record Chargeback where
  schema :=
    .field (.optional "accountId" Identifier.codec) <|
    .field (.optional "paymentId" Identifier.codec) <|
    .field (.optional "amount" .decimal) <|
    .field (.optional "currency" Currency.codec) <|
    .field (.optional "effectiveDate" .instant) <|
    .field (.list "auditLogs" AuditLog.codec) <|
    .done
  toRow value := (value.accountId, value.paymentId, value.amount, value.currency,
    value.effectiveDate, value.auditLogs, ())
  ofRow := fun (accountId, paymentId, amount, currency, effectiveDate, auditLogs, ()) =>
    { accountId, paymentId, amount, currency, effectiveDate, auditLogs }

@[inherit_doc Chargeback.record]
def Chargeback.codec : Codec Chargeback :=
  Chargeback.record.codec

/-- A correction of the state of a payment. -/
structure AdminPayment where
  lastSuccessPaymentState : Option String := none
  currentPaymentStateName : Option String := none
  transactionStatus : Option TransactionStatus := none
deriving BEq, Inhabited

/-- The wire form of a correction of the state of a payment. -/
abbrev AdminPayment.record : Record AdminPayment where
  schema :=
    .field (.optional "lastSuccessPaymentState" .string) <|
    .field (.optional "currentPaymentStateName" .string) <|
    .field (.optional "transactionStatus" Wordlist.codec) <|
    .done
  toRow value := (value.lastSuccessPaymentState, value.currentPaymentStateName,
    value.transactionStatus, ())
  ofRow := fun (lastSuccessPaymentState, currentPaymentStateName, transactionStatus, ()) =>
    { lastSuccessPaymentState, currentPaymentStateName, transactionStatus }

@[inherit_doc AdminPayment.record]
def AdminPayment.codec : Codec AdminPayment :=
  AdminPayment.record.codec

/-- The transactions of a type, in order. -/
def Payment.transactionsOfType (payment : Payment) (type : TransactionType) :
    List PaymentTransaction :=
  payment.transactions.filter (·.transactionType = some type)

end BillingClient.Domain
