import BillingClient.Call.Operation
import BillingClient.Domain.Gateway
import BillingClient.Domain.PaymentMethod

/-!
Contract: calls about payment methods and about the gateways that make payments.
-/

namespace BillingClient

open BillingClient.Client
open BillingClient.Domain
open BillingClient.Vocabulary

/-- Calls about payment methods. -/
inductive PaymentMethodCall where
  | get (id : PaymentMethodId) (includesDeleted withPluginInfo : Bool)
      (properties : List (String × String)) (audit : AuditLevel)
  | getByKey (externalKey : String) (includesDeleted withPluginInfo : Bool) (audit : AuditLevel)
  | list (page : Page) (plugin : Option String) (withPluginInfo : Bool) (audit : AuditLevel)
  | search (key : String) (page : Page) (plugin : Option String) (withPluginInfo : Bool)
      (audit : AuditLevel)
  | delete (id : PaymentMethodId) (turnsAutoPayOff isForced : Bool)
      (properties : List (String × String))

namespace PaymentMethodCall

/-- Which payment methods of a page are listed, and with what. -/
def pageQuery (page : Page) (plugin : Option String) (withPluginInfo : Bool)
    (audit : AuditLevel) : Query :=
  .page page ++ .optional "pluginName" plugin ++ .flag "withPluginInfo" withPluginInfo ++
    .audit audit

/-- The operation of a call. -/
def operation : PaymentMethodCall → Operation
  | .get id includesDeleted withPluginInfo properties audit =>
    .lookup ["paymentMethods", id.text]
      (.flag "includedDeleted" includesDeleted ++ .flag "withPluginInfo" withPluginInfo ++
        .pluginProperties properties ++ .audit audit)
      (.optional PaymentMethod.codec)
  | .getByKey externalKey includesDeleted withPluginInfo audit =>
    .lookup ["paymentMethods"]
      (.value "externalKey" externalKey ++ .flag "includedDeleted" includesDeleted ++
        .flag "withPluginInfo" withPluginInfo ++ .audit audit)
      (.optional PaymentMethod.codec)
  | .list page plugin withPluginInfo audit =>
    .lookup ["paymentMethods", "pagination"] (pageQuery page plugin withPluginInfo audit)
      (.listing PaymentMethod.codec)
  | .search key page plugin withPluginInfo audit =>
    .lookup ["paymentMethods", "search", key] (pageQuery page plugin withPluginInfo audit)
      (.listing PaymentMethod.codec)
  | .delete id turnsAutoPayOff isForced properties =>
    .authored "delete_payment_method"
      (.ok (Operation.asking .delete ["paymentMethods", id.text]
        (.flag "deleteDefaultPmWithAutoPayOff" turnsAutoPayOff ++
          .flag "forceDefaultPmDeletion" isForced ++ .pluginProperties properties)))
      .unit

end PaymentMethodCall

/-- Calls about payment gateways. -/
inductive GatewayCall where
  | formDescriptor (fields : HostedPaymentPageFields) (account : AccountId)
      (paymentMethod : Option PaymentMethodId) (properties : List (String × String))
  | notify (notification plugin : String) (properties : List (String × String))

/-- The operation of a call. -/
def GatewayCall.operation : GatewayCall → Operation
  | .formDescriptor fields account paymentMethod properties =>
    .authored "build_form_descriptor"
      (.ok { Operation.asking .post ["paymentGateways", "hosted", "form", account.text]
          (.optional "paymentMethodId" (paymentMethod.map Identifier.text) ++
            .pluginProperties properties) with
        body := some (.json HostedPaymentPageFields.codec fields) })
      (.required HostedPaymentPageFormDescriptor.codec)
  | .notify notification plugin properties =>
    .authored "process_notification"
      (.ok { Operation.asking .post ["paymentGateways", "notification", plugin]
          (.pluginProperties properties) with
        body := some (.plain notification) })
      .raw

end BillingClient
