import BillingClient.Call.Operation
import BillingClient.Domain.Tenant

/-!
Contract: calls about tenants and their settings.
-/

namespace BillingClient

open BillingClient.Client
open BillingClient.Domain
open BillingClient.Vocabulary

/-- Calls about tenants. -/
inductive TenantCall where
  | create (tenant : Tenant) (usesGlobalDefault : Bool)
  | get (id : TenantId)
  | getByApiKey (apiKey : String)
  | registerCallback (callback : String)
  | callbacks
  | deleteCallbacks
  | uploadPluginConfiguration (plugin configuration : String)
  | pluginConfiguration (plugin : String)
  | deletePluginConfiguration (plugin : String)

namespace TenantCall

/-- The path of the callbacks of a tenant. -/
def callbackPath : List String :=
  ["tenants", "registerNotificationCallback"]

/-- The path of the configuration of a plugin. -/
def pluginPath (plugin : String) : List String :=
  ["tenants", "uploadPluginConfig", plugin]

/-- The operation of a call. -/
def operation : TenantCall → Operation
  | .create tenant usesGlobalDefault =>
    .authored "create_tenant" (do
        let _ ← required tenant.apiKey "apiKey" "create_tenant"
        let _ ← required tenant.apiSecret "apiSecret" "create_tenant"
        return { Operation.asking .post ["tenants"]
            (.flag "useGlobalDefault" usesGlobalDefault) with
          body := some (.json Tenant.codec tenant)
          followsLocation := true })
      (.required Tenant.codec)
  | .get id => .lookup ["tenants", id.text] {} (.optional Tenant.codec)
  | .getByApiKey apiKey =>
    .lookup ["tenants"] (.value "apiKey" apiKey) (.optional Tenant.codec)
  | .registerCallback callback =>
    .authored "register_push_notification_callback"
      (.ok { Operation.asking .post callbackPath (.value "cb" callback) with
        followsLocation := true })
      (.required TenantKeyValue.codec)
  | .callbacks => .lookup callbackPath {} (.optional TenantKeyValue.codec)
  | .deleteCallbacks =>
    .authored "delete_push_notification_callbacks"
      (.ok (Operation.asking .delete callbackPath))
      .unit
  | .uploadPluginConfiguration plugin configuration =>
    .authored "upload_plugin_configuration"
      (.ok { Operation.asking .post (pluginPath plugin) with
        body := some (.plain configuration)
        followsLocation := true })
      (.required TenantKeyValue.codec)
  | .pluginConfiguration plugin =>
    .lookup (pluginPath plugin) {} (.optional TenantKeyValue.codec)
  | .deletePluginConfiguration plugin =>
    .authored "delete_plugin_configuration"
      (.ok (Operation.asking .delete (pluginPath plugin)))
      .unit

end TenantCall

end BillingClient
