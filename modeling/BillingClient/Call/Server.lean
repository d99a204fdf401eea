import BillingClient.Call.Operation
import BillingClient.Domain.Payment

/-!
Contract: calls that run the server, and calls of its plugins.

Neither needs an author. What a plugin is asked and what it answers is up to the
plugin: the path is taken as it is, and the response is handed on.
-/

namespace BillingClient

open BillingClient.Client
open BillingClient.Domain
open BillingClient.Http
open BillingClient.Vocabulary

/-- Calls that run the server. -/
inductive AdminCall where
  | invalidateCache (name : Option String)
  | invalidateCacheOfAccount (account : AccountId)
  | invalidateCacheOfTenant (apiKey : String)
  | putInRotation
  | putOutOfRotation
  | generateParkedInvoices (page : Page)
  | setTransactionState (state : AdminPayment) (payment : PaymentId)
      (transaction : TransactionId)

/-- The operation of a call. -/
def AdminCall.operation : AdminCall → Operation
  | .invalidateCache name =>
    .free (Operation.asking .delete ["admin", "cache"] (.optional "cacheName" name)) .unit
  | .invalidateCacheOfAccount account =>
    .free (Operation.asking .delete ["admin", "cache", "accounts", account.text]) .unit
  | .invalidateCacheOfTenant apiKey =>
    .free (Operation.asking .delete ["admin", "cache", "tenants"]
      (.value "tenantApiKey" apiKey)) .unit
  | .putInRotation =>
    .free { Operation.asking .post ["admin", "healthcheck"] with followsLocation := true } .unit
  | .putOutOfRotation => .free (Operation.asking .delete ["admin", "healthcheck"]) .unit
  | .generateParkedInvoices page =>
    .free { Operation.asking .post ["admin", "invoices"] (.page page) with
      followsLocation := true } .unit
  | .setTransactionState state payment transaction =>
    .free { Operation.asking .put
        ["admin", "payments", payment.text, "transactions", transaction.text] with
      body := some (.json AdminPayment.codec state) } .unit

/-- Calls of plugins. -/
inductive PluginCall where
  | get (uri : String)
  | head (uri : String)
  | post (uri : String) (body : Option String)
  | put (uri : String) (body : Option String)
  | delete (uri : String)
  | options (uri : String)

namespace PluginCall

/-- The path of a plugin, whether or not its address starts with slashes. -/
def path (uri : String) : String :=
  "/plugins/" ++ String.ofList (uri.toList.dropWhile (· = '/'))

/-- A request that hands on the response. -/
def handingOn (method : Method) (uri : String) (body : Option String) : Operation :=
  .free { method, path := path uri, accept := "*/*",
          body := body.map fun content => ⟨"application/json", content⟩ } .raw

/-- The operation of a call. -/
def operation : PluginCall → Operation
  | .get uri => handingOn .get uri none
  | .head uri => handingOn .head uri none
  | .post uri body => handingOn .post uri body
  | .put uri body => handingOn .put uri body
  | .delete uri => handingOn .delete uri none
  | .options uri => handingOn .options uri none

end PluginCall

end BillingClient
