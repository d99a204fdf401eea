import BillingClient.Client.Error
import BillingClient.Client.Query
import BillingClient.Json.Record

/-!
Contract: the options of a single call: other credentials or another tenant, the audit
trail, further headers and parameters, and whether a created object is fetched.
-/

namespace BillingClient.Client

/-- The options of a call. -/
structure Options where
  requestId : Option String := none
  /-- In place of the configured user. -/
  user : Option String := none
  /-- In place of the configured password. -/
  password : Option String := none
  /-- In place of the configured key of the tenant. -/
  tenantApiKey : Option String := none
  /-- In place of the configured secret of the tenant. -/
  tenantApiSecret : Option String := none
  /-- The author of a change. -/
  createdBy : Option String := none
  reason : Option String := none
  comment : Option String := none
  headers : List (String × String) := []
  /-- Parameters before those of the operation. -/
  query : Query := {}
  /-- Whether a created object is fetched, in place of what the operation does. -/
  followsLocation : Option Bool := none
  /-- Parameters for fetching a created object. -/
  followQuery : Query := {}
deriving DecidableEq, Repr, Inhabited

namespace Options

/-- The form of options as JSON, with every member. -/
def record : Json.Record Options where
  schema :=
    .field (.nullable "request_id" .string) <|
    .field (.nullable "user" .string) <|
    .field (.nullable "password" .string) <|
    .field (.nullable "tenant_api_key" .string) <|
    .field (.nullable "tenant_api_secret" .string) <|
    .field (.nullable "created_by" .string) <|
    .field (.nullable "reason" .string) <|
    .field (.nullable "comment" .string) <|
    .field (.fullList "headers" .pair) <|
    .field (.fullList "query_params" .pair) <|
    .field (.nullable "follow_location" .bool) <|
    .field (.fullList "query_params_for_follow" .pair) <|
    .done
  toRow value := (value.requestId, value.user, value.password, value.tenantApiKey,
    value.tenantApiSecret, value.createdBy, value.reason, value.comment, value.headers,
    value.query.pairs, value.followsLocation, value.followQuery.pairs, ())
  ofRow := fun (requestId, user, password, tenantApiKey, tenantApiSecret, createdBy, reason,
    comment, headers, query, followsLocation, followQuery, ()) =>
    { requestId, user, password, tenantApiKey, tenantApiSecret, createdBy, reason, comment,
      headers, query := ⟨query⟩, followsLocation, followQuery := ⟨followQuery⟩ }

def audit (createdBy reason comment : String) : Options :=
  { createdBy, reason, comment }

/-- Options with other credentials. -/
def withCredentials (options : Options) (user password : String) : Options :=
  { options with user, password }

/-- Options for another tenant. -/
def withTenant (options : Options) (apiKey apiSecret : String) : Options :=
  { options with tenantApiKey := apiKey, tenantApiSecret := apiSecret }

def addHeader (options : Options) (name value : String) : Options :=
  { options with headers := options.headers ++ [(name, value)] }

def addQuery (options : Options) (key value : String) : Options :=
  { options with query := options.query ++ .value key value }

/-- Options with a further parameter for fetching a created object. -/
def addFollowQuery (options : Options) (key value : String) : Options :=
  { options with followQuery := options.followQuery ++ .value key value }

/-- The author of a change, which every change needs. -/
def author (options : Options) (operation : String) : Except Error String :=
  required options.createdBy "createdBy" operation

end Options

end BillingClient.Client
