import BillingClient.Client.Basic

/-!
Contract: operations of the server.

An operation is a request, which may be refused before it is sent, and what its
reply is made of. A change needs an author; a look-up does not.
-/

namespace BillingClient

open BillingClient.Client
open BillingClient.Http

structure Operation : Type 1 where
  {Answer : Type}
  request : Options → Except Error Request
  reply : Reply Answer

namespace Operation

variable {α : Type}

def asking (method : Method) (path : List String) (query : Query := {}) : Request :=
  { method, path := Request.resource path, query }

/-- An operation that is never refused. -/
def free (request : Request) (reply : Reply α) : Operation :=
  ⟨fun _ => .ok request, reply⟩

/-- An operation that looks a resource up. -/
def lookup (path : List String) (query : Query) (reply : Reply α) : Operation :=
  free (asking .get path query) reply

/-- An operation that needs an author, and may be refused for other reasons then. -/
def authored (name : String) (request : Except Error Request) (reply : Reply α) : Operation :=
  ⟨fun options => do
    let _ ← options.author name
    request, reply⟩

end Operation

end BillingClient
