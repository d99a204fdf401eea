/-!
Contract: pages of a listing, and waits for the completion of a change.
-/

namespace BillingClient.Client

structure Page where
  /-- The index of the first record. -/
  offset : Nat := 0
  /-- The greatest number of records. -/
  limit : Nat := 100
deriving DecidableEq, Repr, Inhabited

/-- The page after a page. -/
def Page.next (page : Page) : Page :=
  { page with offset := page.offset + page.limit }

/-- Whether, and how long, the server may hold its answer until a change is complete. -/
structure Completion where
  isEnabled : Bool := false
  timeoutSeconds : Nat := 10
deriving DecidableEq, Repr, Inhabited

namespace Completion

def wait (seconds : Nat) : Completion :=
  ⟨true, seconds⟩

/-- Whether the server is asked to wait. A wait of no length is none. -/
def isActive (completion : Completion) : Bool :=
  completion.isEnabled && 0 < completion.timeoutSeconds

/-- How many milliseconds a response is waited for, to outlast the wait of the server. -/
def timeoutMillis (completion : Completion) (default : Nat) : Nat :=
  if completion.isActive then max default (1000 * completion.timeoutSeconds) else default

end Completion

end BillingClient.Client
