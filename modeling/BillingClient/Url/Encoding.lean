import BillingClient.Text.Percent

/-!
Contract: which characters each part of a URL keeps.

Every other character is percent-encoded. A `%` is kept everywhere, so text that is
already encoded is not encoded again.
-/

namespace BillingClient.Url

def isControl (c : Char) : Bool :=
  c.toNat < 0x20 || c.toNat == 0x7F

/-- The characters that a path of no segments keeps. -/
def rootlessKeeps (c : Char) : Bool :=
  !isControl c

/-- The characters that a fragment keeps. -/
def fragmentKeeps (c : Char) : Bool :=
  !isControl c && [' ', '"', '<', '>', '`'].all (· != c)

/-- The characters that a path segment keeps. -/
def segmentKeeps (c : Char) : Bool :=
  fragmentKeeps c && ['#', '?', '{', '}'].all (· != c)

/-- The characters that a user name or password keeps. -/
def userKeeps (c : Char) : Bool :=
  segmentKeeps c && ['/', ':', ';', '=', '@', '[', '\\', ']', '^', '|'].all (· != c)

/-- The characters that a query keeps; under a special scheme the quote `'` is encoded too. -/
def queryKeeps (isSpecial : Bool) (c : Char) : Bool :=
  !isControl c && [' ', '"', '#', '<', '>'].all (· != c) && !(isSpecial && c == '\'')

end BillingClient.Url
