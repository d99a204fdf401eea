import BillingClient.Url.Idna.JoiningTable
import BillingClient.Url.Idna.Normalize

/-!
Contract: where the two joiners may stand in a label (RFC 5892).

Both may follow a virama, the mark that makes a conjunct. A non-joiner may also part two
characters that would join otherwise.
-/

namespace BillingClient.Url.Idna

/-- The joiner. -/
def joiner : Char := '\u200D'

/-- The non-joiner. -/
def nonJoiner : Char := '\u200C'

/-- The combining class of a virama. -/
def viramaClass : Nat := 9

/-- The characters that join what comes after them. -/
def forwardRanges : List CharRange := ranges joiningAfter ++ ranges joiningBoth

/-- The characters that join what comes before them. -/
def backwardRanges : List CharRange := ranges joiningBefore ++ ranges joiningBoth

/-- The characters through which others join. -/
def throughRanges : List CharRange := ranges joiningThrough

/-- Whether the next character of a text that others do not join through is in a table. -/
def meets (table : List CharRange) (text : List Char) : Bool :=
  (text.dropWhile (inRanges throughRanges)).head?.any (inRanges table)

/-- Whether a joiner may stand between two parts of a label, the first one in reverse. -/
def joinerFits (c : Char) (before after : List Char) : Bool :=
  before.head?.map combiningClass = some viramaClass ||
    (c = nonJoiner && meets forwardRanges before && meets backwardRanges after)

/-- Whether every joiner of a label may stand where it does. `before` is what has been
looked at, in reverse. -/
def joinersFit (before : List Char) : List Char → Bool
  | [] => true
  | c :: after =>
    ((c ≠ joiner && c ≠ nonJoiner) || joinerFits c before after) &&
      joinersFit (c :: before) after

end BillingClient.Url.Idna
