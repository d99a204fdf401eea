import BillingClient.Text.Utf8
import BillingClient.Url.Idna.Direction
import BillingClient.Url.Idna.Joiner
import BillingClient.Url.Idna.Punycode

/-!
Contract: domain names in ASCII.

`toAscii?` maps and normalizes the name, and writes each label that is not ASCII as
`xn--` and its Punycode. A name of ASCII characters without such a label is only put
into lower case. There is no result for a name with a character that a domain may not
hold, with a label that is too long or no well-formed Punycode, or with joiners or
directions that do not fit.
-/

namespace BillingClient.Url.Idna

open BillingClient.Text

/-- The ASCII characters that a domain may not hold: controls, the blank, and those
that end or divide a host in a URL. -/
def isForbidden (c : Char) : Bool :=
  c.toNat ≤ 0x20 || c.toNat == 0x7F ||
  ['%', '#', '/', ':', '<', '>', '?', '@', '[', '\\', ']', '^', '|'].contains c

/-- What the Punycode of a label is written after. -/
def acePrefix : List Char := ['x', 'n', '-', '-']

/-- The most characters of a label that is written as Punycode. Longer ones are refused,
because writing takes a time that grows with the square of the length. -/
def longestLabel : Nat := 1000

/-- The most characters of a Punycode that is read. -/
def longestPunycode : Nat := 2000

/-- Whether a mapped label may be written as Punycode. -/
def isLabel (label : List Char) : Bool :=
  label.length ≤ longestLabel && !(label.head?.any isMark) && !label.any isDisallowed &&
    joinersFit [] label

/-- A mapped label as it is shown: in Unicode, if it may be. -/
def shownLabel? (label : List Char) : Option (List Char) :=
  if label.take 4 = acePrefix then
    if longestPunycode < (label.drop 4).length then none
    else (Punycode.decode? (label.drop 4)).filter fun decoded =>
      decoded.any (0x80 ≤ ·.toNat) && compose (decoded.flatMap mapChar) = decoded &&
        isLabel decoded && Punycode.encode decoded = label.drop 4
  else if label.all (·.toNat < 0x80) || isLabel label then some label
  else none

/-- A label as it is sent: in ASCII. -/
def sentLabel (label : List Char) : List Char :=
  if label.all (·.toNat < 0x80) then label else acePrefix ++ Punycode.encode label

/-- Labels joined by dots. -/
def joinLabels : List (List Char) → List Char
  | [] => []
  | [label] => label
  | label :: rest => label ++ '.' :: joinLabels rest

/-- Whether lower case is all that the name needs. -/
def isPlain (name : List Char) : Bool :=
  name.all (·.toNat < 0x80) &&
    (Form.splitAt '.' (name.map Char.toLower)).all (·.take 4 ≠ acePrefix)

/-- A domain name in ASCII. -/
def toAscii? (name : List Char) : Option (List Char) :=
  if isPlain name then
    let lower := name.map Char.toLower
    if lower.any isForbidden then none else some lower
  else if name.any isDisallowed then none
  else
    match (Form.splitAt '.' (compose (name.flatMap mapChar))).mapM shownLabel? with
    | none => none
    | some labels =>
      let ascii := joinLabels (labels.map sentLabel)
      if directionsFit labels && !ascii.any isForbidden then some ascii else none

end BillingClient.Url.Idna
