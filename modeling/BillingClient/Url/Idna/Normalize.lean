import BillingClient.Url.Idna.CompositionTable
import BillingClient.Url.Idna.MappingTable
import BillingClient.Url.Idna.Ranges

/-!
Contract: mapping and normalization of the characters of a domain name.

`mapped` replaces each character by what UTS #46 maps it to. `compose` is
normalization form C: characters are decomposed, runs of combining characters are
sorted by class, and then pairs are composed again.
-/

namespace BillingClient.Url.Idna

open BillingClient.Text

/-! ## Reading the tables -/

/-- A rule that maps every `step`-th character of a range. A single target moves along
with the character. -/
structure MappingRule where
  range : CharRange
  step : Nat
  targets : List Nat
deriving Repr

/-- The rule that a word of the mapping table writes. -/
def MappingRule.ofWord (word : List Char) : MappingRule :=
  let (source, target) := Form.divideAt '>' word
  let (range, step) := Form.divideAt '/' source
  ⟨CharRange.ofWord range, max 1 (hexNumber step), (Form.splitAt '.' target).map hexNumber⟩

/-- The code points that a rule maps a code point to, if it is about it. -/
def MappingRule.mapped? (rule : MappingRule) (code : Nat) : Option (List Nat) :=
  if rule.range.contains code && (code - rule.range.first) % rule.step == 0 then
    some (match rule.targets with
      | [target] => [target + (code - rule.range.first)]
      | targets => targets)
  else none

/-- The rules of the mapping table. -/
def mappingRules : List MappingRule :=
  (tableWords mappings).map MappingRule.ofWord

def ignoredRanges : List CharRange := ranges ignored

/-- The disallowed characters. -/
def disallowedRanges : List CharRange := ranges disallowed

def markRanges : List CharRange := ranges marks

def classRanges : List (CharRange × Nat) :=
  (tableWords combiningClasses).map fun word =>
    let (source, value) := Form.divideAt '>' word
    (CharRange.ofWord source, (digitsValue? value).getD 0)

/-- The composites with their two parts. -/
def compositeParts : List (Nat × Nat × Nat) :=
  (tableWords composites).map fun word =>
    let (composite, parts) := Form.divideAt '>' word
    let (first, second) := Form.divideAt '.' parts
    (hexNumber composite, hexNumber first, hexNumber second)

/-! ## Mapping -/

/-- Whether no domain name may hold the character. -/
def isDisallowed (c : Char) : Bool :=
  0x80 ≤ c.toNat && inRanges disallowedRanges c

/-- Whether the character is a combining mark. -/
def isMark (c : Char) : Bool :=
  0x80 ≤ c.toNat && inRanges markRanges c

/-- What a character is mapped to. -/
def mapChar (c : Char) : List Char :=
  if c.toNat < 0x80 then [c.toLower]
  else if inRanges ignoredRanges c then []
  else match mappingRules.findSome? (·.mapped? c.toNat) with
    | some targets => targets.map Char.ofNat
    | none => [c]

/-! ## Normalization -/

/-- The combining class of a character. -/
def combiningClass (c : Char) : Nat :=
  if c.toNat < 0x300 then 0
  else ((classRanges.find? (·.1.contains c.toNat)).map Prod.snd).getD 0

/-- The first Hangul syllable, the first of each kind of its parts, and their counts. -/
def hangulBase : Nat := 0xAC00
def leadBase : Nat := 0x1100
def vowelBase : Nat := 0x1161
def tailBase : Nat := 0x11A7
def leadCount : Nat := 19
def vowelCount : Nat := 21
def tailCount : Nat := 28

/-- The two parts of a composite. -/
def partsOf? (code : Nat) : Option (Nat × Nat) :=
  if hangulBase ≤ code && code < hangulBase + leadCount * vowelCount * tailCount then
    let index := code - hangulBase
    if index % tailCount = 0 then
      some (leadBase + index / (vowelCount * tailCount),
        vowelBase + index % (vowelCount * tailCount) / tailCount)
    else some (code - index % tailCount, tailBase + index % tailCount)
  else (compositeParts.find? (·.1 == code)).map Prod.snd

/-- The composite of two parts. No character before the first combining one is a second part. -/
def compositeOf? (first second : Char) : Option Char :=
  let a := first.toNat
  let b := second.toNat
  if b < 0x300 then none
  else if leadBase ≤ a && a < leadBase + leadCount &&
      vowelBase ≤ b && b < vowelBase + vowelCount then
    some (Char.ofNat
      (hangulBase + ((a - leadBase) * vowelCount + (b - vowelBase)) * tailCount))
  else if hangulBase ≤ a && a < hangulBase + leadCount * vowelCount * tailCount &&
      (a - hangulBase) % tailCount == 0 && tailBase < b && b < tailBase + tailCount then
    some (Char.ofNat (a + (b - tailBase)))
  else (compositeParts.find? fun (_, x, y) => x == a && y == b).map (Char.ofNat ·.1)

/-- The full decomposition of a character. Four levels of composites are enough for
every character. -/
def decomposeWithin : Nat → Nat → List Char
  | 0, code => [Char.ofNat code]
  | levels + 1, code =>
    match partsOf? code with
    | some (first, second) => decomposeWithin levels first ++ decomposeWithin levels second
    | none => [Char.ofNat code]

/-- The full decomposition of a character. -/
def decomposeChar (c : Char) : List Char :=
  if c.toNat < 0xC0 then [c] else decomposeWithin 4 c.toNat

/-- Puts a character before the combining characters at the front of a text that have a
greater class. -/
def insertMark (c : Char) : List Char → List Char
  | [] => [c]
  | d :: rest =>
    if combiningClass d ≠ 0 ∧ combiningClass d < combiningClass c then d :: insertMark c rest
    else c :: d :: rest

/-- Sorts each run of combining characters by class; equal classes keep their order. -/
def sortMarks (text : List Char) : List Char :=
  text.foldr (fun c sorted => if combiningClass c = 0 then c :: sorted else insertMark c sorted) []

/-- Composes the characters after a starter with it. `passed` are those that stayed, in
reverse, and `lastClass` is the class of the last of them. -/
def composeFrom (starter : Char) (passed : List Char) (lastClass : Option Nat) :
    List Char → List Char
  | [] => starter :: passed.reverse
  | c :: rest =>
    let itsClass := combiningClass c
    let reachable := match lastClass with
      | none => true
      | some last => last < itsClass
    match if reachable then compositeOf? starter c else none with
    | some composite => composeFrom composite passed lastClass rest
    | none =>
      if itsClass = 0 then starter :: passed.reverse ++ composeFrom c [] none rest
      else composeFrom starter (c :: passed) (some itsClass) rest

/-- Normalization form C. -/
def compose (text : List Char) : List Char :=
  match sortMarks (text.flatMap decomposeChar) with
  | [] => []
  | c :: rest => composeFrom c [] none rest

end BillingClient.Url.Idna
