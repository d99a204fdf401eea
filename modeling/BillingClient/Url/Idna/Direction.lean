import BillingClient.Url.Idna.DirectionTable
import BillingClient.Url.Idna.Ranges

/-!
Contract: domain names with labels that are written from right to left (RFC 5893).

As soon as one character of a name is written so, each label has to begin with a letter,
which gives the label its direction, and keep to that direction up to its end. Digits may
stand in both, but European and Arabic ones not in one label from right to left.
-/

namespace BillingClient.Url.Idna

inductive Direction where
  | leftToRight
  | rightToLeft
  | arabicNumber
  | europeanNumber
  | neutral
  | mark
deriving DecidableEq, Repr

def directionRanges : List (Direction × List CharRange) :=
  [(.rightToLeft, ranges rightToLeftLetters), (.arabicNumber, ranges arabicNumbers),
    (.europeanNumber, ranges europeanNumbers), (.neutral, ranges neutralCharacters),
    (.mark, ranges directionlessMarks)]

namespace Direction

def ofChar (c : Char) : Direction :=
  ((directionRanges.find? fun entry => inRanges entry.2 c).map Prod.fst).getD .leftToRight

/-- Whether a name with such a character is read in both directions. -/
def turns (direction : Direction) : Bool :=
  direction = .rightToLeft || direction = .arabicNumber

/-- Whether characters written so make a label from left to right. `last` is the last of
them that is no mark. -/
def fitLeftToRight (inner : List Direction) (last : Direction) : Bool :=
  [leftToRight, europeanNumber].contains last && !inner.any turns

/-- Whether characters written so make a label from right to left. -/
def fitRightToLeft (inner : List Direction) (last : Direction) : Bool :=
  [rightToLeft, europeanNumber, arabicNumber].contains last &&
    !inner.contains leftToRight &&
    !((last :: inner).contains europeanNumber && (last :: inner).contains arabicNumber)

/-- Whether the characters of a label may stand in a name that is read in both
directions. -/
def fitLabel : List Direction → Bool
  | [] => true
  | first :: rest =>
    match first, rest.reverse.dropWhile (· = .mark) with
    | .leftToRight, [] => true
    | .rightToLeft, [] => true
    | .leftToRight, last :: inner => fitLeftToRight inner last
    | .rightToLeft, last :: inner => fitRightToLeft inner last
    | _, _ => false

end Direction

/-- Whether the labels of a name keep their directions. -/
def directionsFit (labels : List (List Char)) : Bool :=
  let directions := labels.map (·.map Direction.ofChar)
  !(directions.any (·.any Direction.turns)) || directions.all Direction.fitLabel

end BillingClient.Url.Idna
