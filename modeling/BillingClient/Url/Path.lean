import BillingClient.Text.Form
import BillingClient.Url.Basic
import BillingClient.Url.Encoding

/-!
Contract: path segments, read from text.

The text is divided at `/`, and at `\` under a special scheme. The segments `.` and
`..`, also with their dots percent-encoded, move in the path instead of standing in
it: `.` stays, `..` goes back by one segment and never above the root.
-/

namespace BillingClient.Url

open BillingClient.Text

def isSlash (isSpecial : Bool) (c : Char) : Bool :=
  c == '/' || (isSpecial && c == '\\')

/-- A text divided at its slashes. -/
def divideSegments (isSpecial : Bool) (text : List Char) : List (List Char) :=
  Form.splitAt '/' (text.map fun c => if isSlash isSpecial c then '/' else c)

/-- A segment with `%2e` read as a dot. -/
def plainDots : List Char → List Char
  | '%' :: '2' :: 'e' :: rest => '.' :: plainDots rest
  | '%' :: '2' :: 'E' :: rest => '.' :: plainDots rest
  | c :: rest => c :: plainDots rest
  | [] => []

/-- What a segment does in a path. -/
inductive Step where
  | stay
  | back
  | enter (segment : String)
deriving DecidableEq, Repr

def Step.ofSegment (segment : List Char) : Step :=
  if plainDots segment = ['.'] then .stay
  else if plainDots segment = ['.', '.'] then .back
  else .enter (String.ofList (Percent.encodeChars segmentKeeps segment))

/-- The segments entered so far, the last first, after a step that a slash ends. -/
def Step.move (entered : List String) : Step → List String
  | .stay => entered
  | .back => entered.drop 1
  | .enter segment => segment :: entered

/-- The segments after the last step. A step that enters nothing leaves an empty last
segment. -/
def Step.finish (entered : List String) : Step → List String
  | .enter segment => segment :: entered
  | step => "" :: step.move entered

/-- The path that steps lead to, from segments entered before, the last first. -/
def walk (entered : List String) : List Step → List String
  | [] => entered.reverse
  | [last] => (last.finish entered).reverse
  | step :: rest => walk (step.move entered) rest

/-- The segments of a text, after segments that stand before it. -/
def readSegments (isSpecial : Bool) (before : List String) (text : List Char) : List String :=
  walk before.reverse ((divideSegments isSpecial text).map Step.ofSegment)

/-- Whether a segment is a drive letter and a colon or bar. -/
def isDrive (segment : List Char) : Bool :=
  match segment with
  | [letter, mark] => letter.isAlpha && (mark == ':' || mark == '|')
  | _ => false

/-- The segments of a file path: empty segments at its front are dropped, and a drive
letter is written with a colon. -/
def readFileSegments (text : List Char) : List String :=
  match (readSegments true [] text).dropWhile String.isEmpty with
  | [] => [""]
  | first :: rest =>
    if isDrive first.toList then String.ofList (first.toList.take 1 ++ [':']) :: rest
    else first :: rest

end BillingClient.Url
