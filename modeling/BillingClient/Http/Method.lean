/-!
Contract: request methods, and the tokens that methods and header names are made of.
-/

namespace BillingClient.Http

/-- Whether a character may stand in a token. -/
def isTokenChar (c : Char) : Bool :=
  c.isAlphanum ||
    ['!', '#', '$', '%', '&', '\'', '*', '+', '-', '.', '^', '_', '`', '|', '~'].contains c

/-- Whether a text is a token. -/
def isToken (text : String) : Bool :=
  !text.isEmpty && text.toList.all isTokenChar

inductive Method where
  | get
  | head
  | options
  | post
  | put
  | delete
  /-- A method by its name, which is a token and none of the others. -/
  | other (name : String)
deriving DecidableEq, Repr, Inhabited

namespace Method

def name : Method → String
  | .get => "GET"
  | .head => "HEAD"
  | .options => "OPTIONS"
  | .post => "POST"
  | .put => "PUT"
  | .delete => "DELETE"
  | .other name => name

def ofName? (name : String) : Option Method :=
  match [get, head, options, post, put, delete].find? (Method.name · = name) with
  | some method => some method
  | none => if isToken name then some (.other name) else none

/-- Whether a method looks something up, so that nothing found is an answer. -/
def isLookup (method : Method) : Bool :=
  method = .get || method = .head

end Method

end BillingClient.Http
